import PeerGate.Policy.Pattern

/-!
A glob library: the one the runner hands to the policy code.

A pattern is read character by character. `?` stands for any one character and `*` for any run of
characters; neither treats `/` specially, and matching is case-sensitive. `[...]` stands for one
character of a class and `[!...]` for one character outside it. A class holds single characters
and ranges `a-z`; a `]` right after the opening `[` or `[!` is a member, and the class ends at the
next `]`. A `[` that starts no class, an empty class included, makes the pattern invalid. There is
no escape character.

Matching tries, at each `*`, the shortest run first. A run of the text that ends before the
pattern needs its next character fails the whole match at once, since a longer run for an earlier
`*` would leave even less text.

No theorem of the policy code rests on this library: they hold of every `Globs`.

* `Glob.tokens?`: reading a pattern.
* `Glob.matchFrom`: the three-valued matcher.
* `Glob.library`: the two as a `Globs`.
-/

namespace PeerGate

namespace Glob

/-- Why a pattern text is no pattern. -/
inductive Fault where
  /-- A `[` that starts no class: the class is empty or has no closing `]`. -/
  | invalidRange
deriving DecidableEq, Repr

/-- The message of a fault. -/
def Fault.message : Fault → String
  | .invalidRange => "invalid range pattern"

/-- A member of a character class: one character, or an inclusive range. -/
inductive Member where
  | single (c : Char)
  | range (lo hi : Char)
deriving DecidableEq, Repr

/-- Whether a character is a member. -/
def Member.admits (c : Char) : Member → Bool
  | single d => c == d
  | range lo hi => lo ≤ c && c ≤ hi

/-- One step of a pattern. -/
inductive Token where
  /-- This character. -/
  | char (c : Char)
  /-- Any one character. -/
  | one
  /-- Any run of characters, the empty run included. -/
  | run
  /-- One character of the class. -/
  | within (ms : List Member)
  /-- One character outside the class. -/
  | except (ms : List Member)
deriving DecidableEq, Repr

/-- Whether a token that stands for one character admits this one. -/
def Token.admits (c : Char) : Token → Bool
  | char d => c == d
  | one => true
  | run => true
  | within ms => ms.any (Member.admits c)
  | except ms => !ms.any (Member.admits c)

/-- The members of a class body: `a-z` is a range whenever three characters remain and the second
is `-`, anything else a single character. -/
def members : List Char → List Member
  | a :: '-' :: b :: rest => .range a b :: members rest
  | a :: rest => .single a :: members rest
  | [] => []

/-- The tokens of a pattern text. -/
def tokens? : List Char → Except Fault (List Token)
  | [] => .ok []
  | '?' :: rest => (tokens? rest).map (.one :: ·)
  | '*' :: rest => (tokens? rest).map (.run :: ·)
  | '[' :: '!' :: first :: rest =>
    if rest.length ≥ 1 then
      match (rest.idxOf? ']') with
      | some j =>
        (tokens? (rest.drop (j + 1))).map (.except (members (first :: rest.take j)) :: ·)
      | none => .error .invalidRange
    else .error .invalidRange
  | '[' :: first :: rest =>
    if first ≠ '!' ∧ rest.length ≥ 1 then
      match (rest.idxOf? ']') with
      | some j =>
        (tokens? (rest.drop (j + 1))).map (.within (members (first :: rest.take j)) :: ·)
      | none => .error .invalidRange
    else .error .invalidRange
  | '[' :: [] => .error .invalidRange
  | c :: rest => (tokens? rest).map (.char c :: ·)
termination_by cs => cs.length
decreasing_by all_goals (simp only [List.length_cons, List.length_drop]; omega)

/-- The verdict of matching a part of a pattern against a part of a text. -/
inductive Outcome where
  | matched
  /-- This way of matching failed; another choice at an earlier `*` may still match. -/
  | noMatch
  /-- The text ran out before the pattern: no choice at an earlier `*` can match. -/
  | exhausted
deriving DecidableEq, Repr

/-- A `*`: the rest of the pattern tried against the text, then against ever shorter tails of it,
until one try is decisive. -/
def runFrom (rest : List Char → Outcome) : List Char → Outcome
  | [] => rest []
  | c :: cs =>
    match rest (c :: cs) with
    | .noMatch => runFrom rest cs
    | r => r

/-- Matching tokens against a text. -/
def matchFrom : List Token → List Char → Outcome
  | [], [] => .matched
  | [], _ :: _ => .noMatch
  | .run :: toks, cs => runFrom (matchFrom toks) cs
  | _ :: _, [] => .exhausted
  | t :: toks, c :: cs => if t.admits c then matchFrom toks cs else .noMatch

/-- The glob library as the runner uses it: a text builds a pattern when it reads as tokens, and
the pattern matches a text when its tokens do. -/
def library : Globs where
  build text :=
    match tokens? text.toList with
    | .ok _ => .ok ()
    | .error f => .error f.message
  accepts text arg :=
    match tokens? text.toList with
    | .ok toks => matchFrom toks arg.toList == .matched
    | .error _ => false

end Glob

end PeerGate
