/-!
Glob patterns of action arguments, over the glob library that builds and matches them.

The policy code takes two things from its glob library: building a pattern from a text, which
may fail with a message, and matching a text against a pattern (`Globs`). Of a built pattern it
relies on what the library documents: the pattern gives back the text it was built from, and what
it matches is a matter of that text alone. So a pattern is its text, with the library's word that
the text builds (`Pattern`), and two patterns are the same when their texts are.

Before a text goes to the library, runs of `*` are written as one (`collapseStars`), and a text
that is then exactly `*` is no pattern at all: it admits every argument (`Pattern.compile?`,
`Pattern.compile?_stars`).
-/

namespace PeerGate

/-- What the policy code uses of a glob library: whether a text builds a pattern, with the
message of the error when it does not, and whether the pattern of a text matches a text. -/
structure Globs where
  /-- Building the pattern of a text: it builds, or fails with a message. -/
  build : String → Except String Unit
  /-- Whether the pattern built from the first text matches the second. -/
  accepts : String → String → Bool

/-- The text of a pattern with every run of `*` written as one. -/
def collapseStars : List Char → List Char
  | '*' :: '*' :: rest => collapseStars ('*' :: rest)
  | c :: rest => c :: collapseStars rest
  | [] => []

/-- A pattern the library built: its text, with runs of `*` collapsed. -/
structure Pattern (G : Globs) where
  text : String
  builds : G.build text = .ok ()

namespace Pattern

variable {G : Globs}

/-- Two patterns are the same when their texts are. -/
instance : BEq (Pattern G) where
  beq p q := p.text == q.text

/-- The pattern of an argument text, or `none` when the text admits every argument: runs of `*`
are collapsed first, and exactly `*` is no pattern. -/
def compile? (G : Globs) (src : String) : Except String (Option (Pattern G)) :=
  let text := collapseStars src.toList
  if text = ['*'] then .ok none
  else
    match h : G.build (String.ofList text) with
    | .ok () => .ok (some ⟨String.ofList text, h⟩)
    | .error msg => .error msg

/-- Whether an argument matches the pattern. -/
def admits (p : Pattern G) (arg : String) : Bool :=
  G.accepts p.text arg

/-- A run of stars collapses to the one star. -/
theorem collapseStars_replicate : ∀ n : Nat, collapseStars (List.replicate (n + 1) '*') = ['*']
  | 0 => rfl
  | n + 1 => by
    simp only [List.replicate_succ, collapseStars]
    exact collapseStars_replicate n

/-- A run of stars is no pattern, whatever the library. -/
theorem compile?_stars (n : Nat) :
    compile? G (String.ofList (List.replicate (n + 1) '*')) = .ok none := by
  simp [compile?, collapseStars_replicate]

example : compile? G "***" = .ok none := rfl

end Pattern

end PeerGate
