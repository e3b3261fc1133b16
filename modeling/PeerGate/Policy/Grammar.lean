import PeerGate.Policy.Accounts
import PeerGate.Policy.Expr
import PeerGate.Text.Utf8

/-!
Reading a policy text.

A policy text is a version, `1`, then rules separated by `;`:

```
policy := version (";" rule?)*
rule   := ("*" | expr) ("=" ("allow" | "deny"))?
expr   := and ("|" and)*
and    := unary ("&" unary)*
unary  := "!" unary | "(" expr ")" | "*" | name "(" arg? ")"
arg    := quoted | bare
```

Blanks (Unicode `White_Space`) may stand between tokens. A rule without `=` allows. A lone `*`
before the end of the rule is the rule that always applies; a `*` inside an expression is the
identity test that any user in any group passes. `user(u)`, `user(u:g)` and `group(g)` are
identity tests, where an id is `*`, a decimal word or a name the accounts know. Any other name
calls a custom action of the table, which must take an argument exactly when one is given, and an
argument must be a glob pattern. A bare argument runs up to a blank, a bracket, a quote or `;`; a
quoted one runs to the matching quote, and a backslash takes the next character as it is.

The version is the text before the first `;`, trimmed. Faults name the byte offset where they
arise. The action table is checked first, and its faults are at offset 0. Nesting is limited:
each `!`, each parenthesised expression, each rule's expression and each further operand of `&`
or `|` takes one level, and at most `maxDepth` levels may be open at once.

Every reading function takes the text still to read and returns the rest, which is never longer
(`Tail`); the rule loop ends because each round reads at least a `;`.

* `Grammar.parse`: the reader.
* `Grammar.checkActions`: the action table's faults.
-/

namespace PeerGate

namespace Grammar

open Text

/-- The most levels of nesting a policy text may hold open at once. -/
def maxDepth : Nat := 256

/-- What reading works with: the byte length of the whole text, the action table and the
accounts. -/
structure Env where
  size : Nat
  actions : List ActionSpec
  accounts : Accounts
  /-- The glob library that checks action arguments. -/
  glob : Globs

/-- A refusal at the place where `rest` is still to be read. -/
def Env.fault (env : Env) (rest : List Char) (f : CompileFault) : SpecError :=
  .compile (env.size - byteLength rest) f

/-- A refusal because something else stands where `w` was wanted. -/
def Env.unexpected (env : Env) (w : Wanted) (rest : List Char) : SpecError :=
  env.fault rest (.expected w rest.head?)

/-- A rest of the text `s`: never longer than `s`. -/
abbrev Tail (s : List Char) := { r : List Char // r.length ≤ s.length }

/-- A reading of the front of `s`: a value and the rest, or a refusal. -/
abbrev Reading (s : List Char) (β : Type) := Except SpecError (β × Tail s)

/-- Reading on from the rest of a reading. -/
def Reading.next {s : List Char} {β γ : Type} (x : Reading s β)
    (k : β → (t : List Char) → Reading t γ) : Reading s γ :=
  match x with
  | .error e => .error e
  | .ok (b, t) =>
    match k b t.1 with
    | .error e => .error e
    | .ok (c, u) => .ok (c, ⟨u.1, Nat.le_trans u.2 t.2⟩)

/-- A reading of a rest of `s` as a reading of `s`. -/
def Reading.widen {s t : List Char} {β : Type} (x : Reading t β) (h : t.length ≤ s.length) :
    Reading s β :=
  match x with
  | .error e => .error e
  | .ok (b, u) => .ok (b, ⟨u.1, Nat.le_trans u.2 h⟩)

/-- The value of a reading, keeping its rest. -/
def Reading.map {s : List Char} {β γ : Type} (x : Reading s β) (f : β → γ) : Reading s γ :=
  match x with
  | .error e => .error e
  | .ok (b, t) => .ok (f b, t)

theorem length_dropWhile_le (p : Char → Bool) (s : List Char) :
    (s.dropWhile p).length ≤ s.length :=
  (List.dropWhile_suffix p).length_le

theorem length_dropBlanks_le (s : List Char) : (dropBlanks s).length ≤ s.length :=
  length_dropWhile_le _ _

/-- The text with its leading blanks skipped. -/
def skip (s : List Char) : Tail s :=
  ⟨dropBlanks s, length_dropBlanks_le s⟩

/-- The rest after a character `c` that follows blanks, if `c` is there. -/
def eat? (c : Char) (s : List Char) : Option (Tail s) :=
  match h : dropBlanks s with
  | d :: rest =>
    if d = c then
      some ⟨rest, by have := length_dropBlanks_le s; rw [h] at this; simp at this; omega⟩
    else none
  | [] => none

/-- Skip blanks and read the character `c`. -/
def expect (env : Env) (c : Char) (s : List Char) : Reading s Unit :=
  match eat? c s with
  | some t => .ok ((), t)
  | none => .error (env.unexpected (.char c) (dropBlanks s))

/-- A character that may start a name. -/
def identStart (c : Char) : Bool :=
  c.isAlpha || c == '_'

/-- A character that may continue a name. -/
def identChar (c : Char) : Bool :=
  c.isAlphanum || c == '_'

/-- A name: an ASCII letter or `_`, then ASCII letters, digits and `_`. -/
def isIdent : List Char → Bool
  | c :: cs => identStart c && cs.all identChar
  | [] => false

/-- Skip blanks and read a name. -/
def ident (env : Env) (s : List Char) : Reading s String :=
  match h : dropBlanks s with
  | c :: rest =>
    if identStart c then
      .ok (String.ofList ((c :: rest).takeWhile identChar), ⟨(c :: rest).dropWhile identChar, by
        have h1 := length_dropBlanks_le s
        rw [h] at h1
        have h2 := length_dropWhile_le identChar (c :: rest)
        omega⟩)
    else .error (env.unexpected .identifier (c :: rest))
  | [] => .error (env.unexpected .identifier [])

/-- A character that ends a bare argument. -/
def endsBare (c : Char) : Bool :=
  isBlank c || c == '(' || c == ')' || c == '\'' || c == '"' || c == ';'

/-- The rest of a quoted argument after its opening quote, read into `acc`; a refusal at `start`
if the closing quote is missing. -/
def quotedFrom (env : Env) (quote : Char) (start : List Char) (acc : List Char) :
    (s : List Char) → Reading s String
  | [] => .error (env.fault start .unterminated)
  | ['\\'] => .error (env.fault start .unterminated)
  | '\\' :: c :: rest => (quotedFrom env quote start (c :: acc) rest).widen (by simp; omega)
  | c :: rest =>
    if c = quote then .ok (String.ofList acc.reverse, ⟨rest, by simp⟩)
    else (quotedFrom env quote start (c :: acc) rest).widen (by simp)

/-- An argument, at a place where blanks have been skipped: none before `)`, else a quoted or a
bare one. -/
def arg (env : Env) (s : List Char) : Reading s (Option String) :=
  match s with
  | ')' :: rest => .ok (none, ⟨')' :: rest, Nat.le_refl _⟩)
  | '\'' :: rest => ((quotedFrom env '\'' rest [] rest).map some).widen (by simp)
  | '"' :: rest => ((quotedFrom env '"' rest [] rest).map some).widen (by simp)
  | c :: rest =>
    let bare := (c :: rest).takeWhile (fun d => !endsBare d)
    if bare.isEmpty then .error (env.unexpected .argument (c :: rest))
    else .ok (some (String.ofList bare),
      ⟨(c :: rest).dropWhile (fun d => !endsBare d), length_dropWhile_le _ _⟩)
  | [] => .error (env.unexpected .argumentOrClose [])

/-- An id of an identity test: `*`, a decimal word, or a name the accounts know. -/
def identity (env : Env) (argAt : List Char) (kind : IdKind) (s : String) :
    Except SpecError IdSpec :=
  if s = "*" then .ok .any
  else if s.isEmpty then .error (env.fault argAt (.emptyId kind))
  else if s.toList.all Char.isDigit then
    match (Numeral.digitsValue 10 s.toList).bind Numeral.toWord32? with
    | some n => .ok (.exact n)
    | none => .error (env.fault argAt (.idOutOfRange kind s))
  else
    let found := match kind with
      | .user => env.accounts.uid? s
      | .group => env.accounts.gid? s
    match found with
    | some n => .ok (.exact n)
    | none => .error (env.fault argAt (.unknownId kind s))

/-- The test a call stands for, once its name and argument are read: `nameAt` is where the name
stands and `argAt` where the argument does. -/
def callExpr (env : Env) (nameAt argAt : List Char) (name : String) (a : Option String) :
    Except SpecError (Expr String) :=
  match name with
  | "user" =>
    match a with
    | none => .error (env.fault argAt (.needsArgument .user))
    | some a => do
      let parts := a.toList.span (· != ':')
      let uid ← identity env argAt .user (String.ofList parts.1)
      let gid ← match parts.2 with
        | _ :: g => identity env argAt .group (String.ofList g)
        | [] => pure .any
      return .identity uid gid
  | "group" =>
    match a with
    | none => .error (env.fault argAt (.needsArgument .group))
    | some a => do
      let gid ← identity env argAt .group a
      return .identity .any gid
  | _ =>
    match env.actions.find? (·.name == name) with
    | none => .error (env.fault nameAt (.unknownAction name))
    | some spec =>
      match a, spec.arity with
      | some v, 0 => .error (env.fault argAt (.unexpectedArgument v name))
      | none, 1 => .error (env.fault argAt (.missingArgument name))
      | none, _ => .ok (.custom spec.id none)
      | some p, _ =>
        match Pattern.compile? env.glob p with
        | .ok _ => .ok (.custom spec.id (some p))
        | .error msg => .error (env.fault argAt (.badPattern p msg))

/-- A call `name(arg)`, at a place where blanks have been skipped. -/
def call (env : Env) (s : List Char) : Reading s (Expr String) :=
  (ident env s).next fun name t₁ =>
    (expect env '(' t₁).next fun _ t₂ =>
      ((arg env (skip t₂).1).next fun a t₄ =>
        (expect env ')' t₄).next fun _ t₅ =>
          match callExpr env s (skip t₂).1 name a with
          | .error e => .error e
          | .ok x => .ok (x, ⟨t₅, Nat.le_refl _⟩)).widen (skip t₂).2

mutual

/-- An expression, with `room` levels of nesting left; it takes one level itself. -/
def expr (env : Env) (room : Nat) (s : List Char) : Reading s (Expr String) :=
  match room with
  | 0 => .error (env.fault s .tooDeep)
  | r + 1 => (andExpr env r s).next fun left t => orTail env r left t
termination_by 4 * room

/-- Further `|` operands after `left`, each taking one more level. -/
def orTail (env : Env) (room : Nat) (left : Expr String) (s : List Char) :
    Reading s (Expr String) :=
  match eat? '|' s with
  | none => .ok (left, skip s)
  | some t =>
    match room with
    | 0 => .error (env.fault t.1 .tooDeep)
    | r + 1 =>
      ((andExpr env r t.1).next fun right u => orTail env r (.or left right) u).widen t.2
termination_by 4 * room

/-- Operands joined by `&`, with `room` levels left. -/
def andExpr (env : Env) (room : Nat) (s : List Char) : Reading s (Expr String) :=
  (unary env room s).next fun left t => andTail env room left t
termination_by 4 * room + 3

/-- Further `&` operands after `left`, each taking one more level. -/
def andTail (env : Env) (room : Nat) (left : Expr String) (s : List Char) :
    Reading s (Expr String) :=
  match eat? '&' s with
  | none => .ok (left, skip s)
  | some t =>
    match room with
    | 0 => .error (env.fault t.1 .tooDeep)
    | r + 1 =>
      ((unary env r t.1).next fun right u => andTail env r (.and left right) u).widen t.2
termination_by 4 * room

/-- A negation, or a primary expression. -/
def unary (env : Env) (room : Nat) (s : List Char) : Reading s (Expr String) :=
  match eat? '!' s with
  | some t =>
    match room with
    | 0 => .error (env.fault t.1 .tooDeep)
    | r + 1 =>
      ((unary env r t.1).map Expr.not).widen t.2
  | none => primary env room s
termination_by 4 * room + 2

/-- A parenthesised expression, a `*`, or a call. -/
def primary (env : Env) (room : Nat) (s : List Char) : Reading s (Expr String) :=
  let t := skip s
  match h : t.1 with
  | '(' :: rest =>
    ((expr env room rest).next fun inner u => (expect env ')' u).map fun _ => inner).widen
      (by have := t.2; rw [h] at this; simp at this; omega)
  | '*' :: rest =>
    .ok (.identity .any .any, ⟨rest, by have := t.2; rw [h] at this; simp at this; omega⟩)
  | c :: rest =>
    if identStart c then
      (call env t.1).widen t.2
    else .error (env.unexpected .expression (c :: rest))
  | [] => .error (env.unexpected .expression [])
termination_by 4 * room + 1

end

/-- The rest after a lone `*`, if the rule starts with one: a `*` followed, after blanks, by the
end, `;` or `=`. -/
def loneStar? (s : List Char) : Option (Tail s) :=
  match eat? '*' s with
  | some t =>
    match dropBlanks t.1 with
    | [] | ';' :: _ | '=' :: _ => some ⟨dropBlanks t.1,
        Nat.le_trans (length_dropBlanks_le t.1) t.2⟩
    | _ => none
  | none => none

/-- The decision of a rule: after `=`, the word `allow` or `deny`; without `=`, allow. -/
def access (env : Env) (s : List Char) : Reading s Access :=
  match eat? '=' s with
  | none => .ok (.allow, skip s)
  | some t =>
    match ident env t.1 with
    | .error e => .error e
    | .ok (word, u) =>
      match Access.ofName? word with
      | some a => .ok (a, ⟨u.1, Nat.le_trans u.2 t.2⟩)
      | none => .error (env.fault t.1 (.notAccess word))

/-- One rule, at a place where blanks have been skipped. -/
def rule (env : Env) (s : List Char) : Reading s (Rule String) :=
  match loneStar? s with
  | some t => ((access env t.1).map fun a => ⟨none, a⟩).widen t.2
  | none =>
    (expr env maxDepth s).next fun e t => (access env t).map fun a => ⟨some e, a⟩

/-- The rules from `s` on, after those read so far. -/
def rules (env : Env) (s : List Char) (acc : Array (Rule String)) :
    Except SpecError (List (Rule String)) :=
  match _hs : dropBlanks s with
  | [] => .ok acc.toList
  | ';' :: rest => rules env rest acc
  | c :: rest =>
    match rule env (c :: rest) with
    | .error e => .error e
    | .ok (r, t) =>
      match _ht : dropBlanks t.1 with
      | [] => .ok (acc.push r).toList
      | ';' :: more => rules env more (acc.push r)
      | d :: more => .error (env.unexpected (.char ';') (d :: more))
termination_by s.length
decreasing_by
  · have := length_dropBlanks_le s
    rw [_hs] at this
    simp at this
    omega
  · have h1 := length_dropBlanks_le s
    have h2 := length_dropBlanks_le t.1
    have h3 := t.2
    rw [_hs] at h1
    rw [_ht] at h2
    simp at h1 h2 h3
    omega

/-- The faults of an action table: for each action in turn, id 0, an arity above 1, a name that
is no identifier or is `user` or `group`, and an id or name of an earlier action. -/
def checkActions (actions : List ActionSpec) : Except SpecError Unit :=
  go [] actions
where
  /-- Check the actions after the earlier ones. -/
  go (earlier : List ActionSpec) : List ActionSpec → Except SpecError Unit
    | [] => .ok ()
    | a :: rest =>
      if a.id = 0 then .error (.compile 0 (.actionIdZero a.name))
      else if a.arity > 1 then .error (.compile 0 (.unsupportedArity a.name a.arity))
      else if !isIdent a.name.toList || a.name = "user" || a.name = "group" then
        .error (.compile 0 (.invalidActionName a.name))
      else
        match earlier.find? (fun b => b.id == a.id || b.name == a.name) with
        | some b => .error (.compile 0 (.actionClash a.name b.name))
        | none => go (earlier ++ [a]) rest

/-- The rules of a policy text, read with an action table and accounts. -/
def parse (G : Globs) (spec : String) (actions : List ActionSpec) (accounts : Accounts) :
    Except SpecError (List (Rule String)) := do
  checkActions actions
  let cs := spec.toList
  let parts := cs.span (· != ';')
  let version := trimList parts.1
  if version ≠ ['1'] then
    throw (.unsupportedVersion (String.ofList version))
  match parts.2 with
  | [] => return []
  | _ :: body => rules ⟨byteLength cs, actions, accounts, G⟩ body #[]

end Grammar

end PeerGate
