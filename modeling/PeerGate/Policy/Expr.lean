import PeerGate.Policy.Basic
import PeerGate.Policy.Fault
import PeerGate.Policy.Pattern

/-!
Conditions of policy rules.

A condition tests the identity of the requester, or the action of the request and its argument,
and combines such tests with `not`, `and` and `or`. The argument of a custom test has a type of
its own: the raw text as a policy text spells it (`Expr String`), or the pattern a glob library
`G` built from it (`Expr (Pattern G)`).

* `Expr.compile`: raw arguments to patterns; an argument that is no pattern is refused at offset 0.
* `Expr.holds`: whether a request satisfies a compiled condition. Without an argument a custom test
  holds only if it has no pattern; with one it holds if there is no pattern or the pattern admits
  it.
* `Expr.same`: equality up to swapping the two sides of any `and` or `or`, with identities compared
  as they are and custom tests by action id and pattern text.
* `Expr.height`: the most `not`, `and` and `or` nodes on a path from the root.
* `Rule`: a condition, or none for a rule that always applies, with the decision it gives.
-/

namespace PeerGate

/-- A condition of a policy rule, with custom arguments of type `α`. -/
inductive Expr (α : Type) where
  /-- The requester is this user and in this group. -/
  | identity (uid gid : IdSpec)
  /-- The request is this action, with an argument that fits. -/
  | custom (action : UInt32) (arg : Option α)
  | not (e : Expr α)
  | and (l r : Expr α)
  | or (l r : Expr α)
deriving DecidableEq, Repr

namespace Expr

variable {α : Type}

/-- The most `not`, `and` and `or` nodes on a path from the root to a test. -/
def height : Expr α → Nat
  | identity _ _ => 0
  | custom _ _ => 0
  | not e => e.height + 1
  | and l r => max l.height r.height + 1
  | or l r => max l.height r.height + 1

/-- The condition with every raw argument compiled to a pattern. An argument that is no pattern
refuses the whole condition, at offset 0. -/
def compile (G : Globs) : Expr String → Except SpecError (Expr (Pattern G))
  | identity u g => .ok (identity u g)
  | custom a none => .ok (custom a none)
  | custom a (some p) =>
    match Pattern.compile? G p with
    | .ok pat => .ok (custom a pat)
    | .error msg => .error (.compile 0 (.badPattern p msg))
  | not e => do return not (← compile G e)
  | and l r => do
    let l ← compile G l
    let r ← compile G r
    return and l r
  | or l r => do
    let l ← compile G l
    let r ← compile G r
    return or l r

/-- Whether a request satisfies a condition: the requester's credential if known, the action id
and the argument if any. -/
def holds {G : Globs} (cred : Option Credential) (action : UInt32) (arg : Option String) :
    Expr (Pattern G) → Bool
  | identity u g => u.admitsUser cred && g.admitsGroup cred
  | custom want pat =>
    want == action &&
      match arg, pat with
      | some a, some p => p.admits a
      | some _, none => true
      | none, p => p.isNone
  | not e => !holds cred action arg e
  | and l r => holds cred action arg l && holds cred action arg r
  | or l r => holds cred action arg l || holds cred action arg r

/-- Equality up to swapping the sides of any `and` or `or`: identities compare as they are,
custom tests by action id and argument. -/
def same [BEq α] : Expr α → Expr α → Bool
  | identity u₁ g₁, identity u₂ g₂ => u₁ == u₂ && g₁ == g₂
  | custom a₁ p₁, custom a₂ p₂ => a₁ == a₂ && p₁ == p₂
  | not x, not y => same x y
  | and l₁ r₁, and l₂ r₂ =>
    (same l₁ l₂ && same r₁ r₂) || (same l₁ r₂ && same r₁ l₂)
  | or l₁ r₁, or l₂ r₂ =>
    (same l₁ l₂ && same r₁ r₂) || (same l₁ r₂ && same r₁ l₂)
  | _, _ => false

theorem holds_not {G : Globs} (cred : Option Credential) (action : UInt32) (arg : Option String)
    (e : Expr (Pattern G)) : (not e).holds cred action arg = !e.holds cred action arg := rfl

end Expr

/-- A rule of a policy: its condition, or none for a rule that always applies, and the decision
it gives. -/
structure Rule (α : Type) where
  cond : Option (Expr α)
  access : Access
deriving DecidableEq, Repr

end PeerGate
