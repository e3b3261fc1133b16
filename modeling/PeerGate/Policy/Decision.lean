import PeerGate.Policy.Grammar

/-!
Policies and their decisions.

A policy is the list of compiled rules of a policy text, in the order of the text. The decision
for a request follows three steps: a requester that runs as root is allowed; without a policy the
default decides; otherwise the last rule that applies decides, and the default stands when none
does. A rule without a condition always applies.

* `Policy.ofRules`, `Policy.compile`: compiling read rules, and reading and compiling a text.
* `verdict`: the decision; `verdict_root`, `verdict_none` and `verdict_some` give its three steps.
* `Policy.same`: rule-by-rule equality, conditions compared by `Expr.same`.
-/

namespace PeerGate

/-- A compiled policy: its rules in the order of the text, with patterns of the glob library
`G`. -/
structure Policy (G : Globs) where
  rules : List (Rule (Pattern G))

namespace Rule

variable {G : Globs}

/-- The rule with its condition compiled. -/
def compile (G : Globs) (r : Rule String) : Except SpecError (Rule (Pattern G)) :=
  match r.cond with
  | none => .ok ⟨none, r.access⟩
  | some e => do return ⟨some (← e.compile G), r.access⟩

/-- Whether a rule applies to a request. -/
def applies (r : Rule (Pattern G)) (cred : Option Credential) (action : UInt32)
    (arg : Option String) : Bool :=
  match r.cond with
  | none => true
  | some e => e.holds cred action arg

/-- Two rules are the same when they decide alike and their conditions are the same, or both
absent. -/
def same (a b : Rule (Pattern G)) : Bool :=
  a.access == b.access &&
    match a.cond, b.cond with
    | none, none => true
    | some x, some y => x.same y
    | _, _ => false

end Rule

namespace Policy

variable {G : Globs}

/-- The policy of read rules, each compiled in turn. -/
def ofRules (G : Globs) (rules : List (Rule String)) : Except SpecError (Policy G) := do
  return ⟨← rules.mapM (Rule.compile G)⟩

/-- The policy of a text, read with an action table and accounts. -/
def compile (G : Globs) (spec : String) (actions : List ActionSpec) (accounts : Accounts) :
    Except SpecError (Policy G) := do
  ofRules G (← Grammar.parse G spec actions accounts)

/-- Two policies are the same when they have as many rules and the rules are the same in
order. -/
def same (p q : Policy G) : Bool :=
  p.rules.length == q.rules.length && (p.rules.zip q.rules).all fun (a, b) => a.same b

end Policy

/-- The decision for a request: the requester's credential if known, the action id, the argument
if any, and the default. -/
def verdict {G : Globs} (policy : Option (Policy G)) (cred : Option Credential) (action : UInt32)
    (arg : Option String) (default : Access) : Access :=
  if cred.any Credential.isRoot then .allow
  else
    match policy with
    | none => default
    | some p =>
      p.rules.foldl (fun acc r => if r.applies cred action arg then r.access else acc) default

theorem verdict_root {G : Globs} (policy : Option (Policy G)) (c : Credential) (action : UInt32)
    (arg : Option String) (default : Access) (h : c.isRoot = true) :
    verdict policy (some c) action arg default = .allow := by
  simp [verdict, h]

theorem verdict_none {G : Globs} (cred : Option Credential) (action : UInt32)
    (arg : Option String) (default : Access) (h : cred.any Credential.isRoot = false) :
    verdict (none : Option (Policy G)) cred action arg default = default := by
  simp [verdict, h]

theorem verdict_some {G : Globs} (p : Policy G) (cred : Option Credential) (action : UInt32)
    (arg : Option String) (default : Access) (h : cred.any Credential.isRoot = false) :
    verdict (some p) cred action arg default =
      p.rules.foldl (fun acc r => if r.applies cred action arg then r.access else acc)
        default := by
  simp [verdict, h]

end PeerGate
