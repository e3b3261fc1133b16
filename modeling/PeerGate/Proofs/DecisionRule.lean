import Mathlib.Tactic.Lemma
import Mathlib.Data.List.Induction
import PeerGate.Policy.Decision

/-!
The decision rule of policies, stated without the evaluator.

`Expr.Satisfied` says when a condition holds, in the words of the policy language: an identity
test asks for a user and a group, each either any or a fixed id that a known requester must
have, its effective group or a supplementary one counting for the group; a custom test asks for
the action, and for an argument that fits its pattern, where a test without a pattern takes any
argument and also none, and a test with a pattern needs an argument; `not`, `and` and `or` are
negation, conjunction and disjunction. `Decides` is the rule a decision follows: a requester that
runs as root is allowed, with or without a policy; without a policy the default stands; otherwise
the last rule of the policy, in the order of the text, that applies decides, and the default
stands when none applies. A rule without a condition applies to every request.

* `holds_iff_satisfied`: the evaluator of conditions answers `Expr.Satisfied`, for every
  condition, credential, action and argument.
* `foldl_override_iff`: walking the rules in order, each rule that applies overriding the
  decision so far, ends on the decision of the last rule that applies (`LastFiring`).
* `verdict_iff_decides`: **the decision is the rule's**: `verdict` gives a decision exactly when
  `Decides` prescribes it, for any policy or none, any credential or none, any action, argument
  and default.
-/

namespace PeerGate

variable {G : Globs}

/-! ### What a condition means -/

namespace Expr

/-- When a condition holds of a request: the requester's credential if known, the action and the
argument if any. -/
def Satisfied (cred : Option Credential) (action : UInt32) (arg : Option String) :
    Expr (Pattern G) → Prop
  | identity u g =>
      (u = .any ∨ ∃ c, cred = some c ∧ u = .exact c.euid) ∧
      (g = .any ∨
        ∃ c, cred = some c ∧ ∃ gid, g = .exact gid ∧ (gid = c.egid ∨ gid ∈ c.groupList))
  | custom want pat =>
      want = action ∧
      (∀ s, arg = some s → pat = none ∨ ∃ p, pat = some p ∧ p.admits s = true) ∧
      (arg = none → pat = none)
  | not e => ¬ e.Satisfied cred action arg
  | and l r => l.Satisfied cred action arg ∧ r.Satisfied cred action arg
  | or l r => l.Satisfied cred action arg ∨ r.Satisfied cred action arg

end Expr

lemma admitsUser_iff (u : IdSpec) (cred : Option Credential) :
    u.admitsUser cred = true ↔ u = .any ∨ ∃ c, cred = some c ∧ u = .exact c.euid := by
  cases u with
  | any => simp [IdSpec.admitsUser]
  | exact uid =>
      cases cred with
      | none => simp [IdSpec.admitsUser]
      | some c => simp [IdSpec.admitsUser, @eq_comm _ uid]

lemma admitsGroup_iff (g : IdSpec) (cred : Option Credential) :
    g.admitsGroup cred = true ↔
      g = .any ∨
        ∃ c, cred = some c ∧ ∃ gid, g = .exact gid ∧
          (gid = c.egid ∨ gid ∈ c.groupList) := by
  cases g with
  | any => simp [IdSpec.admitsGroup]
  | exact gid =>
      cases cred with
      | none => simp [IdSpec.admitsGroup]
      | some c => simp [IdSpec.admitsGroup, Credential.hasGroup_iff]

/-- A custom test, by the four ways an argument and a pattern can be there or not. -/
lemma custom_holds_iff (cred : Option Credential) (action want : UInt32) (arg : Option String)
    (pat : Option (Pattern G)) :
    (Expr.custom want pat).holds cred action arg = true ↔
      (Expr.custom want pat).Satisfied cred action arg := by
  cases arg with
  | none => cases pat <;> simp [Expr.holds, Expr.Satisfied]
  | some s => cases pat <;> simp [Expr.holds, Expr.Satisfied]

/-- **Conditions mean what the language says.** -/
theorem holds_iff_satisfied (cred : Option Credential) (action : UInt32) (arg : Option String)
    (e : Expr (Pattern G)) : e.holds cred action arg = true ↔ e.Satisfied cred action arg := by
  induction e with
  | identity u g =>
      simp only [Expr.holds, Expr.Satisfied, Bool.and_eq_true, admitsUser_iff, admitsGroup_iff]
  | custom want pat => exact custom_holds_iff cred action want arg pat
  | not e ih => simp only [Expr.holds, Expr.Satisfied, Bool.not_eq_true', ← ih]; simp
  | and l r ihl ihr => simp only [Expr.holds, Expr.Satisfied, Bool.and_eq_true, ihl, ihr]
  | or l r ihl ihr => simp only [Expr.holds, Expr.Satisfied, Bool.or_eq_true, ihl, ihr]

/-- A rule applies to a request when it has no condition or its condition is satisfied. -/
def Rule.Fires (cred : Option Credential) (action : UInt32) (arg : Option String)
    (r : Rule (Pattern G)) : Prop :=
  ∀ e, r.cond = some e → e.Satisfied cred action arg

lemma applies_iff_fires (cred : Option Credential) (action : UInt32) (arg : Option String)
    (r : Rule (Pattern G)) : r.applies cred action arg = true ↔ r.Fires cred action arg := by
  unfold Rule.applies Rule.Fires
  cases r.cond with
  | none => simp
  | some e => simp [holds_iff_satisfied]

/-! ### The last rule that applies -/

/-- `result` is the decision of the last rule of `rules` that `fires`, or `default` when no
rule does. -/
def LastFiring (fires : Rule (Pattern G) → Prop) (rules : List (Rule (Pattern G)))
    (default result : Access) : Prop :=
  (∃ pre r post, rules = pre ++ r :: post ∧ fires r ∧ (∀ r' ∈ post, ¬ fires r') ∧
    result = r.access) ∨
  ((∀ r ∈ rules, ¬ fires r) ∧ result = default)

/-- A place in a list that ends in `x` is `x` itself or a place in the front. -/
lemma append_singleton_eq_append_cons {α : Type} {l pre post : List α} {x r : α}
    (h : l ++ [x] = pre ++ r :: post) :
    (pre = l ∧ r = x ∧ post = []) ∨
      ∃ post', l = pre ++ r :: post' ∧ post = post' ++ [x] := by
  rcases List.append_eq_append_iff.1 h with ⟨a', hpre, hx⟩ | ⟨c', hl, hpost⟩
  · -- the front of the split swallows `l`: what is left of it is empty, so the place is `x`
    cases a' with
    | nil => simp_all
    | cons a a' => simp at hx
  · cases c' with
    | nil => simp_all
    | cons c c' =>
        simp only [List.cons_append, List.cons.injEq] at hpost
        exact .inr ⟨c', by rw [hl, hpost.1], hpost.2⟩

lemma lastFiring_nil (fires : Rule (Pattern G) → Prop) (default result : Access) :
    LastFiring fires [] default result ↔ result = default := by
  simp [LastFiring]

/-- One rule more at the end: it decides if it fires, and otherwise the rules before it do. -/
lemma lastFiring_snoc (fires : Rule (Pattern G) → Prop) (rules : List (Rule (Pattern G)))
    (x : Rule (Pattern G)) (default result : Access) :
    LastFiring fires (rules ++ [x]) default result ↔
      (fires x ∧ result = x.access) ∨
        (¬ fires x ∧ LastFiring fires rules default result) := by
  constructor
  · rintro (⟨pre, r, post, hsplit, hr, hpost, hres⟩ | ⟨hall, hres⟩)
    · rcases append_singleton_eq_append_cons hsplit
        with ⟨rfl, rfl, rfl⟩ | ⟨post', rfl, rfl⟩
      · exact .inl ⟨hr, hres⟩
      · have hx : ¬ fires x := hpost x (by simp)
        exact .inr ⟨hx,
          .inl ⟨pre, r, post', rfl, hr, fun r' h => hpost r' (by simp [h]), hres⟩⟩
    · exact .inr ⟨hall x (by simp), .inr ⟨fun r h => hall r (by simp [h]), hres⟩⟩
  · rintro (⟨hx, hres⟩ | ⟨hx, ⟨pre, r, post, rfl, hr, hpost, hres⟩ | ⟨hall, hres⟩⟩)
    · exact .inl ⟨rules, x, [], rfl, hx, by simp, hres⟩
    · refine .inl ⟨pre, r, post ++ [x], by simp, hr, ?_, hres⟩
      rintro r' h
      rcases List.mem_append.1 h with h | h
      · exact hpost r' h
      · exact (List.mem_singleton.1 h) ▸ hx
    · refine .inr ⟨?_, hres⟩
      rintro r' h
      rcases List.mem_append.1 h with h | h
      · exact hall r' h
      · exact (List.mem_singleton.1 h) ▸ hx

/-- **Override walks pick the last match**: folding the rules from the default, each rule that
applies replacing the decision so far, ends on what `LastFiring` prescribes. -/
lemma foldl_override_iff {f : Rule (Pattern G) → Bool} {fires : Rule (Pattern G) → Prop}
    (hf : ∀ r, f r = true ↔ fires r) (rules : List (Rule (Pattern G)))
    (default result : Access) :
    rules.foldl (fun acc r => if f r then r.access else acc) default = result ↔
      LastFiring fires rules default result := by
  -- from the right, since the rule walked last is the one that may override all others
  induction rules using List.reverseRecOn generalizing result with
  | nil =>
      rw [lastFiring_nil]
      exact eq_comm
  | append_singleton rules x ih =>
      rw [List.foldl_append, List.foldl_cons, List.foldl_nil, lastFiring_snoc, ← hf x]
      by_cases hx : f x = true
      · simp only [hx, if_true, true_and, not_true, false_and, or_false]
        exact eq_comm
      · rw [if_neg hx]
        simp only [hx, false_and, false_or, not_false_eq_true, true_and, Bool.false_eq_true]
        exact ih result

/-! ### The decision -/

/-- The decision the policy language prescribes for a request. -/
def Decides (policy : Option (Policy G)) (cred : Option Credential) (action : UInt32)
    (arg : Option String) (default result : Access) : Prop :=
  ((∃ c, cred = some c ∧ c.euid = 0) ∧ result = .allow) ∨
  ((∀ c, cred = some c → c.euid ≠ 0) ∧
    ((policy = none ∧ result = default) ∨
     ∃ p, policy = some p ∧ LastFiring (Rule.Fires cred action arg) p.rules default result))

lemma decides_iff_of_not_root {policy : Option (Policy G)} {cred : Option Credential}
    {action : UInt32} {arg : Option String} {default result : Access}
    (h : ∀ c, cred = some c → c.euid ≠ 0) :
    Decides policy cred action arg default result ↔
      (policy = none ∧ result = default) ∨
      ∃ p, policy = some p ∧
        LastFiring (Rule.Fires cred action arg) p.rules default result := by
  have hroot : ¬ ∃ c, cred = some c ∧ c.euid = 0 := fun ⟨c, hc, h0⟩ => h c hc h0
  unfold Decides
  constructor
  · rintro (⟨hr, -⟩ | ⟨-, hp⟩)
    · exact absurd hr hroot
    · exact hp
  · exact fun hp => .inr ⟨h, hp⟩

/-- **The decision is the rule's.** For any policy or none, any credential or none, any action,
argument and default, `verdict` gives `result` exactly when `Decides` prescribes it: root is
allowed, no policy leaves the default, and otherwise the last rule that applies decides. -/
theorem verdict_iff_decides (policy : Option (Policy G)) (cred : Option Credential)
    (action : UInt32) (arg : Option String) (default result : Access) :
    verdict policy cred action arg default = result ↔
      Decides policy cred action arg default result := by
  by_cases hroot : cred.any Credential.isRoot = true
  · obtain ⟨c, rfl, hc⟩ : ∃ c, cred = some c ∧ c.isRoot = true := by
      cases cred <;> simp_all
    rw [verdict_root policy c action arg default hc]
    have h0 : c.euid = 0 := by simpa [Credential.isRoot] using hc
    simp [Decides, h0, eq_comm]
  · have hnot : ∀ c, cred = some c → c.euid ≠ 0 := by
      rintro c rfl
      simpa [Credential.isRoot] using hroot
    cases policy with
    | none =>
        rw [verdict_none cred action arg default (by simpa using hroot),
          decides_iff_of_not_root hnot]
        simp [eq_comm]
    | some p =>
        rw [verdict_some p cred action arg default (by simpa using hroot),
          foldl_override_iff (applies_iff_fires cred action arg), decides_iff_of_not_root hnot]
        simp

/-- A later rule overrides an earlier one: `user(1)=deny;*=allow` allows user 1. -/
example (G : Globs) :
    verdict
        (some (⟨[⟨some (.identity (.exact 1) .any), .deny⟩, ⟨none, .allow⟩]⟩ : Policy G))
        (some ⟨1, 1, none, none⟩) 0 none .deny = .allow :=
  rfl

end PeerGate
