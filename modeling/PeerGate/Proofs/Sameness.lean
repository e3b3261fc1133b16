import Mathlib.Data.List.Forall2
import PeerGate.Policy.Decision
import PeerGate.Policy.Glob

/-!
Conditions and policies that are the same decide alike.

Policies are compared by `Policy.same`: rule by rule, each rule by its decision and its condition,
conditions by `Expr.same`, which lets the two sides of any `and` or `or` be swapped, at any node
independently, and compares custom tests by action id and pattern text. Sameness is coarser than
equality of the trees, but never so coarse that it joins two policies that decide differently:

* `Pattern.eq_of_text_eq`: a pattern is its text, with the glob library's word that the text
  builds, so comparing patterns by text is equality (`LawfulBEq (Pattern G)`).
* `Expr.holds_eq_of_same`: the same conditions hold of the same requests, whichever sides were
  swapped at which nodes: each swap meets a connective that commutes.
* `Rule.applies_eq_of_same`, `Rule.access_eq_of_same`, `verdict_eq_of_same`: the same rules apply
  to the same requests with the same decision, so the same policies decide alike.
* `same_decides_alike`: both together.
-/

namespace PeerGate

variable {G : Globs}

/-- A pattern is its text: the rest is the library's word that the text builds. -/
theorem Pattern.eq_of_text_eq : ∀ {p q : Pattern G}, p.text = q.text → p = q
  | ⟨_, _⟩, ⟨_, _⟩, rfl => rfl

instance : ReflBEq (Pattern G) where
  rfl {p} := beq_self_eq_true p.text

/-- Patterns compare by text, which is equality. -/
instance : LawfulBEq (Pattern G) where
  eq_of_beq h := Pattern.eq_of_text_eq (beq_iff_eq.1 h)

namespace Expr

/-- **The same conditions hold alike.** A condition that is the same as another, up to swapping
the sides of any `and` or `or`, holds of exactly the requests the other holds of. -/
theorem holds_eq_of_same {e₁ e₂ : Expr (Pattern G)} (h : e₁.same e₂ = true)
    (cred : Option Credential) (action : UInt32) (arg : Option String) :
    e₁.holds cred action arg = e₂.holds cred action arg := by
  -- by induction on the first tree; the second must have the same constructor at the root
  induction e₁ generalizing e₂ with
  | identity u g =>
    cases e₂ with
    | identity u' g' =>
      simp only [same, Bool.and_eq_true, beq_iff_eq] at h
      obtain ⟨rfl, rfl⟩ := h
      rfl
    | _ => simp [same] at h
  | custom a pat =>
    cases e₂ with
    | custom a' pat' =>
      simp only [same, Bool.and_eq_true, beq_iff_eq] at h
      obtain ⟨rfl, rfl⟩ := h
      rfl
    | _ => simp [same] at h
  | not x ih =>
    cases e₂ with
    | not y => simp only [holds, ih h]
    | _ => simp [same] at h
  | and l r ihl ihr =>
    cases e₂ with
    | and l' r' =>
      simp only [same, Bool.or_eq_true, Bool.and_eq_true] at h
      rcases h with ⟨hl, hr⟩ | ⟨hl, hr⟩
      · simp only [holds, ihl hl, ihr hr]
      · -- the sides were swapped: conjunction commutes
        simp only [holds, ihl hl, ihr hr, Bool.and_comm]
    | _ => simp [same] at h
  | or l r ihl ihr =>
    cases e₂ with
    | or l' r' =>
      simp only [same, Bool.or_eq_true, Bool.and_eq_true] at h
      rcases h with ⟨hl, hr⟩ | ⟨hl, hr⟩
      · simp only [holds, ihl hl, ihr hr]
      · -- the sides were swapped: disjunction commutes
        simp only [holds, ihl hl, ihr hr, Bool.or_comm]
    | _ => simp [same] at h

end Expr

namespace Rule

theorem access_eq_of_same {a b : Rule (Pattern G)} (h : a.same b = true) : a.access = b.access := by
  unfold same at h
  simp only [Bool.and_eq_true, beq_iff_eq] at h
  exact h.1

/-- The same rules apply to the same requests. -/
theorem applies_eq_of_same {a b : Rule (Pattern G)} (h : a.same b = true)
    (cred : Option Credential) (action : UInt32) (arg : Option String) :
    a.applies cred action arg = b.applies cred action arg := by
  obtain ⟨c₁, acc₁⟩ := a
  obtain ⟨c₂, acc₂⟩ := b
  cases c₁ with
  | none =>
    cases c₂ with
    | none => rfl
    | some y => simp [same] at h
  | some x =>
    cases c₂ with
    | none => simp [same] at h
    | some y =>
      simp only [same, Bool.and_eq_true] at h
      exact Expr.holds_eq_of_same h.2 cred action arg

end Rule

/-- Walking two lists of the same rules in step, each rule that applies overriding the decision so
far, ends on the same decision. -/
theorem foldl_override_eq_of_same {rs₁ rs₂ : List (Rule (Pattern G))}
    (h : List.Forall₂ (fun a b => a.same b = true) rs₁ rs₂)
    (cred : Option Credential) (action : UInt32) (arg : Option String) (acc : Access) :
    rs₁.foldl (fun acc r => if r.applies cred action arg then r.access else acc) acc =
      rs₂.foldl (fun acc r => if r.applies cred action arg then r.access else acc) acc := by
  induction h generalizing acc with
  | nil => rfl
  | cons hab _ ih =>
    simp only [List.foldl_cons, Rule.applies_eq_of_same hab, Rule.access_eq_of_same hab]
    exact ih _

/-- The same policies give the same decision for every request and default. -/
theorem verdict_eq_of_same {p q : Policy G} (h : p.same q = true)
    (cred : Option Credential) (action : UInt32) (arg : Option String) (default : Access) :
    verdict (some p) cred action arg default = verdict (some q) cred action arg default := by
  -- the same policies have as many rules, and their rules are the same in order
  have hrules : List.Forall₂ (fun a b => a.same b = true) p.rules q.rules := by
    unfold Policy.same at h
    simp only [Bool.and_eq_true, beq_iff_eq, List.all_eq_true] at h
    exact List.forall₂_iff_zip.2 ⟨h.1, fun hab => h.2 _ hab⟩
  cases hroot : cred.any Credential.isRoot with
  | true => simp [verdict, hroot]
  | false =>
    rw [verdict_some p cred action arg default hroot, verdict_some q cred action arg default hroot]
    exact foldl_override_eq_of_same hrules cred action arg default

/-- **Sameness never separates decisions.** Two conditions that are the same, up to swapping the
sides of any `and` or `or` and with custom tests compared by action and pattern text, hold of
exactly the same requests; and two policies that are the same rule by rule give the same decision
for every credential or none, action, argument or none, and default. -/
theorem same_decides_alike :
    (∀ e₁ e₂ : Expr (Pattern G), e₁.same e₂ = true →
      ∀ cred action arg, e₁.holds cred action arg = e₂.holds cred action arg) ∧
    (∀ p q : Policy G, p.same q = true →
      ∀ cred action arg default,
        verdict (some p) cred action arg default = verdict (some q) cred action arg default) :=
  ⟨fun _ _ h => Expr.holds_eq_of_same h, fun _ _ h => verdict_eq_of_same h⟩

/-- Two one-rule policies whose conditions differ by a swap at the root and another inside. -/
theorem same_decides_alike_swapped :
    (⟨[⟨some (.and (.identity (.exact 1) .any)
        (.or (.custom 7 none) (.identity .any (.exact 2)))), .deny⟩]⟩ : Policy Glob.library).same
      ⟨[⟨some (.and (.or (.identity .any (.exact 2)) (.custom 7 none))
        (.identity (.exact 1) .any)), .deny⟩]⟩ = true ∧
    verdict (some (⟨[⟨some (.and (.identity (.exact 1) .any)
        (.or (.custom 7 none) (.identity .any (.exact 2)))), .deny⟩]⟩ : Policy Glob.library))
        (some ⟨1, 5, some [2], none⟩) 7 none .allow =
      verdict (some (⟨[⟨some (.and (.or (.identity .any (.exact 2)) (.custom 7 none))
        (.identity (.exact 1) .any)), .deny⟩]⟩ : Policy Glob.library))
        (some ⟨1, 5, some [2], none⟩) 7 none .allow :=
  ⟨by decide, same_decides_alike.2 _ _ (by decide) _ _ _ _⟩

end PeerGate
