import Mathlib.Logic.Relation
import Mathlib.Data.List.Forall2
import PeerGate.Proofs.Sameness

/-!
Sameness of conditions is the equivalence of swaps.

`Expr.same` compares two conditions node by node, and at an `and` or `or` node it accepts the two
sides in either order. Its definition decides the order at each node on its own, so that it is
an equivalence, and which one, is a statement about all trees:

* `Expr.Swap`: two conditions that differ by swapping the two sides of one `and` or `or` node,
  anywhere in the tree.
* `Expr.same_refl`, `Expr.same_comm`, `Expr.same_trans`: sameness is reflexive, symmetric and
  transitive. Transitivity meets, at every binary node, two independent choices of order
  (`pairs_trans`).
* `Expr.same_iff_swaps`: two conditions are the same exactly when one turns into the other by
  swaps, one node at a time; identities and custom tests are compared as they are, and a pattern
  is its text (`Pattern.eq_of_text_eq`).
* `Rule.same_equivalence`, `Policy.same_equivalence`: rule-by-rule sameness of policies is an
  equivalence too (`Policy.same_iff_forall₂`).
* `same_is_swap_equivalence`: **all of it together**. In particular a policy is always the same
  as itself, so comparing a policy's rule list with itself by identity first gives what comparing
  it rule by rule would.
-/

namespace PeerGate

variable {G : Globs}

namespace Expr

variable {α : Type}

/-- Two conditions that differ by swapping the two sides of one `and` or `or` node. -/
inductive Swap : Expr α → Expr α → Prop
  | and_comm (l r : Expr α) : Swap (and l r) (and r l)
  | or_comm (l r : Expr α) : Swap (or l r) (or r l)
  | not {x y : Expr α} : Swap x y → Swap (not x) (not y)
  | and_left {l l' : Expr α} (r : Expr α) : Swap l l' → Swap (and l r) (and l' r)
  | and_right (l : Expr α) {r r' : Expr α} : Swap r r' → Swap (and l r) (and l r')
  | or_left {l l' : Expr α} (r : Expr α) : Swap l l' → Swap (or l r) (or l' r)
  | or_right (l : Expr α) {r r' : Expr α} : Swap r r' → Swap (or l r) (or l r')

/-- Two sides that match straight or crosswise, followed by two that do, match straight or
crosswise: the crossings cancel or add up. -/
lemma pairs_trans {β : Type} {R : β → β → Prop} {l₁ r₁ l₂ r₂ l₃ r₃ : β}
    (hl : ∀ y z, R l₁ y → R y z → R l₁ z) (hr : ∀ y z, R r₁ y → R y z → R r₁ z)
    (h₁ : (R l₁ l₂ ∧ R r₁ r₂) ∨ (R l₁ r₂ ∧ R r₁ l₂))
    (h₂ : (R l₂ l₃ ∧ R r₂ r₃) ∨ (R l₂ r₃ ∧ R r₂ l₃)) :
    (R l₁ l₃ ∧ R r₁ r₃) ∨ (R l₁ r₃ ∧ R r₁ l₃) := by
  rcases h₁ with ⟨a, b⟩ | ⟨a, b⟩ <;> rcases h₂ with ⟨c, d⟩ | ⟨c, d⟩
  · exact .inl ⟨hl _ _ a c, hr _ _ b d⟩
  · exact .inr ⟨hl _ _ a c, hr _ _ b d⟩
  · exact .inr ⟨hl _ _ a d, hr _ _ b c⟩
  · exact .inl ⟨hl _ _ a d, hr _ _ b c⟩

/-- Swaps on both sides of an `and` node, one side after the other. -/
lemma swaps_and {l l' r r' : Expr α} (hl : Relation.ReflTransGen Swap l l')
    (hr : Relation.ReflTransGen Swap r r') :
    Relation.ReflTransGen Swap (and l r) (and l' r') :=
  (hl.lift (and · r) fun _ _ => Swap.and_left r).trans
    (hr.lift (and l' ·) fun _ _ => Swap.and_right l')

/-- Swaps on both sides of an `or` node, one side after the other. -/
lemma swaps_or {l l' r r' : Expr α} (hl : Relation.ReflTransGen Swap l l')
    (hr : Relation.ReflTransGen Swap r r') :
    Relation.ReflTransGen Swap (or l r) (or l' r') :=
  (hl.lift (or · r) fun _ _ => Swap.or_left r).trans
    (hr.lift (or l' ·) fun _ _ => Swap.or_right l')

section Lawful

variable [BEq α]

/-- The sameness of two binary nodes of one kind, as a statement. -/
lemma same_node_iff (l₁ r₁ l₂ r₂ : Expr α) :
    ((l₁.same l₂ && r₁.same r₂) || (l₁.same r₂ && r₁.same l₂)) = true ↔
      (l₁.same l₂ = true ∧ r₁.same r₂ = true) ∨
        (l₁.same r₂ = true ∧ r₁.same l₂ = true) := by
  simp only [Bool.or_eq_true, Bool.and_eq_true]

variable [LawfulBEq α]

@[simp] theorem same_refl (e : Expr α) : e.same e = true := by
  induction e with
  | identity u g => simp [same]
  | custom a p => simp [same]
  | not x ih => simpa [same] using ih
  | and l r ihl ihr => simp [same, ihl, ihr]
  | or l r ihl ihr => simp [same, ihl, ihr]

theorem same_comm (x y : Expr α) : x.same y = y.same x := by
  induction x generalizing y with
  | identity u g =>
    cases y with
    | identity u' g' => simp only [same, BEq.comm]
    | _ => rfl
  | custom a p =>
    cases y with
    | custom a' p' => simp only [same, BEq.comm]
    | _ => rfl
  | not x ih =>
    cases y with
    | not y => exact ih y
    | _ => rfl
  | and l r ihl ihr =>
    cases y with
    | and l' r' =>
      -- the crosswise match reads the same from the other side, its two halves exchanged
      simp only [same, ihl l', ihr r', ihl r', ihr l', Bool.and_comm (r'.same l)]
    | _ => rfl
  | or l r ihl ihr =>
    cases y with
    | or l' r' => simp only [same, ihl l', ihr r', ihl r', ihr l', Bool.and_comm (r'.same l)]
    | _ => rfl

theorem same_trans {x y z : Expr α} (h₁ : x.same y = true) (h₂ : y.same z = true) :
    x.same z = true := by
  -- by induction on the first tree; the other two must have its constructor at the root
  induction x generalizing y z with
  | identity u g =>
    cases y <;> cases z <;> simp_all [same]
  | custom a p =>
    cases y <;> cases z <;> simp_all [same]
  | not x ih =>
    cases y <;> cases z <;> simp only [same, reduceCtorEq] at h₁ h₂ ⊢
    exact ih h₁ h₂
  | and l r ihl ihr =>
    cases y <;> cases z <;> simp only [same, Bool.false_eq_true] at h₁ h₂ ⊢
    rw [same_node_iff] at h₁ h₂ ⊢
    exact pairs_trans (R := fun a b : Expr α => a.same b = true) (fun _ _ => ihl)
      (fun _ _ => ihr) h₁ h₂
  | or l r ihl ihr =>
    cases y <;> cases z <;> simp only [same, Bool.false_eq_true] at h₁ h₂ ⊢
    rw [same_node_iff] at h₁ h₂ ⊢
    exact pairs_trans (R := fun a b : Expr α => a.same b = true) (fun _ _ => ihl)
      (fun _ _ => ihr) h₁ h₂

/-- Sameness is an equivalence. -/
theorem same_equivalence : Equivalence fun x y : Expr α => x.same y = true where
  refl := same_refl
  symm {x y} h := by rwa [same_comm]
  trans := same_trans

/-- One swap keeps a condition the same. -/
theorem Swap.same {x y : Expr α} (h : Swap x y) : x.same y = true := by
  induction h with
  | and_comm l r => simp [Expr.same]
  | or_comm l r => simp [Expr.same]
  | not _ ih => simpa [Expr.same] using ih
  | and_left r _ ih => simp [Expr.same, ih]
  | and_right l _ ih => simp [Expr.same, ih]
  | or_left r _ ih => simp [Expr.same, ih]
  | or_right l _ ih => simp [Expr.same, ih]

/-- Conditions that are the same turn into one another by swaps. -/
theorem swaps_of_same {x y : Expr α} (h : x.same y = true) : Relation.ReflTransGen Swap x y := by
  induction x generalizing y with
  | identity u g =>
    cases y with
    | identity u' g' =>
      simp only [same, Bool.and_eq_true, beq_iff_eq] at h
      obtain ⟨rfl, rfl⟩ := h
      exact .refl
    | _ => simp [same] at h
  | custom a p =>
    cases y with
    | custom a' p' =>
      simp only [same, Bool.and_eq_true, beq_iff_eq] at h
      obtain ⟨rfl, rfl⟩ := h
      exact .refl
    | _ => simp [same] at h
  | not x ih =>
    cases y with
    | not y => exact (ih h).lift Expr.not fun _ _ => Swap.not
    | _ => simp [same] at h
  | and l r ihl ihr =>
    cases y with
    | and l' r' =>
      rcases (same_node_iff l r l' r').1 h with ⟨hl, hr⟩ | ⟨hl, hr⟩
      · exact swaps_and (ihl hl) (ihr hr)
      · -- swap the root first, then each side in place
        exact .head (Swap.and_comm l r) (swaps_and (ihr hr) (ihl hl))
    | _ => simp [same] at h
  | or l r ihl ihr =>
    cases y with
    | or l' r' =>
      rcases (same_node_iff l r l' r').1 h with ⟨hl, hr⟩ | ⟨hl, hr⟩
      · exact swaps_or (ihl hl) (ihr hr)
      · exact .head (Swap.or_comm l r) (swaps_or (ihr hr) (ihl hl))
    | _ => simp [same] at h

/-- **Sameness is equality up to swaps.** Two conditions are the same exactly when a run of swaps,
each at one `and` or `or` node, turns one into the other. -/
theorem same_iff_swaps {x y : Expr α} : x.same y = true ↔ Relation.ReflTransGen Swap x y := by
  refine ⟨swaps_of_same, fun h => ?_⟩
  induction h with
  | refl => exact same_refl x
  | tail _ hstep ih => exact same_trans ih hstep.same

end Lawful

end Expr

namespace Rule

@[simp] theorem same_refl (a : Rule (Pattern G)) : a.same a = true := by
  obtain ⟨c, acc⟩ := a
  cases c <;> simp [same]

theorem same_comm (a b : Rule (Pattern G)) : a.same b = b.same a := by
  obtain ⟨c₁, acc₁⟩ := a
  obtain ⟨c₂, acc₂⟩ := b
  cases c₁ <;> cases c₂ <;> simp only [same, Bool.and_false, Bool.and_true]
  · exact BEq.comm
  · rw [BEq.comm, Expr.same_comm]

theorem same_trans {a b c : Rule (Pattern G)} (h₁ : a.same b = true) (h₂ : b.same c = true) :
    a.same c = true := by
  obtain ⟨c₁, acc₁⟩ := a
  obtain ⟨c₂, acc₂⟩ := b
  obtain ⟨c₃, acc₃⟩ := c
  cases c₁ <;> cases c₂ <;> cases c₃ <;> simp only [same, Bool.and_eq_true, beq_iff_eq,
    Bool.false_eq_true, and_false, and_true] at h₁ h₂ ⊢
  · exact h₁.trans h₂
  · exact ⟨h₁.1.trans h₂.1, Expr.same_trans h₁.2 h₂.2⟩

/-- Sameness of rules is an equivalence. -/
theorem same_equivalence : Equivalence fun a b : Rule (Pattern G) => a.same b = true where
  refl := same_refl
  symm {a b} h := by rwa [same_comm]
  trans := same_trans

end Rule

namespace Policy

/-- Two policies are the same when their rules are the same, pair by pair in order. -/
theorem same_iff_forall₂ {p q : Policy G} :
    p.same q = true ↔ List.Forall₂ (fun a b => a.same b = true) p.rules q.rules := by
  unfold same
  simp only [Bool.and_eq_true, beq_iff_eq, List.all_eq_true]
  exact ⟨fun h => List.forall₂_iff_zip.2 ⟨h.1, fun hab => h.2 _ hab⟩,
    fun h =>
      ⟨(List.forall₂_iff_zip.1 h).1, fun _ hab => (List.forall₂_iff_zip.1 h).2 hab⟩⟩

/-- Chains of the same rules compose, by induction on the first chain. -/
lemma forall₂_same_trans {rs₁ rs₂ rs₃ : List (Rule (Pattern G))}
    (h₁ : List.Forall₂ (fun a b => a.same b = true) rs₁ rs₂)
    (h₂ : List.Forall₂ (fun a b => a.same b = true) rs₂ rs₃) :
    List.Forall₂ (fun a b => a.same b = true) rs₁ rs₃ := by
  induction h₁ generalizing rs₃ with
  | nil => exact h₂
  | cons hab _ ih =>
    cases h₂ with
    | cons hbc hrest => exact .cons (Rule.same_trans hab hbc) (ih hrest)

/-- Sameness of policies is an equivalence. -/
theorem same_equivalence : Equivalence fun p q : Policy G => p.same q = true where
  refl p := same_iff_forall₂.2 (List.forall₂_same.2 fun a _ => Rule.same_refl a)
  symm {p q} h := same_iff_forall₂.2 <|
    List.Forall₂.flip ((same_iff_forall₂.1 h).imp fun a b hab => by rwa [Rule.same_comm] at hab)
  trans h₁ h₂ := same_iff_forall₂.2 (forall₂_same_trans (same_iff_forall₂.1 h₁)
    (same_iff_forall₂.1 h₂))

end Policy

/-- **Sameness is the equivalence of swaps.** The sameness of compiled conditions is reflexive,
symmetric and transitive, and holds exactly between conditions that swaps of the two sides of
`and` and `or` nodes turn into one another; the sameness of policies, rule by rule, is an
equivalence as well, so every policy is the same as itself. -/
theorem same_is_swap_equivalence :
    Equivalence (fun x y : Expr (Pattern G) => x.same y = true) ∧
    (∀ x y : Expr (Pattern G), x.same y = true ↔ Relation.ReflTransGen Expr.Swap x y) ∧
    Equivalence (fun p q : Policy G => p.same q = true) ∧
    (∀ p : Policy G, p.same p = true) :=
  ⟨Expr.same_equivalence, fun _ _ => Expr.same_iff_swaps, Policy.same_equivalence,
    Policy.same_equivalence.refl⟩

end PeerGate
