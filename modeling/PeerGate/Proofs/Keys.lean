import Mathlib.Tactic.Lemma
import Mathlib.Data.List.Nodup

/-!
Lists whose items have distinct keys, as the action table has distinct ids and names and a table
of the peer cache distinct names: the item found by the key of a member is that member, and an
item with a new key keeps the keys distinct.
-/

namespace PeerGate

variable {α β : Type} {l : List α}

/-- A list keeps distinct keys when an item with a new key is added at its end. -/
lemma nodup_map_append_singleton (key : α → β) (hl : (l.map key).Nodup) {a : α}
    (ha : ∀ b ∈ l, key b ≠ key a) : ((l ++ [a]).map key).Nodup := by
  rw [List.map_append, List.nodup_append]
  refine ⟨hl, by simp, ?_⟩
  intro x hx y hy
  obtain ⟨b, hb, rfl⟩ := List.mem_map.1 hx
  rw [List.map_cons, List.map_nil, List.mem_singleton] at hy
  rw [hy]
  exact ha b hb

/-- In a list with distinct keys, the item found by the key of a member is that member. -/
lemma find?_key [BEq β] [LawfulBEq β] (key : α → β) (hl : (l.map key).Nodup) {a : α}
    (ha : a ∈ l) : l.find? (fun b => key b == key a) = some a := by
  cases hfind : l.find? (fun b => key b == key a) with
  | none =>
      have := List.find?_eq_none.1 hfind a ha
      simp at this
  | some b =>
      have hb := List.mem_of_find?_eq_some hfind
      have hba : key b = key a := by simpa using List.find?_some hfind
      rw [List.inj_on_of_nodup_map hl hb ha hba]

end PeerGate
