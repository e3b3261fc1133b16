import Mathlib.Tactic.Lemma
import PeerGate.Peer.Tasks

/-!
The bus connection of a table, along every interleaving of lookups, flushes and lifecycle tasks.

A table takes a connection when a lookup that missed connects, and lets it go whenever it becomes
empty: by a flush of one name or of all, by an eviction, or by a failed lookup. Nothing else
touches the connection, so a table holds one only while it has entries or while a lookup of its
bus is on its way (`Runtime.ConnectionHeld`, kept by every event, `connectionHeld_run`):

* `connected_only_with_entries`: at a moment when no lookup of a bus waits, its table holds a
  connection only if it has entries.

The converse fails. A lookup that connected keeps the connection it took while it waits for the
daemon and for the record; if the table becomes empty meanwhile, the connection is let go, and
the entry the lookup then stores stands in a table without one:

* `flush_during_lookup_leaves_entry_unconnected`: a lookup connects, the whole bus is flushed,
  and the lookup then stores its entry; no lookup waits any more, the table has an entry, and it
  holds no connection.
-/

namespace PeerGate

namespace PeerCache.Table

theorem entries_ne_nil_of_releaseIfIdle {t : Table} (h : t.releaseIfIdle.connected = true) :
    t.entries ≠ [] := by
  unfold releaseIfIdle at h
  split at h
  · cases h
  · rename_i hempty
    exact fun hnil => hempty (by simp [hnil])

/-- A removal either leaves the table as it was, or lets the connection go if nothing is left. -/
theorem removeWhere_connected {t : Table} {p : Entry → Bool}
    (h : (t.removeWhere p).connected = true) :
    (t.removeWhere p).entries ≠ [] ∨ t.removeWhere p = t := by
  unfold removeWhere at h ⊢
  split at h
  · rename_i hany
    left
    rw [if_pos hany, releaseIfIdle_entries]
    exact entries_ne_nil_of_releaseIfIdle h
  · rename_i hany
    right
    rw [if_neg hany]

@[simp] theorem touch_connected (t : Table) (name : String) (deadline : Nat) :
    (t.touch name deadline).connected = t.connected := rfl

theorem touch_entries_ne_nil {t : Table} {name : String} {deadline : Nat}
    (h : t.entries ≠ []) : (t.touch name deadline).entries ≠ [] := by
  simpa using h

end PeerCache.Table

namespace Runtime

open PeerCache

/-- A lookup of `bus` waits. -/
def Busy (w : Runtime) (bus : BusKind) : Prop := ∃ l ∈ w.waiting, l.bus = bus

/-- A table holds a connection only while it has entries or a lookup of its bus waits. -/
def ConnectionHeld (w : Runtime) : Prop :=
  ∀ bus, (w.cache.table bus).connected = true → (w.cache.table bus).entries ≠ [] ∨ w.Busy bus

variable {w : Runtime}

/-! ### Lookups that wait -/

/-- A waiting lookup that moves on to its next stage stays a lookup of its bus. -/
lemma busy_set {i : Nat} {l x : Waiting} (hi : w.waiting[i]? = some l) (hx : x.bus = l.bus)
    {bus : BusKind} (h : w.Busy bus) : ∃ a ∈ w.waiting.set i x, a.bus = bus := by
  obtain ⟨a, ha, rfl⟩ := h
  obtain ⟨j, hj⟩ := List.mem_iff_getElem?.1 ha
  by_cases hji : j = i
  · subst hji
    rw [hi, Option.some.injEq] at hj
    subst hj
    have hlt : j < w.waiting.length := (List.getElem?_eq_some_iff.1 hi).1
    exact ⟨x, List.mem_iff_getElem?.2 ⟨j, by simp [hlt]⟩, hx⟩
  · exact ⟨a, List.mem_iff_getElem?.2 ⟨j, by rw [List.getElem?_set_ne (Ne.symm hji), hj]⟩, rfl⟩

/-- A lookup of another bus that leaves the list leaves every lookup of this bus waiting. -/
lemma busy_eraseIdx {i : Nat} {l : Waiting} (hi : w.waiting[i]? = some l) {bus : BusKind}
    (hne : l.bus ≠ bus) (h : w.Busy bus) : ∃ a ∈ w.waiting.eraseIdx i, a.bus = bus := by
  obtain ⟨a, ha, rfl⟩ := h
  obtain ⟨j, hj⟩ := List.mem_iff_getElem?.1 ha
  refine ⟨a, List.mem_eraseIdx_iff_getElem?.2 ⟨j, fun hji => ?_, hj⟩, rfl⟩
  subst hji
  rw [hi, Option.some.injEq] at hj
  exact hne (congrArg Waiting.bus hj)

/-! ### One table changed -/

/-- Changing the table of one bus by `f`: the invariant stands for the other buses while their
lookups keep waiting, and for this bus if `f` keeps it. -/
lemma ConnectionHeld.modify (h : w.ConnectionHeld) {w' : Runtime} (bus : BusKind)
    (f : Table → Table) (htable : ∀ b, w'.cache.table b = (w.cache.modify bus f).table b)
    (hbus : (f (w.cache.table bus)).connected = true →
      (f (w.cache.table bus)).entries ≠ [] ∨ w'.Busy bus)
    (hother : ∀ b, b ≠ bus → w.Busy b → w'.Busy b) : w'.ConnectionHeld := by
  intro b hb
  rw [htable] at hb ⊢
  by_cases hbb : b = bus
  · subst hbb
    rw [table_modify_self] at hb ⊢
    exact hbus hb
  · rw [table_modify_of_ne _ _ hbb] at hb ⊢
    exact (h b hb).imp id (hother b hbb)

/-- A removal from the table of one bus, with the same lookups waiting. -/
lemma ConnectionHeld.removeWhere (h : w.ConnectionHeld) {w' : Runtime} (bus : BusKind)
    (p : Entry → Bool) (hcache : w'.cache = w.cache.modify bus (·.removeWhere p))
    (hwaiting : w'.waiting = w.waiting) : w'.ConnectionHeld := by
  have hsame : ∀ b, w.Busy b → w'.Busy b := fun b hb => by rw [Busy, hwaiting]; exact hb
  refine h.modify bus _ (fun b => by rw [hcache]) (fun hc => ?_) (fun b _ => hsame b)
  rcases Table.removeWhere_connected hc with hne | heq
  · exact .inl hne
  · rw [heq] at hc ⊢
    exact (h bus hc).imp id (hsame bus)

/-! ### Every event, every run -/

/-- Each event keeps the invariant: a lookup that misses starts waiting, a connection is made for a
waiting lookup, a stored entry fills its table, and every removal and failure lets the connection
go from a table it leaves empty. -/
lemma ConnectionHeld.step (h : w.ConnectionHeld) : ∀ ev, (w.step ev).ConnectionHeld
  | .lookup bus name now => by
      simp only [Runtime.step]
      split
      · -- a hit moves a deadline and keeps the entries
        refine h.modify bus _ (fun _ => rfl) (fun hc => ?_) (fun b _ hb => hb)
        rw [Table.touch_connected] at hc
        exact (h bus hc).imp Table.touch_entries_ne_nil id
      · -- a miss starts waiting
        intro b hb
        refine (h b hb).imp id fun ⟨a, ha, hab⟩ => ⟨a, List.mem_append_left _ ha, hab⟩
  | .connected i => by
      simp only [Runtime.step]
      split
      · rename_i bus name hi
        refine h.modify bus _ (fun _ => rfl) (fun _ => .inr ?_)
          (fun b _ hb => busy_set (x := ⟨bus, name, .asking⟩) hi rfl hb)
        exact ⟨⟨bus, name, .asking⟩, List.mem_iff_getElem?.2 ⟨i, by
          simp [(List.getElem?_eq_some_iff.1 hi).1]⟩, rfl⟩
      · exact h
  | .answered i pid => by
      simp only [Runtime.step]
      split
      · rename_i bus name hi
        intro b hb
        exact (h b hb).imp id (busy_set (x := ⟨bus, name, .reading pid⟩) hi rfl)
      · exact h
  | .stored i cred watched now => by
      simp only [Runtime.step]
      split
      · rename_i bus name pid hi
        -- the entry stored fills its table; the other table and its lookups stay
        refine h.modify bus _ (table_put w.cache now ⟨bus, name, pid, cred⟩ watched) ?_ ?_
        · intro _
          exact .inl (by simp [Table.insert])
        · intro b hb hbusy
          exact busy_eraseIdx hi (Ne.symm hb) hbusy
      · exact h
  | .failed i => by
      simp only [Runtime.step]
      split
      · rename_i l hi
        refine h.modify l.bus Table.releaseIfIdle (fun _ => rfl)
          (fun hc => .inl (by
            rw [Table.releaseIfIdle_entries]
            exact Table.entries_ne_nil_of_releaseIfIdle hc)) ?_
        intro b hb hbusy
        exact busy_eraseIdx hi (Ne.symm hb) hbusy
      · exact h
  | .flush bus name => by
      cases name with
      | some name => exact h.removeWhere bus _ rfl rfl
      | none =>
        refine h.modify bus _ (fun _ => rfl) (fun hc => ?_) (fun b _ hb => hb)
        exact absurd rfl (Table.entries_ne_nil_of_releaseIfIdle hc)
  | .evict k => by
      simp only [Runtime.step]
      split
      · exact h.removeWhere _ _ rfl rfl
      · exact h
  | .cancelled k => by
      simp only [Runtime.step]
      split
      · split
        · exact h
        · exact h
      · exact h

lemma connectionHeld_start (idleMs : Nat) : ({ cache := { idleMs } } : Runtime).ConnectionHeld := by
  intro bus hc
  cases bus <;> cases hc

/-- The invariant along every run: by induction on the events, from the step lemma. -/
theorem connectionHeld_run (idleMs : Nat) (events : List Event) :
    (run idleMs events).ConnectionHeld := by
  suffices ∀ w : Runtime, w.ConnectionHeld → (events.foldl step w).ConnectionHeld from
    this _ (connectionHeld_start idleMs)
  induction events with
  | nil => exact fun w h => h
  | cons ev events ih => exact fun w h => ih _ (h.step ev)

/-- **A connection only over entries.** Along every interleaving of lookups, flushes and lifecycle
tasks, at a moment when no lookup of a bus waits, its table holds a connection only if it has
entries. -/
theorem connected_only_with_entries (idleMs : Nat) (events : List Event) (bus : BusKind)
    (hidle : ∀ l ∈ (run idleMs events).waiting, l.bus ≠ bus)
    (hc : ((run idleMs events).cache.table bus).connected = true) :
    ((run idleMs events).cache.table bus).entries ≠ [] := by
  refine ((connectionHeld_run idleMs events) bus hc).resolve_right ?_
  rintro ⟨l, hl, rfl⟩
  exact hidle l hl rfl

/-- A lookup connects and a second one finds the connection; the first stores its entry and the
second fails, which keeps the connection for the entry. No lookup waits, and the table holds the
connection with its entry. -/
theorem connected_only_with_entries_two_lookups :
    (∀ l ∈ (run 30 [.lookup .system "a" 0, .connected 0, .lookup .system "b" 0, .answered 0 5,
        .stored 0 ⟨1000, 1000, none, none⟩ true 0, .failed 0]).waiting, l.bus ≠ .system) ∧
    ((run 30 [.lookup .system "a" 0, .connected 0, .lookup .system "b" 0, .answered 0 5,
        .stored 0 ⟨1000, 1000, none, none⟩ true 0, .failed 0]).cache.table .system).connected =
      true ∧
    ((run 30 [.lookup .system "a" 0, .connected 0, .lookup .system "b" 0, .answered 0 5,
        .stored 0 ⟨1000, 1000, none, none⟩ true 0, .failed 0]).cache.table .system).entries ≠
      [] :=
  ⟨by decide, by decide, connected_only_with_entries 30 _ .system (by decide) (by decide)⟩

/-- **The converse fails.** A lookup connects and waits on the daemon; the whole bus is flushed,
which lets the connection go; the lookup then stores its entry. No lookup waits, the table has an
entry, and it holds no connection. -/
theorem flush_during_lookup_leaves_entry_unconnected :
    (run 30 [.lookup .system "a" 0, .connected 0, .flush .system none, .answered 0 5,
        .stored 0 ⟨1000, 1000, none, none⟩ true 0]).waiting = [] ∧
    ¬ (((run 30 [.lookup .system "a" 0, .connected 0, .flush .system none, .answered 0 5,
          .stored 0 ⟨1000, 1000, none, none⟩ true 0]).cache.table .system).connected = true ↔
        ((run 30 [.lookup .system "a" 0, .connected 0, .flush .system none, .answered 0 5,
          .stored 0 ⟨1000, 1000, none, none⟩ true 0]).cache.table .system).entries.isEmpty =
          false) := by
  decide

end Runtime

end PeerGate
