import PeerGate.Peer.Tasks
import PeerGate.Proofs.Keys

/-!
Generations in the peer cache, along every interleaving of lookups, flushes and lifecycle tasks.

Every stored entry takes the next generation and has its lifecycle task spawned at once; the task
removes an entry only under its own name and only while it is of the task's generation. From
these two facts alone, whatever the order of events:

* `Runtime.Sound`: the invariant. Each entry's task runs, under the entry's generation, bus and
  name; running tasks have distinct generations, below the next one; each table holds a name once;
  the generations stored increase; the history of entries that left holds each generation once,
  and none that is still present.
* `Sound.step`: one event keeps it, one lemma per kind of change (`Sound.setCache_of_shrinks`,
  `Sound.store`, `Sound.eraseTask`); `sound_run`: it holds after any sequence of events.
* `run_generations`: **the generations at work**: entries have distinct generations, stored in
  increasing order; an entry leaves at most once; each entry present has exactly one task spawned
  for it; and the eviction by the task of generation `k` removes an entry only if it is of
  generation `k` and the table maps the task's name to it, so an entry stored later under the same
  name is never removed by an earlier entry's idle time or watch.
-/

namespace PeerGate

namespace PeerCache

/-! ### Tables that keep their generations and names -/

/-- The generation and name of each entry of a table. -/
def Table.keys (t : Table) : List (Nat × String) :=
  t.entries.map fun e => (e.id, e.peer.name)

lemma Table.mem_keys {t : Table} {e : Entry} (he : e ∈ t.entries) :
    (e.id, e.peer.name) ∈ t.keys :=
  List.mem_map_of_mem he

lemma Table.keys_touch (t : Table) (name : String) (deadline : Nat) :
    (t.touch name deadline).keys = t.keys := by
  simp only [keys, touch_entries, List.map_map]
  refine List.map_congr_left fun e _ => ?_
  simp only [Function.comp_apply]
  split <;> rfl

/-- A table holding each name once finds a member under its name. -/
lemma Table.find?_of_mem {t : Table} (hn : (t.entries.map (·.peer.name)).Nodup) {e : Entry}
    (he : e ∈ t.entries) : t.find? e.peer.name = some e :=
  find?_key (fun x : Entry => x.peer.name) hn he

lemma mem_ids {c : PeerCache} {k : Nat} :
    k ∈ c.ids ↔ ∃ bus, ∃ e ∈ (c.table bus).entries, e.id = k := by
  constructor
  · intro h
    rcases List.mem_append.1 h with h | h
    · obtain ⟨e, he, rfl⟩ := List.mem_map.1 h
      exact ⟨.system, e, he, rfl⟩
    · obtain ⟨e, he, rfl⟩ := List.mem_map.1 h
      exact ⟨.session, e, he, rfl⟩
  · rintro ⟨bus, e, he, rfl⟩
    cases bus with
    | system => exact List.mem_append_left _ (List.mem_map_of_mem he)
    | session => exact List.mem_append_right _ (List.mem_map_of_mem he)

/-- The cache `c'` hands out the same generations next as `c`, and each of its tables holds only
generations and names its table in `c` holds, in the same order. -/
def Shrinks (c c' : PeerCache) : Prop :=
  c'.nextId = c.nextId ∧ ∀ bus, (c'.table bus).keys.Sublist (c.table bus).keys

variable {c c' : PeerCache}

lemma Shrinks.exists_of_mem (h : Shrinks c c') {bus : BusKind} {e' : Entry}
    (he : e' ∈ (c'.table bus).entries) :
    ∃ e ∈ (c.table bus).entries, e.id = e'.id ∧ e.peer.name = e'.peer.name := by
  obtain ⟨e, he, hkey⟩ := List.mem_map.1 ((h.2 bus).subset (Table.mem_keys he))
  simp only [Prod.mk.injEq] at hkey
  exact ⟨e, he, hkey⟩

lemma Shrinks.ids_subset (h : Shrinks c c') {k : Nat} (hk : k ∈ c'.ids) : k ∈ c.ids := by
  obtain ⟨bus, e', he', rfl⟩ := mem_ids.1 hk
  obtain ⟨e, he, hid, -⟩ := h.exists_of_mem he'
  exact mem_ids.2 ⟨bus, e, he, hid⟩

lemma Shrinks.names (h : Shrinks c c') (bus : BusKind) :
    ((c'.table bus).entries.map (·.peer.name)).Sublist
      ((c.table bus).entries.map (·.peer.name)) := by
  have := (h.2 bus).map Prod.snd
  simpa only [Table.keys, List.map_map, Function.comp_def] using this

/-- Changing one table so that it keeps a sublist of its generations and names. -/
lemma shrinks_modify (bus : BusKind) (f : Table → Table)
    (hf : (f (c.table bus)).keys.Sublist (c.table bus).keys) : Shrinks c (c.modify bus f) := by
  refine ⟨nextId_modify c bus f, fun bus' => ?_⟩
  by_cases hb : bus' = bus
  · subst hb
    rw [table_modify_self]
    exact hf
  · rw [table_modify_of_ne c f hb]

lemma shrinks_removeWhere (bus : BusKind) (p : Entry → Bool) :
    Shrinks c (c.modify bus (·.removeWhere p)) := by
  refine shrinks_modify bus _ ?_
  simp only [Table.keys, Table.removeWhere_entries]
  exact (List.filter_sublist).map _

lemma shrinks_flush (bus : BusKind) (name : Option String) : Shrinks c (c.flush bus name) := by
  cases name with
  | some name => exact shrinks_removeWhere bus _
  | none =>
      refine shrinks_modify bus _ ?_
      simp only [Table.keys, Table.releaseIfIdle_entries, List.map_nil]
      exact List.nil_sublist _

/-- The entries after a peer is stored: the new entry, and the entries that were there, none of
the peer's name on its bus. -/
lemma mem_put {now : Nat} {peer : Peer} {watched : Bool} {bus : BusKind} {e' : Entry}
    (he : e' ∈ ((c.put now peer watched).table bus).entries) :
    (bus = peer.bus ∧ e' = ⟨c.nextId, peer, now + c.idleMs, watched⟩) ∨
      (e' ∈ (c.table bus).entries ∧ (bus = peer.bus → e'.peer.name ≠ peer.name)) := by
  rw [table_put] at he
  by_cases hb : bus = peer.bus
  · subst hb
    rw [table_modify_self] at he
    simp only [Table.insert, List.mem_cons, List.mem_filter, bne_iff_ne, ne_eq] at he
    rcases he with rfl | ⟨he, hne⟩
    · exact .inl ⟨rfl, rfl⟩
    · exact .inr ⟨he, fun _ => hne⟩
  · rw [table_modify_of_ne c _ hb] at he
    exact .inr ⟨he, fun h => absurd h hb⟩

lemma names_put {now : Nat} {peer : Peer} {watched : Bool}
    (hn : ((c.table peer.bus).entries.map (·.peer.name)).Nodup) :
    (((c.put now peer watched).table peer.bus).entries.map (·.peer.name)).Nodup := by
  rw [table_put, table_modify_self]
  simp only [Table.insert, List.map_cons, List.nodup_cons]
  refine ⟨?_, hn.sublist (List.filter_sublist.map _)⟩
  simp

end PeerCache

/-! ### The invariant -/

namespace Runtime

open PeerCache

/-- What holds of the cache, its tasks and its histories along every run. -/
structure Sound (w : Runtime) : Prop where
  task_lt : ∀ t ∈ w.tasks, t.id < w.cache.nextId
  tasks_nodup : (w.tasks.map (·.id)).Nodup
  task_of_entry : ∀ bus, ∀ e ∈ (w.cache.table bus).entries,
    (⟨e.id, bus, e.peer.name⟩ : Task) ∈ w.tasks
  names_nodup : ∀ bus, ((w.cache.table bus).entries.map (·.peer.name)).Nodup
  spawned_sorted : w.spawned.Pairwise (· < ·)
  spawned_lt : ∀ k ∈ w.spawned, k < w.cache.nextId
  task_spawned : ∀ t ∈ w.tasks, t.id ∈ w.spawned
  gone_nodup : w.gone.Nodup
  gone_lt : ∀ k ∈ w.gone, k < w.cache.nextId
  gone_absent : ∀ k ∈ w.gone, k ∉ w.cache.ids

variable {w : Runtime}

lemma Sound.id_lt (h : w.Sound) {bus : BusKind} {e : Entry}
    (he : e ∈ (w.cache.table bus).entries) : e.id < w.cache.nextId :=
  h.task_lt _ (h.task_of_entry bus e he)

/-- Two entries of one generation have one task, so they stand in one table under one name. -/
lemma Sound.eq_of_id_eq (h : w.Sound) {b₁ b₂ : BusKind} {e₁ e₂ : Entry}
    (h₁ : e₁ ∈ (w.cache.table b₁).entries) (h₂ : e₂ ∈ (w.cache.table b₂).entries)
    (hid : e₁.id = e₂.id) : b₁ = b₂ ∧ e₁.peer.name = e₂.peer.name := by
  have htask := List.inj_on_of_nodup_map h.tasks_nodup (h.task_of_entry b₁ e₁ h₁)
    (h.task_of_entry b₂ e₂ h₂) hid
  simp only [Task.mk.injEq] at htask
  exact htask.2

/-- The entries of the cache have distinct generations. -/
lemma Sound.ids_nodup (h : w.Sound) : w.cache.ids.Nodup := by
  -- within a table, one generation means one name, and a name stands there once
  have htable : ∀ bus, ((w.cache.table bus).entries.map (·.id)).Nodup := by
    intro bus
    refine List.Nodup.map_on (fun e₁ h₁ e₂ h₂ hid => ?_) (h.names_nodup bus).of_map
    exact List.inj_on_of_nodup_map (h.names_nodup bus) h₁ h₂ (h.eq_of_id_eq h₁ h₂ hid).2
  refine List.nodup_append.2 ⟨htable .system, htable .session, ?_⟩
  intro a ha b hb hab
  obtain ⟨e₁, h₁, rfl⟩ := List.mem_map.1 ha
  obtain ⟨e₂, h₂, rfl⟩ := List.mem_map.1 hb
  exact BusKind.noConfusion (h.eq_of_id_eq h₁ h₂ hab).1

/-- Each entry present has exactly one task spawned for its generation. -/
lemma Sound.count_spawned (h : w.Sound) {bus : BusKind} {e : Entry}
    (he : e ∈ (w.cache.table bus).entries) : w.spawned.count e.id = 1 :=
  List.count_eq_one_of_mem (h.spawned_sorted.imp Nat.ne_of_lt)
    (h.task_spawned _ (h.task_of_entry bus e he))

/-! ### One lemma per kind of change -/

/-- A new cache whose generations were present or are the next one: the history takes the
generations that left, each once. -/
lemma Sound.gone_setCache (h : w.Sound) {c : PeerCache}
    (hsub : ∀ k ∈ c.ids, k ∈ w.cache.ids ∨ k = w.cache.nextId)
    (hnext : w.cache.nextId ≤ c.nextId) :
    (w.setCache c).gone.Nodup ∧ (∀ k ∈ (w.setCache c).gone, k < c.nextId) ∧
      ∀ k ∈ (w.setCache c).gone, k ∉ c.ids := by
  have hleft : ∀ k ∈ w.cache.ids.filter (fun k => k ∉ c.ids), k ∈ w.cache.ids ∧ k ∉ c.ids := by
    intro k hk
    simpa using hk
  refine ⟨?_, fun k hk => ?_, fun k hk hkc => ?_⟩
  · -- what left was present, so it was not in the history yet
    refine List.nodup_append.2 ⟨h.gone_nodup, h.ids_nodup.filter _, ?_⟩
    rintro a ha b hb rfl
    exact h.gone_absent a ha (hleft a hb).1
  · rcases List.mem_append.1 hk with hk | hk
    · exact Nat.lt_of_lt_of_le (h.gone_lt k hk) hnext
    · obtain ⟨bus, e, he, rfl⟩ := mem_ids.1 (hleft _ hk).1
      exact Nat.lt_of_lt_of_le (h.id_lt he) hnext
  · rcases List.mem_append.1 hk with hk | hk
    · rcases hsub k hkc with hold | rfl
      · exact h.gone_absent k hk hold
      · exact Nat.lt_irrefl _ (h.gone_lt _ hk)
    · exact (hleft k hk).2 hkc

/-- A cache that keeps only generations and names it had. -/
lemma Sound.setCache_of_shrinks (h : w.Sound) {c : PeerCache} (hs : Shrinks w.cache c) :
    (w.setCache c).Sound := by
  obtain ⟨hgone, hgone_lt, hgone_absent⟩ :=
    h.gone_setCache (fun k hk => .inl (hs.ids_subset hk)) (Nat.le_of_eq hs.1.symm)
  refine ⟨fun t ht => hs.1 ▸ h.task_lt t ht, h.tasks_nodup, fun bus e' he' => ?_,
    fun bus => (h.names_nodup bus).sublist (hs.names bus), h.spawned_sorted,
    fun k hk => hs.1 ▸ h.spawned_lt k hk, h.task_spawned, hgone, hgone_lt, hgone_absent⟩
  obtain ⟨e, he, hid, hname⟩ := hs.exists_of_mem he'
  have := h.task_of_entry bus e he
  rwa [hid, hname] at this

/-- A task whose entry is not present ends. -/
lemma Sound.eraseTask (h : w.Sound) {t : Task}
    (hnot : ∀ bus, ∀ e ∈ (w.cache.table bus).entries, (⟨e.id, bus, e.peer.name⟩ : Task) ≠ t) :
    { w with tasks := w.tasks.erase t }.Sound := by
  refine ⟨fun t' ht' => h.task_lt t' (List.mem_of_mem_erase ht'),
    h.tasks_nodup.sublist (List.erase_sublist.map _),
    fun bus e he => (List.mem_erase_of_ne (hnot bus e he)).2 (h.task_of_entry bus e he),
    h.names_nodup, h.spawned_sorted, h.spawned_lt,
    fun t' ht' => h.task_spawned t' (List.mem_of_mem_erase ht'),
    h.gone_nodup, h.gone_lt, h.gone_absent⟩

lemma Sound.withWaiting (h : w.Sound) (l : List Waiting) : { w with waiting := l }.Sound :=
  ⟨h.task_lt, h.tasks_nodup, h.task_of_entry, h.names_nodup, h.spawned_sorted, h.spawned_lt,
    h.task_spawned, h.gone_nodup, h.gone_lt, h.gone_absent⟩

/-- A stored entry takes the next generation, and its task is spawned with it. -/
lemma Sound.store (h : w.Sound) (i : Nat) (bus : BusKind) (name : String) (pid : UInt32)
    (cred : Credential) (watched : Bool) (now : Nat) :
    (w.store i bus name pid cred watched now).Sound := by
  have hsub : ∀ k ∈ (w.cache.put now ⟨bus, name, pid, cred⟩ watched).ids,
      k ∈ w.cache.ids ∨ k = w.cache.nextId := by
    intro k hk
    obtain ⟨b, e', he', rfl⟩ := mem_ids.1 hk
    rcases mem_put he' with ⟨-, rfl⟩ | ⟨he', -⟩
    · exact .inr rfl
    · exact .inl (mem_ids.2 ⟨b, e', he', rfl⟩)
  obtain ⟨hgone, hgone_lt, hgone_absent⟩ :=
    h.gone_setCache hsub (Nat.le_succ w.cache.nextId)
  refine ⟨fun t ht => ?_, ?_, fun b e' he' => ?_, fun b => ?_, ?_, fun k hk => ?_,
    fun t ht => ?_, hgone, hgone_lt, hgone_absent⟩
  · -- the tasks run below the next generation, the new one at the old next
    rcases List.mem_append.1 ht with ht | ht
    · exact Nat.lt_succ_of_lt (h.task_lt t ht)
    · rw [List.mem_singleton.1 ht]
      exact Nat.lt_succ_self _
  · show ((w.tasks ++ [(⟨w.cache.nextId, bus, name⟩ : Task)]).map (·.id)).Nodup
    refine nodup_map_append_singleton (fun t : Task => t.id) h.tasks_nodup fun t ht => ?_
    exact Nat.ne_of_lt (h.task_lt t ht)
  · rcases mem_put he' with ⟨rfl, rfl⟩ | ⟨he', -⟩
    · exact List.mem_append_right _ (List.mem_singleton_self _)
    · exact List.mem_append_left _ (h.task_of_entry b e' he')
  · by_cases hb : b = bus
    · subst hb
      exact names_put (h.names_nodup _)
    · change ((w.cache.put now ⟨bus, name, pid, cred⟩ watched).table b).entries.map _ |>.Nodup
      rw [table_put, table_modify_of_ne _ _ hb]
      exact h.names_nodup b
  · refine List.pairwise_append.2 ⟨h.spawned_sorted, List.pairwise_singleton _ _, ?_⟩
    intro a ha b hb
    rw [List.mem_singleton.1 hb]
    exact h.spawned_lt a ha
  · rcases List.mem_append.1 hk with hk | hk
    · exact Nat.lt_succ_of_lt (h.spawned_lt k hk)
    · rw [List.mem_singleton.1 hk]
      exact Nat.lt_succ_self _
  · rcases List.mem_append.1 ht with ht | ht
    · exact List.mem_append_left _ (h.task_spawned t ht)
    · rw [List.mem_singleton.1 ht]
      exact List.mem_append_right _ (List.mem_singleton_self _)

/-! ### Every event, every run -/

/-- Each event keeps the invariant: lookups that start or wait change no table, a hit moves a
deadline, a connection and a failure keep the entries, a flush and an eviction remove, a store
adds the next generation, and a task ends only when its entry is gone or with its eviction. -/
lemma Sound.step (h : w.Sound) : ∀ ev, (w.step ev).Sound
  | .lookup bus name now => by
      simp only [Runtime.step]
      split
      · refine h.setCache_of_shrinks (shrinks_modify bus _ ?_)
        rw [Table.keys_touch]
      · exact h.withWaiting _
  | .connected i => by
      simp only [Runtime.step]
      split
      · exact (h.setCache_of_shrinks (shrinks_modify _ _ (List.Sublist.refl _))).withWaiting _
      · exact h
  | .answered i pid => by
      simp only [Runtime.step]
      split
      · exact h.withWaiting _
      · exact h
  | .stored i cred watched now => by
      simp only [Runtime.step]
      split
      · exact h.store ..
      · exact h
  | .failed i => by
      simp only [Runtime.step]
      split
      · refine (h.setCache_of_shrinks (shrinks_modify _ _ ?_)).withWaiting _
        simp only [Table.keys, Table.releaseIfIdle_entries]
        exact List.Sublist.refl _
      · exact h
  | .flush bus name => h.setCache_of_shrinks (shrinks_flush bus name)
  | .evict k => by
      simp only [Runtime.step]
      split
      · rename_i t ht
        have htk : t.id = k := by simpa using List.find?_some ht
        refine (h.setCache_of_shrinks (shrinks_removeWhere t.bus _)).eraseTask ?_
        -- an entry the task stands for has its name and generation, so the eviction took it
        rintro bus e he rfl
        change e ∈ ((w.cache.modify bus _).table bus).entries at he
        rw [table_modify_self, Table.removeWhere_entries, List.mem_filter] at he
        simp [← htk] at he
      · exact h
  | .cancelled k => by
      simp only [Runtime.step]
      split
      · rename_i t ht
        have htk : t.id = k := by simpa using List.find?_some ht
        split
        · exact h
        · rename_i hk
          refine h.eraseTask ?_
          rintro bus e he rfl
          exact hk (htk ▸ mem_ids.2 ⟨bus, e, he, rfl⟩)
      · exact h

lemma sound_start (idleMs : Nat) : ({ cache := { idleMs } } : Runtime).Sound := by
  have hempty : ∀ bus, (({ idleMs } : PeerCache).table bus).entries = [] := by
    intro bus
    cases bus <;> rfl
  refine ⟨by simp, by simp, fun bus e he => ?_, fun bus => ?_, .nil, by simp, by simp, .nil,
    by simp, by simp⟩
  · rw [hempty] at he
    cases he
  · rw [hempty]
    exact List.nodup_nil

/-- The invariant along every run: by induction on the events, from the step lemma. -/
theorem sound_run (idleMs : Nat) (events : List Event) : (run idleMs events).Sound := by
  suffices ∀ w : Runtime, w.Sound → (events.foldl step w).Sound from this _ (sound_start idleMs)
  induction events with
  | nil => exact fun w h => h
  | cons ev events ih => exact fun w h => ih _ (h.step ev)

/-- The eviction by the task of generation `k` keeps every entry, but the one of generation `k`
that the table maps the task's name to. -/
lemma Sound.evict_keeps (h : w.Sound) (k : Nat) {bus : BusKind} {e : Entry}
    (he : e ∈ (w.cache.table bus).entries) :
    e ∈ ((w.step (.evict k)).cache.table bus).entries ∨
      (e.id = k ∧ ∃ t ∈ w.tasks, t.id = k ∧ t.bus = bus ∧ t.name = e.peer.name ∧
        (w.cache.table bus).find? t.name = some e) := by
  simp only [Runtime.step]
  split
  · rename_i t ht
    have htk : t.id = k := by simpa using List.find?_some ht
    have htm : t ∈ w.tasks := List.mem_of_find?_eq_some ht
    by_cases hb : bus = t.bus
    · subst hb
      by_cases hp : (e.peer.name == t.name && e.id == k) = true
      · simp only [Bool.and_eq_true, beq_iff_eq] at hp
        obtain ⟨hname, hid⟩ := hp
        refine .inr ⟨hid, t, htm, htk, rfl, hname.symm, ?_⟩
        rw [← hname]
        exact Table.find?_of_mem (h.names_nodup _) he
      · left
        change e ∈ ((w.cache.modify t.bus _).table t.bus).entries
        rw [table_modify_self, Table.removeWhere_entries, List.mem_filter]
        have hq : (e.peer.name == t.name && e.id == k) = false := Bool.eq_false_iff.2 hp
        exact ⟨he, by rw [hq]; rfl⟩
    · left
      change e ∈ ((w.cache.modify t.bus _).table bus).entries
      rw [table_modify_of_ne _ _ hb]
      exact he
  · exact .inl he

/-- **Generations at work.** Along every interleaving of lookups, flushes and lifecycle tasks:
the entries have distinct generations; generations are stored in increasing order; no entry
leaves a table twice; each entry present has exactly one task spawned for it, and it runs; and
the eviction by the task of generation `k` keeps every entry but the one of generation `k` that
the table maps the task's name to. An entry stored later under the same name has another
generation, so an earlier entry's idle time or watch never removes it. -/
theorem run_generations (idleMs : Nat) (events : List Event) :
    let w := run idleMs events
    w.cache.ids.Nodup ∧ w.spawned.Pairwise (· < ·) ∧ w.gone.Nodup ∧
    (∀ bus, ∀ e ∈ (w.cache.table bus).entries,
      w.spawned.count e.id = 1 ∧ (⟨e.id, bus, e.peer.name⟩ : Task) ∈ w.tasks) ∧
    ∀ k bus, ∀ e ∈ (w.cache.table bus).entries,
      e ∈ ((w.step (.evict k)).cache.table bus).entries ∨
      (e.id = k ∧ ∃ t ∈ w.tasks, t.id = k ∧ t.bus = bus ∧ t.name = e.peer.name ∧
        (w.cache.table bus).find? t.name = some e) := by
  intro w
  have h : w.Sound := sound_run idleMs events
  exact ⟨h.ids_nodup, h.spawned_sorted, h.gone_nodup,
    fun bus e he => ⟨h.count_spawned he, h.task_of_entry bus e he⟩,
    fun k bus e he => h.evict_keeps k he⟩

end Runtime

end PeerGate
