import PeerGate.Peer.Clock
import PeerGate.Proofs.Generations

/-!
When the entries of the peer cache go for idleness, along every interleaving on a virtual clock.

A lifecycle task's deadline is one idle time after its entry was stored, and each hit the task
takes moves it to one idle time after that moment. The task takes a hit at the instant it came,
since time passes only while no task has a branch ready; but a hit that comes at the very instant
the deadline falls due may find the task choosing its deadline.

* `Clocked.Timely`: what holds of a running task's timing: its deadline is one idle time after a
  store or a hit of its entry, and no earlier than one idle time after any store, any hit before
  now, and any hit at all once the task has taken its hits; a hit not yet taken came now; the
  deadline has not passed.
* `Clocked.Sound`: the invariant, with `Runtime.Sound` for the cache; `Sound.step`, one lemma
  per kind of change; `sound_run`: it holds after any sequence of events.
* `idle_eviction_timing`: **the idle time is kept**: an entry is never evicted for idleness within
  one idle time of its store or of a hit that came before the eviction's instant, and an entry is
  never present later than one idle time after its store or its last hit.
* `idle_eviction_at_hit_instant`: a hit at the instant the deadline falls due does not save the
  entry: the task may take its deadline, and the entry goes at the instant of the hit.
-/

namespace PeerGate

namespace Runtime

open PeerCache

variable {w : Runtime}

/-! ### The cache runtime, one step at a time -/

/-- A cache that keeps a part of each table keeps its idle time and generations. -/
lemma generations_of_shrinks {c c' : PeerCache} (hi : c'.idleMs = c.idleMs) (hs : Shrinks c c') :
    c'.idleMs = c.idleMs ∧ c.nextId ≤ c'.nextId ∧ ∀ k ∈ c'.ids, k ∈ c.ids ∨ k = c.nextId :=
  ⟨hi, Nat.le_of_eq hs.1.symm, fun _ hk => .inl (hs.ids_subset hk)⟩

/-- Each event keeps the idle time, never takes the next generation back, and brings in no
generation but the next. -/
lemma step_generations (w : Runtime) : ∀ ev,
    (w.step ev).cache.idleMs = w.cache.idleMs ∧ w.cache.nextId ≤ (w.step ev).cache.nextId ∧
      ∀ k ∈ (w.step ev).cache.ids, k ∈ w.cache.ids ∨ k = w.cache.nextId
  | .lookup bus name now => by
      simp only [Runtime.step]
      split
      · exact generations_of_shrinks (idleMs_modify ..)
          (shrinks_modify bus _ (by rw [Table.keys_touch]))
      · exact generations_of_shrinks rfl ⟨rfl, fun _ => List.Sublist.refl _⟩
  | .connected i => by
      simp only [Runtime.step]
      split
      · exact generations_of_shrinks (idleMs_modify ..) (shrinks_modify _ _ (List.Sublist.refl _))
      · exact generations_of_shrinks rfl ⟨rfl, fun _ => List.Sublist.refl _⟩
  | .answered i pid => by
      simp only [Runtime.step]
      split <;> exact generations_of_shrinks rfl ⟨rfl, fun _ => List.Sublist.refl _⟩
  | .stored i cred watched now => by
      simp only [Runtime.step]
      split
      · refine ⟨idleMs_modify .., Nat.le_succ _, fun k hk => ?_⟩
        obtain ⟨b, e', he', rfl⟩ := mem_ids.1 hk
        rcases mem_put he' with ⟨-, rfl⟩ | ⟨he', -⟩
        · exact .inr rfl
        · exact .inl (mem_ids.2 ⟨b, e', he', rfl⟩)
      · exact generations_of_shrinks rfl ⟨rfl, fun _ => List.Sublist.refl _⟩
  | .failed i => by
      simp only [Runtime.step]
      split
      · refine generations_of_shrinks (idleMs_modify ..) (shrinks_modify _ _ ?_)
        simp only [Table.keys, Table.releaseIfIdle_entries]
        exact List.Sublist.refl _
      · exact generations_of_shrinks rfl ⟨rfl, fun _ => List.Sublist.refl _⟩
  | .flush bus name => by
      refine generations_of_shrinks ?_ (shrinks_flush bus name)
      cases name <;> exact idleMs_modify ..
  | .evict k => by
      simp only [Runtime.step]
      split
      · exact generations_of_shrinks (idleMs_modify ..) (shrinks_removeWhere _ _)
      · exact generations_of_shrinks rfl ⟨rfl, fun _ => List.Sublist.refl _⟩
  | .cancelled k => by
      simp only [Runtime.step]
      split
      · split <;> exact generations_of_shrinks rfl ⟨rfl, fun _ => List.Sublist.refl _⟩
      · exact generations_of_shrinks rfl ⟨rfl, fun _ => List.Sublist.refl _⟩

/-- The running task of an entry's generation is the entry's own. -/
lemma Sound.task_eq_of_entry (h : w.Sound) {bus : BusKind} {e : Entry}
    (he : e ∈ (w.cache.table bus).entries) {t : Task} (ht : t ∈ w.tasks) (hid : t.id = e.id) :
    t = ⟨e.id, bus, e.peer.name⟩ :=
  List.inj_on_of_nodup_map h.tasks_nodup ht (h.task_of_entry bus e he) hid

/-- The task of generation `k` is the one found under `k`. -/
lemma Sound.find?_task (h : w.Sound) {t : Task} (ht : t ∈ w.tasks) :
    w.tasks.find? (·.id == t.id) = some t :=
  find?_key (fun u : Task => u.id) h.tasks_nodup ht

/-- The eviction by a running task leaves no entry of its generation. -/
lemma Sound.not_mem_ids_evict (h : w.Sound) {t : Task} (ht : t ∈ w.tasks) :
    t.id ∉ (w.step (.evict t.id)).cache.ids := by
  intro hk
  obtain ⟨bus, e, he, hid⟩ := mem_ids.1 hk
  simp only [Runtime.step, h.find?_task ht] at he
  change e ∈ ((w.cache.modify t.bus _).table bus).entries at he
  by_cases hb : bus = t.bus
  · subst hb
    rw [table_modify_self, Table.removeWhere_entries, List.mem_filter] at he
    -- the entry of the task's generation stands under the task's name, so it was removed
    have htask := h.task_eq_of_entry he.1 ht hid.symm
    have hname : e.peer.name = t.name := by rw [htask]
    simp [hname, hid] at he
  · rw [table_modify_of_ne _ _ hb] at he
    exact hb (congrArg Task.bus (h.task_eq_of_entry he ht hid.symm)).symm

/-- A task whose entry is gone ends, and only it. -/
lemma Sound.tasks_cancelled (h : w.Sound) {t : Task} (ht : t ∈ w.tasks) (hk : t.id ∉ w.cache.ids) :
    w.step (.cancelled t.id) = { w with tasks := w.tasks.erase t } := by
  simp only [Runtime.step, h.find?_task ht, if_neg hk]

lemma Sound.tasks_evict (h : w.Sound) {t : Task} (ht : t ∈ w.tasks) :
    (w.step (.evict t.id)).tasks = w.tasks.erase t := by
  simp only [Runtime.step, h.find?_task ht]

/-- The tasks other than an ended one, by generation. -/
lemma Sound.mem_erase_iff (h : w.Sound) {t u : Task} (ht : t ∈ w.tasks) :
    u ∈ w.tasks.erase t ↔ u ∈ w.tasks ∧ u.id ≠ t.id := by
  constructor
  · intro hu
    refine ⟨List.mem_of_mem_erase hu, fun hid => ?_⟩
    have hut : u = t := List.inj_on_of_nodup_map h.tasks_nodup (List.mem_of_mem_erase hu) ht hid
    subst hut
    exact (List.Nodup.not_mem_erase (h.tasks_nodup.of_map _)) hu
  · rintro ⟨hu, hid⟩
    exact (List.mem_erase_of_ne fun hut => hid (congrArg Task.id hut)).2 hu

end Runtime

namespace Clocked

open PeerCache

/-! ### The timing of a running task -/

/-- What holds of the timing of a running task. -/
structure Timely (w : Clocked) (t : Timing) : Prop where
  from_sighting : ∃ s, (.stored t.task.id s ∈ w.sightings ∨ .hit t.task.id s ∈ w.sightings) ∧
    t.deadline = s + w.rt.cache.idleMs
  covers : ∀ s, (.stored t.task.id s ∈ w.sightings ∨
      (.hit t.task.id s ∈ w.sightings ∧ (s < w.now ∨ t.touched = false))) →
    s + w.rt.cache.idleMs ≤ t.deadline
  touched_now : t.touched = true → .hit t.task.id w.now ∈ w.sightings
  not_past : w.now ≤ t.deadline

/-- The sightings of the entry of generation `k` are the same in `w'` as in `w`. -/
def SameSightings (w w' : Clocked) (k : Nat) : Prop :=
  ∀ s, (Sighting.stored k s ∈ w'.sightings ↔ Sighting.stored k s ∈ w.sightings) ∧
    (Sighting.hit k s ∈ w'.sightings ↔ Sighting.hit k s ∈ w.sightings)

variable {w w' : Clocked} {t t' : Timing}

lemma sameSightings_rfl (h : w'.sightings = w.sightings) (k : Nat) : SameSightings w w' k :=
  fun s => by rw [h]; exact ⟨Iff.rfl, Iff.rfl⟩

/-- A sighting of another generation, or an eviction, changes nothing for generation `k`. -/
lemma sameSightings_append {x : Sighting} (h : w'.sightings = w.sightings ++ [x]) {k : Nat}
    (hx : ∀ s, x ≠ .stored k s ∧ x ≠ .hit k s) : SameSightings w w' k := by
  intro s
  rw [h, List.mem_append, List.mem_append, List.mem_singleton, List.mem_singleton]
  exact ⟨or_iff_left (hx s).1.symm, or_iff_left (hx s).2.symm⟩

/-- A timing keeps what holds of it while its task, deadline and pending hit stay, and so do the
clock, the idle time and the sightings of its entry. -/
lemma Timely.congr (h : w.Timely t) (hnow : w'.now = w.now)
    (hidle : w'.rt.cache.idleMs = w.rt.cache.idleMs) (hs : SameSightings w w' t.task.id)
    (htask : t'.task = t.task) (hdeadline : t'.deadline = t.deadline)
    (htouched : t'.touched = t.touched) : w'.Timely t' := by
  obtain ⟨⟨s, hsrc, hd⟩, hcov, htn, hnp⟩ := h
  rw [← htask] at hs
  refine ⟨⟨s, ?_, by rw [hdeadline, hd, hidle]⟩, fun s' hs' => ?_, fun ht => ?_, ?_⟩
  · rw [(hs s).1, (hs s).2, htask]
    exact hsrc
  · rw [hidle, hdeadline]
    rw [(hs s').1, (hs s').2, hnow, htouched, htask] at hs'
    exact hcov s' hs'
  · rw [hnow, (hs _).2, htask]
    exact htn (htouched ▸ ht)
  · rw [hnow, hdeadline]
    exact hnp

/-! ### The invariant -/

/-- What holds along every run: the cache runtime is sound, each running task has its timing and
each timing its running task, each timing is timely, the sightings lie in the past and name
generations handed out, and an entry evicted for idleness went at least one idle time after its
store and after each hit before the eviction's instant, and never came back. -/
structure Sound (w : Clocked) : Prop where
  rt : w.rt.Sound
  timing_task : ∀ t ∈ w.timings, t.task ∈ w.rt.tasks
  task_timing : ∀ t ∈ w.rt.tasks, ∃ u ∈ w.timings, u.task = t
  timely : ∀ t ∈ w.timings, w.Timely t
  sighting_le_now : ∀ x ∈ w.sightings, x.time ≤ w.now
  sighting_lt_next : ∀ x ∈ w.sightings, x.id < w.rt.cache.nextId
  idle_absent : ∀ k s, .idle k s ∈ w.sightings → k ∉ w.rt.cache.ids
  idle_late : ∀ k u, .idle k u ∈ w.sightings → ∀ s,
    (.stored k s ∈ w.sightings ∨ (.hit k s ∈ w.sightings ∧ s < u)) →
      s + w.rt.cache.idleMs ≤ u

/-- A sighting of the entry of generation `k` names a generation handed out, so an evicted one
sighted later would be present. -/
lemma Sound.idle_ne (h : w.Sound) {k s : Nat} (hk : Sighting.idle k s ∈ w.sightings) {e : Entry}
    {bus : BusKind} (he : e ∈ (w.rt.cache.table bus).entries) : e.id ≠ k := by
  rintro rfl
  exact h.idle_absent _ s hk (mem_ids.2 ⟨bus, e, he, rfl⟩)

/-- A sighting made now, of a generation below `n`, keeps every sighting in the past and below
`n`, once the next generation is at most `n`. -/
lemma Sound.sighting_append (h : w.Sound) {x : Sighting} {n : Nat} (hnow : x.time = w.now)
    (hx : x.id < n) (hn : w.rt.cache.nextId ≤ n) :
    ∀ y ∈ w.sightings ++ [x], y.time ≤ w.now ∧ y.id < n := by
  intro y hy
  rcases List.mem_append.1 hy with hy | hy
  · exact ⟨h.sighting_le_now y hy, Nat.lt_of_lt_of_le (h.sighting_lt_next y hy) hn⟩
  · rw [List.mem_singleton.1 hy]
    exact ⟨Nat.le_of_eq hnow, hx⟩

/-- A store or a hit sighted, of a generation never evicted for idleness: the evictions for
idleness are those there were, and each stays as late as it was. -/
lemma Sound.sight (h : w.Sound) {x : Sighting} (hnot : ∀ k u, x ≠ .idle k u)
    (hnew : ∀ k u, Sighting.idle k u ∈ w.sightings → x.id ≠ k) :
    (∀ k u, Sighting.idle k u ∈ w.sightings ++ [x] → Sighting.idle k u ∈ w.sightings) ∧
    ∀ k u, Sighting.idle k u ∈ w.sightings ++ [x] → ∀ s,
      (Sighting.stored k s ∈ w.sightings ++ [x] ∨ (Sighting.hit k s ∈ w.sightings ++ [x] ∧ s < u)) →
        s + w.rt.cache.idleMs ≤ u := by
  have hold : ∀ k u, Sighting.idle k u ∈ w.sightings ++ [x] → Sighting.idle k u ∈ w.sightings := by
    intro k u hk
    rcases List.mem_append.1 hk with hk | hk
    · exact hk
    · exact absurd (List.mem_singleton.1 hk).symm (hnot k u)
  refine ⟨hold, fun k u hk s hs => h.idle_late k u (hold k u hk) s ?_⟩
  -- a sighting of generation `k` is not the new one
  have hprev : ∀ y ∈ w.sightings ++ [x], y.id = k → y ∈ w.sightings := by
    intro y hy hyk
    rcases List.mem_append.1 hy with hy | hy
    · exact hy
    · rw [List.mem_singleton.1 hy] at hyk
      exact absurd hyk (hnew k u (hold k u hk))
  exact hs.imp (fun hs => hprev _ hs rfl) fun hs => ⟨hprev _ hs.1 rfl, hs.2⟩

/-- No generation evicted for idleness is among those of a cache that brings in none but the
next. -/
lemma Sound.not_mem_ids_of (h : w.Sound) {c : PeerCache}
    (hids : ∀ k ∈ c.ids, k ∈ w.rt.cache.ids ∨ k = w.rt.cache.nextId) {k s : Nat}
    (hk : Sighting.idle k s ∈ w.sightings) : k ∉ c.ids := by
  intro hkmem
  rcases hids k hkmem with hkmem | rfl
  · exact h.idle_absent k s hk hkmem
  · exact Nat.lt_irrefl _ (h.sighting_lt_next _ hk)

/-- Whether time can pass by `ms`, for one timing: no hit waits, and its deadline is not before
the end. -/
lemma quiet_timing {ms : Nat} (hq : w.quiet ms = true) (ht : t ∈ w.timings) :
    t.touched = false ∧ w.now + ms ≤ t.deadline := by
  have := List.all_eq_true.1 hq t ht
  simp only [ready, Bool.and_eq_true, Bool.not_eq_eq_eq_not, Bool.not_true,
    decide_eq_true_eq] at this
  exact ⟨this.1.1.2, this.2⟩

/-! ### Timely timings, one change at a time -/

/-- A notified timing stays timely: the new hit comes now, and waits to be taken. -/
lemma Timely.notify (h : w.Timely t) (hnow : w'.now = w.now)
    (hidle : w'.rt.cache.idleMs = w.rt.cache.idleMs)
    (hs : w'.sightings = w.sightings ++ [.hit t.task.id w.now]) :
    w'.Timely { t with touched := true } := by
  obtain ⟨⟨s, hsrc, hd⟩, hcov, -, hnp⟩ := h
  refine ⟨⟨s, ?_, by rw [hidle]; exact hd⟩, fun s' hs' => ?_, fun _ => ?_, hnow ▸ hnp⟩
  · rw [hs]
    exact hsrc.imp (List.mem_append_left _) (List.mem_append_left _)
  · rw [hidle]
    refine hcov s' ?_
    simp only [hs, hnow, List.mem_append, List.mem_singleton, Sighting.hit.injEq, reduceCtorEq,
      or_false, Bool.true_eq_false] at hs'
    rcases hs' with hs' | ⟨hs' | ⟨-, rfl⟩, hlt⟩
    · exact .inl hs'
    · exact .inr ⟨hs', .inl hlt⟩
    · exact absurd hlt (Nat.lt_irrefl _)
  · rw [hs, hnow]
    exact List.mem_append_right _ (List.mem_singleton_self _)

/-- A hit taken: the deadline is one idle time from now, after the hit that came now and every
store and hit before. -/
lemma Sound.timely_take_hit (h : w.Sound) (hhit : Sighting.hit t.task.id w.now ∈ w.sightings) :
    w.Timely { t with deadline := w.now + w.rt.cache.idleMs, touched := false } := by
  refine ⟨⟨w.now, .inr hhit, rfl⟩, fun s hs => ?_, fun hf => absurd hf (by simp),
    Nat.le_add_right _ _⟩
  have hsx : ∃ x ∈ w.sightings, x.time = s := by
    rcases hs with hs | ⟨hs, -⟩
    · exact ⟨_, hs, rfl⟩
    · exact ⟨_, hs, rfl⟩
  obtain ⟨x, hx, rfl⟩ := hsx
  exact Nat.add_le_add_right (h.sighting_le_now x hx) _

/-- The timing of the task of a store made now: its deadline is one idle time away, after the
store, the only sighting of the new generation. -/
lemma Sound.timely_start (h : w.Sound) (hnow : w'.now = w.now)
    (hidle : w'.rt.cache.idleMs = w.rt.cache.idleMs)
    (hsight : w'.sightings = w.sightings ++ [.stored w.rt.cache.nextId w.now]) {task : Task}
    (htask : task.id = w.rt.cache.nextId) (watched : Bool) :
    w'.Timely ⟨task, w.now + w.rt.cache.idleMs, false, watched, false⟩ := by
  -- nothing sighted before is of the new generation
  have hfresh : ∀ x ∈ w.sightings, x.id ≠ w.rt.cache.nextId :=
    fun x hx => Nat.ne_of_lt (h.sighting_lt_next x hx)
  refine ⟨⟨w.now, .inl ?_, by rw [hidle]⟩, fun s hs => ?_, fun hf => absurd hf (by simp),
    hnow ▸ Nat.le_add_right _ _⟩
  · rw [hsight, htask]
    exact List.mem_append_right _ (List.mem_singleton_self _)
  · simp only [hsight, htask, List.mem_append, List.mem_singleton, Sighting.stored.injEq, true_and,
      reduceCtorEq, or_false] at hs
    rw [hidle]
    rcases hs with (hs | rfl) | ⟨hs, -⟩
    · exact absurd rfl (hfresh _ hs)
    · exact Nat.le_refl _
    · exact absurd rfl (hfresh _ hs)

/-- Time passes while no hit waits and no deadline falls due: every timing stays timely. -/
lemma Timely.elapse (h : w.Timely t) {ms : Nat} (htouched : t.touched = false)
    (hend : w.now + ms ≤ t.deadline) : ({ w with now := w.now + ms } : Clocked).Timely t := by
  obtain ⟨hsrc, hcov, -, -⟩ := h
  exact ⟨hsrc, fun s hs => hcov s (hs.imp id fun hs => ⟨hs.1, .inr htouched⟩),
    fun ht => absurd (htouched ▸ ht) (by simp), hend⟩

/-! ### One lemma per kind of change -/

/-- An event of the cache runtime that starts and stops no task, at the same instant and with
the same sightings. -/
lemma Sound.withRt (h : w.Sound) (ev : PeerCache.Event)
    (htasks : (w.rt.step ev).tasks = w.rt.tasks) :
    ({ w with rt := w.rt.step ev } : Clocked).Sound := by
  obtain ⟨hidle, hnext, hids⟩ := w.rt.step_generations ev
  exact ⟨h.rt.step ev, fun u hu => htasks ▸ h.timing_task u hu,
    fun u hu => h.task_timing u (htasks ▸ hu),
    fun u hu => (h.timely u hu).congr rfl hidle (sameSightings_rfl rfl _) rfl rfl rfl,
    h.sighting_le_now, fun x hx => Nat.lt_of_lt_of_le (h.sighting_lt_next x hx) hnext,
    fun k s hk => h.not_mem_ids_of hids hk, fun k u hk s hs => hidle ▸ h.idle_late k u hk s hs⟩

/-- The timings change, each keeping its task, deadline and pending hit. -/
lemma Sound.map_timings (h : w.Sound) (f : Timing → Timing)
    (hf : ∀ t, (f t).task = t.task ∧ (f t).deadline = t.deadline ∧ (f t).touched = t.touched) :
    ({ w with timings := w.timings.map f } : Clocked).Sound := by
  refine ⟨h.rt, fun u hu => ?_, fun u hu => ?_, fun u hu => ?_, h.sighting_le_now,
    h.sighting_lt_next, h.idle_absent, h.idle_late⟩
  · obtain ⟨u₀, hu₀, rfl⟩ := List.mem_map.1 hu
    exact (hf u₀).1 ▸ h.timing_task u₀ hu₀
  · obtain ⟨u₀, hu₀, rfl⟩ := h.task_timing u hu
    exact ⟨f u₀, List.mem_map_of_mem hu₀, (hf u₀).1⟩
  · obtain ⟨u₀, hu₀, rfl⟩ := List.mem_map.1 hu
    obtain ⟨htask, hdeadline, htouched⟩ := hf u₀
    exact (h.timely u₀ hu₀).congr rfl rfl (sameSightings_rfl rfl _) htask hdeadline htouched

/-- A hit on a present entry: its task is notified, and the hit is sighted now. -/
lemma Sound.notify (h : w.Sound) {bus : BusKind} {e : Entry}
    (he : e ∈ (w.rt.cache.table bus).entries) :
    ({ w with
        timings := w.timings.map fun t => if t.task.id = e.id then { t with touched := true } else t
        sightings := w.sightings ++ [.hit e.id w.now] } : Clocked).Sound := by
  have hpast := h.sighting_append (x := .hit e.id w.now) rfl (h.rt.id_lt he) (Nat.le_refl _)
  -- the entry hit is present, so never evicted for idleness
  obtain ⟨hold, hlate⟩ := h.sight (x := .hit e.id w.now) (by simp)
    fun k u hk => h.idle_ne hk he
  refine ⟨h.rt, fun u hu => ?_, fun u hu => ?_, fun u hu => ?_, fun x hx => (hpast x hx).1,
    fun x hx => (hpast x hx).2, fun k s hk => h.idle_absent k s (hold k s hk), hlate⟩
  · obtain ⟨u₀, hu₀, rfl⟩ := List.mem_map.1 hu
    split <;> exact h.timing_task u₀ hu₀
  · obtain ⟨u₀, hu₀, rfl⟩ := h.task_timing u hu
    exact ⟨_, List.mem_map_of_mem hu₀, by split <;> rfl⟩
  · obtain ⟨u₀, hu₀, rfl⟩ := List.mem_map.1 hu
    split
    · rename_i hid
      exact (h.timely u₀ hu₀).notify rfl rfl (by rw [hid])
    · rename_i hid
      refine (h.timely u₀ hu₀).congr rfl rfl (sameSightings_append rfl fun s => ⟨by simp, ?_⟩)
        rfl rfl rfl
      simp only [ne_eq, Sighting.hit.injEq, not_and]
      exact fun heq => absurd heq.symm hid

/-- A store: the new entry's task starts with its deadline one idle time from now, and the store
is sighted now. -/
lemma Sound.stored (h : w.Sound) {i : Nat} {bus : BusKind} {name : String} {pid : UInt32}
    (hi : w.rt.waiting[i]? = some ⟨bus, name, .reading pid⟩) (cred : Credential)
    (watched : Bool) :
    ({ w with
        rt := w.rt.step (.stored i cred watched w.now)
        timings := w.timings ++
          [⟨⟨w.rt.cache.nextId, bus, name⟩, w.now + w.rt.cache.idleMs, false, watched, false⟩]
        sightings := w.sightings ++ [.stored w.rt.cache.nextId w.now] } : Clocked).Sound := by
  have hstep : w.rt.step (.stored i cred watched w.now) =
      w.rt.store i bus name pid cred watched w.now := by
    simp only [Runtime.step, hi]
  have hnext : (w.rt.step (.stored i cred watched w.now)).cache.nextId = w.rt.cache.nextId + 1 := by
    rw [hstep]
    exact nextId_put ..
  obtain ⟨hidle, -, hids⟩ := w.rt.step_generations (.stored i cred watched w.now)
  have hpast := h.sighting_append (x := .stored w.rt.cache.nextId w.now) rfl
    (Nat.lt_succ_self _) (Nat.le_succ _)
  -- the new generation was never sighted, so never evicted for idleness
  obtain ⟨hold, hlate⟩ := h.sight (x := .stored w.rt.cache.nextId w.now) (by simp)
    fun k u hk => Nat.ne_of_gt (h.sighting_lt_next _ hk)
  refine ⟨h.rt.step (.stored i cred watched w.now), fun u hu => ?_, fun u hu => ?_,
    fun u hu => ?_, fun x hx => (hpast x hx).1, fun x hx => hnext ▸ (hpast x hx).2,
    fun k s hk => h.not_mem_ids_of hids (hold k s hk),
    fun k u hk s hs => hidle ▸ hlate k u hk s hs⟩
  · rw [hstep]
    rcases List.mem_append.1 hu with hu | hu
    · exact List.mem_append_left _ (h.timing_task u hu)
    · rw [List.mem_singleton.1 hu]
      exact List.mem_append_right _ (List.mem_singleton_self _)
  · rw [hstep] at hu
    rcases List.mem_append.1 hu with hu | hu
    · obtain ⟨v, hv, hvu⟩ := h.task_timing u hu
      exact ⟨v, List.mem_append_left _ hv, hvu⟩
    · exact ⟨_, List.mem_append_right _ (List.mem_singleton_self _), (List.mem_singleton.1 hu).symm⟩
  · rcases List.mem_append.1 hu with hu | hu
    · have hlt := h.rt.task_lt _ (h.timing_task u hu)
      refine (h.timely u hu).congr rfl hidle (sameSightings_append rfl fun s => ⟨?_, by simp⟩)
        rfl rfl rfl
      simp only [ne_eq, Sighting.stored.injEq, not_and]
      exact fun heq => absurd heq.symm (Nat.ne_of_lt hlt)
    · rw [List.mem_singleton.1 hu]
      refine h.timely_start ?_ hidle ?_ rfl watched <;> rfl

/-- A task takes the hit that waits for it: its deadline moves to one idle time from now. -/
lemma Sound.take_touched (h : w.Sound) {k : Nat} (ht : t ∈ w.timings) (hk : t.task.id = k)
    (htouched : t.touched = true) : (w.take k .touched).Sound := by
  have hhit : Sighting.hit k w.now ∈ w.sightings := hk ▸ (h.timely t ht).touched_now htouched
  refine ⟨h.rt, fun u hu => ?_, fun u hu => ?_, fun u hu => ?_, h.sighting_le_now,
    h.sighting_lt_next, h.idle_absent, h.idle_late⟩
  · obtain ⟨u₀, hu₀, rfl⟩ := List.mem_map.1 hu
    split <;> exact h.timing_task u₀ hu₀
  · obtain ⟨u₀, hu₀, rfl⟩ := h.task_timing u hu
    exact ⟨_, List.mem_map_of_mem hu₀, by split <;> rfl⟩
  · obtain ⟨u₀, hu₀, rfl⟩ := List.mem_map.1 hu
    split
    · rename_i hid
      exact (h.timely_take_hit (hid ▸ hhit)).congr rfl rfl (sameSightings_rfl rfl _) rfl rfl rfl
    · exact (h.timely u₀ hu₀).congr rfl rfl (sameSightings_rfl rfl _) rfl rfl rfl

/-- A task ends, with what the cache runtime does as it ends: its timing goes with it. -/
lemma Sound.end_task (h : w.Sound) (ht : t ∈ w.timings) {rt : Runtime} (hrt : rt.Sound)
    (htasks : rt.tasks = w.rt.tasks.erase t.task)
    (hgen : rt.cache.idleMs = w.rt.cache.idleMs ∧ w.rt.cache.nextId ≤ rt.cache.nextId ∧
      ∀ k ∈ rt.cache.ids, k ∈ w.rt.cache.ids ∨ k = w.rt.cache.nextId) :
    ({ w with rt := rt, timings := w.timings.filter (·.task.id ≠ t.task.id) } : Clocked).Sound := by
  obtain ⟨hidle, hnext, hids⟩ := hgen
  have hmem : ∀ u, u ∈ w.rt.tasks.erase t.task ↔ u ∈ w.rt.tasks ∧ u.id ≠ t.task.id :=
    fun _ => h.rt.mem_erase_iff (h.timing_task t ht)
  refine ⟨hrt, fun u hu => ?_, fun u hu => ?_,
    fun u hu => ?_, h.sighting_le_now, fun x hx => Nat.lt_of_lt_of_le (h.sighting_lt_next x hx) hnext,
    fun k s hk => h.not_mem_ids_of hids hk, fun k u hk s hs => hidle ▸ h.idle_late k u hk s hs⟩
  · rw [List.mem_filter, decide_eq_true_eq] at hu
    rw [htasks, hmem]
    exact ⟨h.timing_task u hu.1, hu.2⟩
  · rw [htasks, hmem] at hu
    obtain ⟨v, hv, rfl⟩ := h.task_timing u hu.1
    exact ⟨v, List.mem_filter.2 ⟨hv, decide_eq_true hu.2⟩, rfl⟩
  · exact (h.timely u (List.mem_of_mem_filter hu)).congr rfl hidle (sameSightings_rfl rfl _)
      rfl rfl rfl

/-- An eviction for idleness is recorded: of a generation gone, at least one idle time after its
store and after each hit before now. -/
lemma Sound.record_idle (h : w.Sound) {k : Nat} (hk : k ∉ w.rt.cache.ids)
    (hlt : k < w.rt.cache.nextId)
    (hlate : ∀ s, (Sighting.stored k s ∈ w.sightings ∨ (Sighting.hit k s ∈ w.sightings ∧ s < w.now)) →
      s + w.rt.cache.idleMs ≤ w.now) :
    ({ w with sightings := w.sightings ++ [.idle k w.now] } : Clocked).Sound := by
  have hsame : ∀ j, SameSightings w { w with sightings := w.sightings ++ [.idle k w.now] } j :=
    fun j => sameSightings_append rfl fun s => ⟨by simp, by simp⟩
  have hpast := h.sighting_append (x := .idle k w.now) rfl hlt (Nat.le_refl _)
  refine ⟨h.rt, h.timing_task, h.task_timing,
    fun u hu => (h.timely u hu).congr rfl rfl (hsame _) rfl rfl rfl, fun x hx => (hpast x hx).1,
    fun x hx => (hpast x hx).2, fun j s hj => ?_, fun j u hj s hs => ?_⟩
  · rcases List.mem_append.1 hj with hj | hj
    · exact h.idle_absent j s hj
    · obtain ⟨rfl, -⟩ := Sighting.idle.inj (List.mem_singleton.1 hj)
      exact hk
  · rw [(hsame j s).1, (hsame j s).2] at hs
    rcases List.mem_append.1 hj with hj | hj
    · exact h.idle_late j u hj s hs
    · obtain ⟨rfl, rfl⟩ := Sighting.idle.inj (List.mem_singleton.1 hj)
      exact hlate s hs

/-- Time passes, with no hit waiting and no deadline falling due before the end. -/
lemma Sound.elapse (h : w.Sound) {ms : Nat} (hq : w.quiet ms = true) :
    ({ w with now := w.now + ms } : Clocked).Sound := by
  refine ⟨h.rt, h.timing_task, h.task_timing, fun u hu => ?_,
    fun x hx => Nat.le_trans (h.sighting_le_now x hx) (Nat.le_add_right _ _),
    h.sighting_lt_next, h.idle_absent, h.idle_late⟩
  obtain ⟨htouched, hend⟩ := quiet_timing hq hu
  exact (h.timely u hu).elapse htouched hend

/-- A task takes a ready branch. -/
lemma Sound.take (h : w.Sound) {k : Nat} (ht : t ∈ w.timings) (hk : t.task.id = k) :
    ∀ b, w.ready t b = true → (w.take k b).Sound
  | .touched, hready => h.take_touched ht hk hready
  | .cancel, hready => by
      subst hk
      have hgone : t.task.id ∉ w.rt.cache.ids := by simpa [ready] using hready
      have hstep := h.rt.tasks_cancelled (h.timing_task t ht) hgone
      refine h.end_task ht (hstep ▸ h.rt.step _) (by rw [hstep]) ?_
      rw [hstep]
      exact ⟨rfl, Nat.le_refl _, fun k hk => .inl hk⟩
  | .vanished, _ => by
      subst hk
      exact h.end_task ht (h.rt.step _) (h.rt.tasks_evict (h.timing_task t ht))
        (w.rt.step_generations _)
  | .deadline, hready => by
      subst hk
      have hdue : t.deadline ≤ w.now := by simpa [ready] using hready
      have hend := h.end_task ht (h.rt.step _) (h.rt.tasks_evict (h.timing_task t ht))
        (w.rt.step_generations (.evict t.task.id))
      obtain ⟨hidle, hnext, -⟩ := w.rt.step_generations (.evict t.task.id)
      simp only [Clocked.take]
      split
      · -- the eviction found the entry: it is recorded, as late as the deadline
        rename_i hmem
        obtain ⟨bus, e, he, hid⟩ := mem_ids.1 hmem
        refine hend.record_idle (h.rt.not_mem_ids_evict (h.timing_task t ht))
          (Nat.lt_of_lt_of_le (hid ▸ h.rt.id_lt he) hnext) fun s hs => ?_
        calc s + (w.rt.step (.evict t.task.id)).cache.idleMs
            = s + w.rt.cache.idleMs := by rw [hidle]
          _ ≤ t.deadline := (h.timely t ht).covers s (hs.imp id fun hs => ⟨hs.1, .inl hs.2⟩)
          _ ≤ w.now := hdue
      · exact hend

/-- The invariant is kept by every event. -/
lemma Sound.step (h : w.Sound) : ∀ ev, (w.step ev).Sound
  | .lookup bus name => by
      simp only [Clocked.step]
      split
      · rename_i e he
        have htasks : (w.rt.step (.lookup bus name w.now)).tasks = w.rt.tasks := by
          simp only [Runtime.step, he]
          rfl
        exact (h.notify (List.mem_of_find?_eq_some he)).withRt _ htasks
      · rename_i he
        exact h.withRt _ (by simp only [Runtime.step, he])
  | .connected i => h.withRt _ (by simp only [Runtime.step]; split <;> rfl)
  | .answered i pid => h.withRt _ (by simp only [Runtime.step]; split <;> rfl)
  | .stored i cred watched => by
      simp only [Clocked.step]
      split
      · rename_i hi
        exact h.stored hi cred watched
      · exact h
  | .failed i => h.withRt _ (by simp only [Runtime.step]; split <;> rfl)
  | .flush bus name => h.withRt _ rfl
  | .vanish bus name => h.map_timings _ fun t => by split <;> simp
  | .wake k b => by
      simp only [Clocked.step]
      split
      · rename_i t hfind
        have hk : t.task.id = k := by simpa using List.find?_some hfind
        split
        · exact h.take (List.mem_of_find?_eq_some hfind) hk b ‹_›
        · exact h
      · exact h
  | .elapse ms => by
      simp only [Clocked.step]
      split
      · rename_i hq
        exact h.elapse hq
      · exact h

lemma sound_start (idleMs : Nat) : ({ rt := { cache := { idleMs } } } : Clocked).Sound :=
  ⟨Runtime.sound_start idleMs, by simp, by simp, by simp, by simp, by simp, by simp, by simp⟩

/-- The invariant along every run: by induction on the events, from the step lemma. -/
theorem sound_run (idleMs : Nat) (events : List Event) : (run idleMs events).Sound := by
  suffices ∀ w : Clocked, w.Sound → (events.foldl step w).Sound from this _ (sound_start idleMs)
  induction events with
  | nil => exact fun w h => h
  | cons ev events ih => exact fun w h => ih _ (h.step ev)

/-! ### The idle time of a run -/

lemma idleMs_take (w : Clocked) (k : Nat) : ∀ b, (w.take k b).rt.cache.idleMs = w.rt.cache.idleMs
  | .touched => rfl
  | .cancel | .vanished => (w.rt.step_generations _).1
  | .deadline => (w.rt.step_generations _).1

lemma idleMs_step (w : Clocked) : ∀ ev, (w.step ev).rt.cache.idleMs = w.rt.cache.idleMs
  | .lookup bus name => by
      simp only [Clocked.step]
      split <;> exact (w.rt.step_generations _).1
  | .connected _ | .answered _ _ | .failed _ | .flush _ _ => (w.rt.step_generations _).1
  | .stored i cred watched => by
      simp only [Clocked.step]
      split
      · exact (w.rt.step_generations _).1
      · rfl
  | .vanish _ _ => rfl
  | .wake k b => by
      simp only [Clocked.step]
      split
      · split
        · exact w.idleMs_take k b
        · rfl
      · rfl
  | .elapse ms => by
      simp only [Clocked.step]
      split <;> rfl

lemma idleMs_run (idleMs : Nat) (events : List Event) :
    (run idleMs events).rt.cache.idleMs = idleMs := by
  suffices ∀ w : Clocked, (events.foldl step w).rt.cache.idleMs = w.rt.cache.idleMs from this _
  induction events with
  | nil => exact fun _ => rfl
  | cons ev events ih => exact fun w => (ih _).trans (idleMs_step w ev)

/-- **The idle time is kept.** On the virtual clock, whatever the lookups, flushes, vanished
names and the order in which tasks take their branches: an entry evicted for idleness at time `u`
goes at least one idle time after its store and after each hit that came before `u`; and an
entry present now was stored or hit at most one idle time ago. -/
theorem idle_eviction_timing (idleMs : Nat) (events : List Event) :
    let w := run idleMs events
    (∀ k u, Sighting.idle k u ∈ w.sightings → ∀ s,
      (Sighting.stored k s ∈ w.sightings ∨ (Sighting.hit k s ∈ w.sightings ∧ s < u)) →
        s + idleMs ≤ u) ∧
    (∀ bus, ∀ e ∈ (w.rt.cache.table bus).entries, ∃ s,
      (Sighting.stored e.id s ∈ w.sightings ∨ Sighting.hit e.id s ∈ w.sightings) ∧
        w.now ≤ s + idleMs) := by
  intro w
  have h : w.Sound := sound_run idleMs events
  have hidle : w.rt.cache.idleMs = idleMs := idleMs_run idleMs events
  refine ⟨fun k u hk s hs => hidle ▸ h.idle_late k u hk s hs, fun bus e he => ?_⟩
  -- a present entry has its task, whose deadline is one idle time after a store or hit of it
  obtain ⟨t, ht, htask⟩ := h.task_timing _ (h.rt.task_of_entry bus e he)
  obtain ⟨⟨s, hs, hd⟩, -, -, hnp⟩ := h.timely t ht
  rw [htask] at hs
  exact ⟨s, hs, hidle ▸ hd ▸ hnp⟩

/-- A hit at the instant the deadline falls due does not save the entry. With an idle time of
30 ms, an entry stored at 0 is hit at 30, as its deadline falls due; its task takes the deadline,
and the entry goes at 30. An eviction is then not one idle time after every hit at or before it. -/
theorem idle_eviction_at_hit_instant :
    let w := run 30 [.lookup .system "a", .connected 0, .answered 0 5,
      .stored 0 ⟨1000, 1000, none, none⟩ true, .elapse 30, .lookup .system "a",
      .wake 1 .deadline]
    Sighting.hit 1 30 ∈ w.sightings ∧ Sighting.idle 1 30 ∈ w.sightings ∧
      ¬ ∀ k u, Sighting.idle k u ∈ w.sightings → ∀ s,
        (Sighting.stored k s ∈ w.sightings ∨ (Sighting.hit k s ∈ w.sightings ∧ s ≤ u)) →
          s + 30 ≤ u := by
  intro w
  have hhit : Sighting.hit 1 30 ∈ w.sightings := by decide
  have hidle : Sighting.idle 1 30 ∈ w.sightings := by decide
  refine ⟨hhit, hidle, fun hall => ?_⟩
  have hlate := hall 1 30 hidle 30 (.inr ⟨hhit, Nat.le_refl _⟩)
  omega

end Clocked

end PeerGate
