import PeerGate.Proofs.Generations
import PeerGate.Proofs.SharedInstance

/-!
What a flush guarantees against lookups and reads in flight.

A flush of the peer cache removes the entries of a name, or of a whole bus, when it runs; a flush
of the own credential forgets the instance and takes a generation of its own. Neither touches a
lookup or a read already on its way: a lookup told its owner's process before the flush stores its
entry after it, and a read started before the flush installs its instance after it. So a flush
bounds what was stored before it, not what was read before it.

* `Runtime.step_cache`: one event keeps only generations and names the cache had, or stores a peer
  under the next generation.
* `Runtime.StoredSince`: the entries a flush would take are of a generation at least `N`; every
  event keeps it (`StoredSince.step`), hence `Runtime.flush_entries_stored_after`.
* `SelfContext.Runtime.HandsOutAbove`: the instances handed out since a point are above a
  generation; every event keeps it (`HandsOutAbove.step`), hence
  `SelfContext.Runtime.flush_handouts_built_after`.
* `flush_leaves_only_later_installs`: **after a flush, only entries stored and instances
  installed after it are seen.**
* `flush_keeps_lookups_in_flight`: a lookup told its owner's process before a flush stores its
  entry after it, and a read started before a flush installs and hands out its instance after it.
-/

namespace PeerGate

namespace Runtime

open PeerCache

/-! ### What one event does to the cache -/

/-- One event changes the cache in one of two ways: it keeps only generations and names the
cache had, or it stores a peer under the next generation. -/
lemma step_cache (w : Runtime) (ev : Event) :
    Shrinks w.cache (w.step ev).cache ∨
      ∃ now peer watched, (w.step ev).cache = w.cache.put now peer watched := by
  have hsame : Shrinks w.cache w.cache := ⟨rfl, fun _ => List.Sublist.refl _⟩
  cases ev with
  | lookup bus name now =>
    simp only [step]
    split
    · exact .inl (shrinks_modify bus _ (by rw [Table.keys_touch]))
    · exact .inl hsame
  | connected i =>
    simp only [step]
    split
    · exact .inl (shrinks_modify _ _ (List.Sublist.refl _))
    · exact .inl hsame
  | answered i pid =>
    simp only [step]
    split
    · exact .inl hsame
    · exact .inl hsame
  | stored i cred watched now =>
    simp only [step]
    split
    · exact .inr ⟨now, _, watched, rfl⟩
    · exact .inl hsame
  | failed i =>
    simp only [step]
    split
    · refine .inl (shrinks_modify _ _ ?_)
      simp only [Table.keys, Table.releaseIfIdle_entries]
      exact List.Sublist.refl _
    · exact .inl hsame
  | flush bus name => exact .inl (shrinks_flush bus name)
  | evict k =>
    simp only [step]
    split
    · exact .inl (shrinks_removeWhere _ _)
    · exact .inl hsame
  | cancelled k =>
    simp only [step]
    split
    · split
      · exact .inl hsame
      · exact .inl hsame
    · exact .inl hsame

/-! ### What a flush leaves -/

/-- Whether a flush of `name`, or of the whole bus for `none`, takes entries of name `n`. -/
def covers (name : Option String) (n : String) : Bool :=
  name.all (n == ·)

/-- The entries of `bus` that a flush of `name` takes are of generation `N` or later, and so is
the next generation. -/
structure StoredSince (N : Nat) (bus : BusKind) (name : Option String) (c : PeerCache) :
    Prop where
  next_ge : N ≤ c.nextId
  entries_ge : ∀ e ∈ (c.table bus).entries, covers name e.peer.name = true → N ≤ e.id

lemma storedSince_flush (c : PeerCache) (bus : BusKind) (name : Option String) :
    StoredSince c.nextId bus name (c.flush bus name) := by
  have hnext : (c.flush bus name).nextId = c.nextId := by
    cases name <;> exact nextId_modify ..
  refine ⟨Nat.le_of_eq hnext.symm, fun e he hcov => ?_⟩
  cases name with
  | none =>
    change e ∈ ((c.modify bus _).table bus).entries at he
    simp [table_modify_self, Table.releaseIfIdle_entries] at he
  | some n =>
    change e ∈ ((c.modify bus _).table bus).entries at he
    rw [table_modify_self] at he
    have hname : (e.peer.name == n) = true := hcov
    -- the removal takes every entry of the name, if there is one
    unfold Table.removeWhere at he
    split at he
    · rw [Table.releaseIfIdle_entries, List.mem_filter] at he
      simp [hname] at he
    · rename_i hnone
      exact absurd (List.any_eq_true.2 ⟨e, he, hname⟩) hnone

section Since

variable {N : Nat} {bus : BusKind} {name : Option String}

lemma StoredSince.shrinks {c c' : PeerCache} (h : StoredSince N bus name c) (hs : Shrinks c c') :
    StoredSince N bus name c' := by
  refine ⟨hs.1 ▸ h.next_ge, fun e' he' hcov => ?_⟩
  obtain ⟨e, he, hid, hname⟩ := hs.exists_of_mem he'
  rw [← hid]
  exact h.entries_ge e he (hname ▸ hcov)

/-- A stored entry takes the next generation, which is at least `N`. -/
lemma StoredSince.put {c : PeerCache} (h : StoredSince N bus name c) (now : Nat) (peer : Peer)
    (watched : Bool) : StoredSince N bus name (c.put now peer watched) := by
  refine ⟨by rw [nextId_put]; exact Nat.le_succ_of_le h.next_ge, fun e' he' hcov => ?_⟩
  rcases mem_put he' with ⟨-, rfl⟩ | ⟨he', -⟩
  · exact h.next_ge
  · exact h.entries_ge e' he' hcov

lemma StoredSince.step {w : Runtime} (h : StoredSince N bus name w.cache) (ev : Event) :
    StoredSince N bus name (w.step ev).cache := by
  rcases step_cache w ev with hs | ⟨now, peer, watched, hput⟩
  · exact h.shrinks hs
  · rw [hput]
    exact h.put now peer watched

lemma StoredSince.run {w : Runtime} (h : StoredSince N bus name w.cache) (events : List Event) :
    StoredSince N bus name (events.foldl Runtime.step w).cache := by
  induction events generalizing w with
  | nil => exact h
  | cons ev events ih => exact ih (h.step ev)

end Since

/-- After a flush, every entry the flush would take was stored after it: its generation is at
least the one that came next at the flush. -/
theorem flush_entries_stored_after (idleMs : Nat) (pre post : List Event) (bus : BusKind)
    (name : Option String) :
    ∀ e ∈ ((run idleMs (pre ++ .flush bus name :: post)).cache.table bus).entries,
      covers name e.peer.name = true → (run idleMs pre).cache.nextId ≤ e.id := by
  have h0 : StoredSince (run idleMs pre).cache.nextId bus name
      ((run idleMs pre).step (.flush bus name)).cache :=
    storedSince_flush (run idleMs pre).cache bus name
  have h := h0.run post
  rw [run, List.foldl_append, List.foldl_cons]
  exact h.entries_ge

end Runtime

namespace SelfContext.Runtime

/-! ### What a flush of the own credential leaves -/

/-- The instances handed out are those of `base`, then only instances of a generation above `G`;
the generation is at least `G`, and the instance held is above it. -/
structure HandsOutAbove (G : Nat) (base : List Handout) (w : Runtime) : Prop where
  generation_ge : G ≤ w.ctx.generation
  current_above : ∀ c, w.ctx.current = some c → G < c.generation
  handouts_above : ∃ new, w.handouts = base ++ new ∧ ∀ h ∈ new, G < h.cred.generation

variable {G : Nat} {base : List Handout} {w : Runtime}

lemma handsOutAbove_flush (w : Runtime) :
    HandsOutAbove (w.ctx.generation + 1) w.handouts (w.step .flush) :=
  ⟨Nat.le_refl _, (fun c hc => by cases hc), [], by rw [List.append_nil]; rfl, by simp⟩

lemma HandsOutAbove.withWaiting (h : HandsOutAbove G base w) (l : List Waiting) :
    HandsOutAbove G base { w with waiting := l } :=
  ⟨h.generation_ge, h.current_above, h.handouts_above⟩

lemma HandsOutAbove.handOut (h : HandsOutAbove G base w) {c : SharedCred}
    (hc : G < c.generation) : HandsOutAbove G base (w.handOut c) := by
  obtain ⟨hg, hcur, new, hnew, habove⟩ := h
  have hout : (w.handOut c).handouts = base ++ (new ++ [⟨w.now, c⟩]) := by
    rw [← List.append_assoc, ← hnew]
    rfl
  refine ⟨hg, hcur, new ++ [⟨w.now, c⟩], hout, fun x hx => ?_⟩
  rcases List.mem_append.1 hx with hx | hx
  · exact habove x hx
  · rw [List.mem_singleton.1 hx]
    exact hc

lemma HandsOutAbove.finish (h : HandsOutAbove G base w) (l : Waiting)
    (result : Except ExtractFault ProcessCredential) :
    HandsOutAbove G base (w.finish l result) := by
  rcases finish_cases w l result with heq | ⟨c, hc, heq⟩ | ⟨c, -, hgen, -, heq⟩ <;> rw [heq]
  · exact h
  · exact h.handOut (h.current_above c hc)
  · -- a build takes the generation after the current one, which is at least `G`
    have hlt : G < c.generation := by
      rw [hgen]
      exact Nat.lt_succ_of_le h.generation_ge
    obtain ⟨-, -, new, hnew, habove⟩ := h.handOut hlt
    refine ⟨Nat.le_of_lt hlt, fun c' hc' => ?_, new, hnew, habove⟩
    cases hc'
    exact hlt

lemma HandsOutAbove.step (h : HandsOutAbove G base w) :
    ∀ ev, HandsOutAbove G base (w.step ev)
  | .request => by
    simp only [Runtime.step]
    split
    · rename_i c hc
      exact h.handOut (h.current_above c hc)
    · exact h.withWaiting _
  | .read i result => by
    simp only [Runtime.step]
    split
    · exact (h.withWaiting _).finish _ result
    · exact h
  | .flush => by
    obtain ⟨hg, -, hhand⟩ := h
    exact ⟨Nat.le_succ_of_le hg, (fun c hc => by cases hc), hhand⟩
  | .fire j => by
    simp only [Runtime.step]
    split
    · split
      · obtain ⟨hg, hcur, hhand⟩ := h
        refine ⟨?_, fun c hc => ?_, hhand⟩
        · unfold expireGeneration
          split <;> exact hg
        · unfold expireGeneration at hc
          split at hc
          · cases hc
          · exact hcur c hc
      · exact h
    · exact h
  | .elapse ms => by
    simp only [Runtime.step]
    split
    · exact ⟨h.generation_ge, h.current_above, h.handouts_above⟩
    · exact h

lemma HandsOutAbove.run (h : HandsOutAbove G base w) (events : List Event) :
    HandsOutAbove G base (events.foldl Runtime.step w) := by
  induction events generalizing w with
  | nil => exact h
  | cons ev events ih => exact ih (h.step ev)

/-- After a flush, every instance handed out was installed after it: its generation is above the
one the flush took. -/
theorem flush_handouts_built_after (pid : UInt32) (lifeMs : Nat) (pre post : List Event) :
    ∀ h ∈ (run pid lifeMs (pre ++ .flush :: post)).handouts.drop
        (run pid lifeMs pre).handouts.length,
      (run pid lifeMs pre).ctx.generation + 1 < h.cred.generation := by
  obtain ⟨-, -, new, hnew, habove⟩ := (handsOutAbove_flush (run pid lifeMs pre)).run post
  have hsplit : run pid lifeMs (pre ++ .flush :: post) =
      post.foldl Runtime.step ((run pid lifeMs pre).step .flush) := by
    simp only [run, List.foldl_append, List.foldl_cons]
  rw [hsplit, hnew, List.drop_left]
  exact habove

end SelfContext.Runtime

/-! ### Lookups and reads in flight -/

/-- **What a flush guarantees.** After a flush of a name, or of a whole bus, every entry of the
bus that the flush would take was stored after it: its generation is at least the next one at the
flush. After a flush of the own credential, every instance handed out was installed after it: its
generation is above the one the flush took. -/
theorem flush_leaves_only_later_installs :
    (∀ idleMs pre post bus name,
      ∀ e ∈ ((Runtime.run idleMs (pre ++ .flush bus name :: post)).cache.table bus).entries,
        Runtime.covers name e.peer.name = true → (Runtime.run idleMs pre).cache.nextId ≤ e.id) ∧
    (∀ pid lifeMs pre post,
      ∀ h ∈ (SelfContext.Runtime.run pid lifeMs (pre ++ .flush :: post)).handouts.drop
          (SelfContext.Runtime.run pid lifeMs pre).handouts.length,
        (SelfContext.Runtime.run pid lifeMs pre).ctx.generation + 1 < h.cred.generation) :=
  ⟨Runtime.flush_entries_stored_after, SelfContext.Runtime.flush_handouts_built_after⟩

/-- A lookup of `b` is told its owner's process while `a` is cached; the whole bus is flushed, and
the lookup stores `b` under the next generation. A request hands out the instance of the first
build; after a flush, a request builds and hands out the third generation. -/
theorem flush_leaves_only_later_installs_bus_flush :
    (⟨2, ⟨.system, "b", 8, ⟨1000, 1000, none, none⟩⟩, 30, true⟩ : PeerCache.Entry) ∈
        ((Runtime.run 30 ([.lookup .system "a" 0, .connected 0, .answered 0 7,
          .stored 0 ⟨1000, 1000, none, none⟩ true 0, .lookup .system "b" 0, .answered 0 8] ++
          .flush .system none :: [.stored 0 ⟨1000, 1000, none, none⟩ true 0])).cache.table
          .system).entries ∧
      Runtime.covers none "b" = true ∧
      (Runtime.run 30 [.lookup .system "a" 0, .connected 0, .answered 0 7,
          .stored 0 ⟨1000, 1000, none, none⟩ true 0, .lookup .system "b" 0,
          .answered 0 8]).cache.nextId ≤ 2 ∧
    (⟨0, ⟨3, ⟨1, ⟨0, 0, none, none⟩⟩, 30000⟩⟩ : SelfContext.Handout) ∈
        (SelfContext.Runtime.run 1 30000 ([.request, .read 0 (.ok ⟨1, ⟨0, 0, none, none⟩⟩),
          .request] ++ .flush :: [.request, .read 0 (.ok ⟨1, ⟨0, 0, none, none⟩⟩)])).handouts.drop
          (SelfContext.Runtime.run 1 30000 [.request, .read 0 (.ok ⟨1, ⟨0, 0, none, none⟩⟩),
            .request]).handouts.length ∧
      (SelfContext.Runtime.run 1 30000 [.request, .read 0 (.ok ⟨1, ⟨0, 0, none, none⟩⟩),
          .request]).ctx.generation + 1 < 3 := by
  have hpeer : (⟨2, ⟨.system, "b", 8, ⟨1000, 1000, none, none⟩⟩, 30, true⟩ : PeerCache.Entry) ∈
      ((Runtime.run 30 ([.lookup .system "a" 0, .connected 0, .answered 0 7,
        .stored 0 ⟨1000, 1000, none, none⟩ true 0, .lookup .system "b" 0, .answered 0 8] ++
        .flush .system none :: [.stored 0 ⟨1000, 1000, none, none⟩ true 0])).cache.table
        .system).entries := by decide
  have hself : (⟨0, ⟨3, ⟨1, ⟨0, 0, none, none⟩⟩, 30000⟩⟩ : SelfContext.Handout) ∈
      (SelfContext.Runtime.run 1 30000 ([.request, .read 0 (.ok ⟨1, ⟨0, 0, none, none⟩⟩),
        .request] ++ .flush :: [.request, .read 0 (.ok ⟨1, ⟨0, 0, none, none⟩⟩)])).handouts.drop
        (SelfContext.Runtime.run 1 30000 [.request, .read 0 (.ok ⟨1, ⟨0, 0, none, none⟩⟩),
          .request]).handouts.length := by decide
  exact ⟨hpeer, rfl, flush_leaves_only_later_installs.1 _ _ _ _ _ _ hpeer rfl, hself,
    flush_leaves_only_later_installs.2 _ _ _ _ _ hself⟩

/-- **A flush does not stop what is in flight.** A lookup of `a` connects and is told that
process 7 owns the name; `a` is flushed; the lookup then reads the record and stores `a`, with
the process it was told before the flush. A request for the own credential starts its read; the
instance is flushed; the read ends, and the request installs and hands out an instance built
from the read that started before the flush (its build counts no build or flush before the read,
and the flush is the first mark). -/
theorem flush_keeps_lookups_in_flight :
    (Runtime.run 30 [.lookup .system "a" 0, .connected 0, .answered 0 7,
        .flush .system (some "a")]).waiting = [⟨.system, "a", .reading 7⟩] ∧
    (((Runtime.run 30 [.lookup .system "a" 0, .connected 0, .answered 0 7,
        .flush .system (some "a"), .stored 0 ⟨1000, 1000, none, none⟩ true 0]).cache.table
        .system).find? "a").map (·.peer.pid) = some 7 ∧
    (SelfContext.Runtime.run 1 30000 [.request, .flush,
        .read 0 (.ok ⟨1, ⟨0, 0, none, none⟩⟩)]).marks =
      [.flushed, .built 0 0 ⟨2, ⟨1, ⟨0, 0, none, none⟩⟩, 30000⟩] ∧
    (SelfContext.Runtime.run 1 30000 [.request, .flush,
        .read 0 (.ok ⟨1, ⟨0, 0, none, none⟩⟩)]).handouts =
      [⟨0, ⟨2, ⟨1, ⟨0, 0, none, none⟩⟩, 30000⟩⟩] := by
  decide

end PeerGate
