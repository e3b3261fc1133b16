import PeerGate.Proofs.Connection

/-!
A failed lookup, and what it leaves of the peer cache.

A lookup that misses may connect, then asks the daemon for the owner's process, reads and parses
its record and watches the name; any of these steps may fail. Only the last step stores anything
(the entry, its generation and its watch), and a failure lets the connection go if the table is
empty (`get_error_cases`). So a failure leaves every entry, generation and watch and the next
generation as they were; it changes a connection only where the table was out of step with it.

* `get_error_keeps_cache_or_connects`: from a cache whose table holds a connection only while it
  has entries, a failed lookup leaves the cache as it was, or takes a connection for a table that
  has entries and holds none.
* `Runtime.exists_events_get`: a lookup that runs with nothing in between is a run of the
  concurrent model: its events take the cache where `PeerCache.get` takes it.
* `Runtime.failed_lookup_takes_at_most_connection`: **along every interleaving of lookups,
  flushes and lifecycle tasks, at a moment when no lookup of a bus waits, a failed lookup of the
  bus changes at most its connection, and that only for a table with entries and no connection.**

Such a table is reached. A flush that empties a table while a lookup waits on the daemon lets the
connection go, and the lookup then stores its entry in a table without one; a later lookup that
fails takes a connection there and keeps it, the table having entries
(`Runtime.failed_lookup_connects_after_flush`).
-/

namespace PeerGate

namespace PeerCache

namespace Table

variable {t : Table}

/-- A table that holds a connection only while it has entries stays as it is when it lets the
connection go if it is empty. -/
theorem releaseIfIdle_eq_self (h : t.connected = true → t.entries ≠ []) :
    t.releaseIfIdle = t := by
  unfold releaseIfIdle
  split
  · rename_i hempty
    have hc : t.connected = false := by
      cases hct : t.connected with
      | false => rfl
      | true => exact absurd (List.isEmpty_iff.1 hempty) (h hct)
    rw [← hc]
  · rfl

/-- A table without a connection that takes one and lets it go if it is empty is as it was when
it is empty, and keeps the connection otherwise. -/
theorem releaseIfIdle_connect (hc : t.connected = false) :
    { t with connected := true }.releaseIfIdle =
      if t.entries = [] then t else { t with connected := true } := by
  unfold releaseIfIdle
  by_cases he : t.entries = []
  · cases t
    simp_all
  · simp [he]

end Table

variable {c : PeerCache}

/-! ### Resolving a name -/

section Resolve

variable {h : Host} {now : Nat} {bus : BusKind} {name : String}

/-- Resolving a name either stores its peer, of that bus and name, or fails with nothing changed
but the connection, let go if the table is empty. -/
theorem resolveConnected_cases (c : PeerCache) (h : Host) (now : Nat) (bus : BusKind)
    (name : String) :
    (∃ e, (c.resolveConnected h now bus name).1 = .error e ∧
      (c.resolveConnected h now bus name).2.1 = c.modify bus Table.releaseIfIdle) ∨
    ∃ pid cred watched, (c.resolveConnected h now bus name).1 = .ok ⟨bus, name, pid, cred⟩ ∧
      (c.resolveConnected h now bus name).2.1 = c.put now ⟨bus, name, pid, cred⟩ watched := by
  unfold resolveConnected failed
  -- the daemon's reply, its shape, the record, its ids, the watch: each may fail
  split
  split
  · exact .inl ⟨_, rfl, rfl⟩
  · split
    · exact .inl ⟨_, rfl, rfl⟩
    · dsimp only
      split
      · exact .inl ⟨_, rfl, rfl⟩
      · split
        · exact .inl ⟨_, rfl, rfl⟩
        · split
          · exact .inl ⟨_, rfl, rfl⟩
          · exact .inr ⟨_, _, _, rfl, rfl⟩

/-- Connecting and resolving either fails with the connection let go if the table is empty, or
resolves the name as `resolveConnected` does over the connection it took. -/
theorem finishConnect_cases (c : PeerCache) (h : Host) (now : Nat) (bus : BusKind)
    (name : String) :
    (∃ e, c.finishConnect h now bus name = (.error e, c.modify bus Table.releaseIfIdle, h)) ∨
      c.finishConnect h now bus name =
        (c.modify bus fun t => { t with connected := true }).resolveConnected h now bus name := by
  unfold finishConnect failed
  split
  · exact .inl ⟨_, rfl⟩
  · exact .inr rfl

end Resolve

/-! ### A failed lookup -/

section Failure

variable {h : Host} {now : Nat} {bus : BusKind} {name : String} {e : AccessError}

/-- A failed lookup lets the connection go if the table is empty: over the connection it found,
after a refused connection, or after taking a connection for a table that held none. -/
theorem get_error_cases (hf : (c.get h now bus name).1 = .error e) :
    (c.get h now bus name).2.1 = c.modify bus Table.releaseIfIdle ∨
      ((c.table bus).connected = false ∧
        (c.get h now bus name).2.1 =
          c.modify bus fun t => { t with connected := true }.releaseIfIdle) := by
  unfold PeerCache.get at hf ⊢
  split at hf
  · -- a hit does not fail
    cases hf
  · split
    · rcases resolveConnected_cases c h now bus name
        with ⟨e', -, hst⟩ | ⟨pid, cred, w, hok, -⟩
      · exact .inl hst
      · rename_i hconn
        rw [if_pos hconn, hok] at hf
        cases hf
    · rename_i hconn
      rw [if_neg hconn] at hf
      rcases finishConnect_cases c { h with daemon := h.daemon.dial } now bus name
        with ⟨e', hfin⟩ | hfin
      · rw [hfin]
        exact .inl rfl
      · rw [hfin] at hf ⊢
        rcases resolveConnected_cases (c.modify bus fun t => { t with connected := true })
            { h with daemon := h.daemon.dial } now bus name
          with ⟨e', -, hst⟩ | ⟨pid, cred, w, hok, -⟩
        · rw [hst, modify_modify]
          exact .inr ⟨by simpa using hconn, rfl⟩
        · rw [hok] at hf
          cases hf

/-- **A failed lookup changes at most the connection.** From a cache whose table of the bus holds
a connection only while it has entries, a lookup that fails leaves the cache as it was, or takes a
connection for a table that has entries and held none. -/
theorem get_error_keeps_cache_or_connects
    (hheld : (c.table bus).connected = true → (c.table bus).entries ≠ [])
    (hf : (c.get h now bus name).1 = .error e) :
    (c.get h now bus name).2.1 = c ∨
      ((c.table bus).connected = false ∧ (c.table bus).entries ≠ [] ∧
        (c.get h now bus name).2.1 = c.modify bus fun t => { t with connected := true }) := by
  rcases get_error_cases hf with hst | ⟨hc, hst⟩
  · exact .inl (hst.trans (modify_eq_self (Table.releaseIfIdle_eq_self hheld)))
  · -- a connection taken for an empty table is let go again; one for a table with entries stays
    by_cases he : (c.table bus).entries = []
    · refine .inl (hst.trans (modify_eq_self ?_))
      rw [Table.releaseIfIdle_connect hc, if_pos he]
    · refine .inr ⟨hc, he, hst.trans (modify_congr ?_)⟩
      rw [Table.releaseIfIdle_connect hc, if_neg he]

end Failure

end PeerCache

namespace Runtime

open PeerCache

/-- **A lookup with nothing in between is a run of the concurrent model.** From any moment, the
events of one lookup (its start, the connection it asks for, the daemon's answer, and its storing
or failure) take the cache where `PeerCache.get` takes it, and leave the same lookups waiting. -/
theorem exists_events_get (w : Runtime) (h : Host) (now : Nat) (bus : BusKind) (name : String) :
    ∃ evs : List Event, (evs.foldl step w).cache = (w.cache.get h now bus name).2.1 ∧
      (evs.foldl step w).waiting = w.waiting := by
  -- the lookup waits last, after every lookup already waiting
  have hset : ∀ l l' : Waiting, (w.waiting ++ [l]).set w.waiting.length l' = w.waiting ++ [l'] :=
    fun l l' => by simp
  have herase : ∀ l : Waiting, (w.waiting ++ [l]).eraseIdx w.waiting.length = w.waiting :=
    fun l => by
      rw [List.eraseIdx_append_of_length_le (Nat.le_refl _)]
      simp
  unfold PeerCache.get
  split
  · -- a hit
    rename_i e he
    exact ⟨[.lookup bus name now], by simp [step, he, setCache]⟩
  · rename_i hmiss
    split
    · rename_i hconn
      rcases resolveConnected_cases w.cache h now bus name
        with ⟨e, -, hst⟩ | ⟨pid, cred, watched, -, hst⟩
      · refine ⟨[.lookup bus name now, .failed w.waiting.length], ?_⟩
        rw [hst]
        simp [step, hmiss, hconn, herase, setCache]
      · refine ⟨[.lookup bus name now, .answered w.waiting.length pid,
          .stored w.waiting.length cred watched now], ?_⟩
        rw [hst]
        simp [step, hmiss, hconn, hset, herase, setCache, store]
    · rename_i hconn
      rcases finishConnect_cases w.cache { h with daemon := h.daemon.dial } now bus name
        with ⟨e, hfin⟩ | hfin
      · -- the connection is refused
        refine ⟨[.lookup bus name now, .failed w.waiting.length], ?_⟩
        rw [hfin]
        simp [step, hmiss, hconn, herase, setCache]
      · rw [hfin]
        rcases resolveConnected_cases (w.cache.modify bus fun t => { t with connected := true })
            { h with daemon := h.daemon.dial } now bus name
          with ⟨e, -, hst⟩ | ⟨pid, cred, watched, -, hst⟩
        · refine ⟨[.lookup bus name now, .connected w.waiting.length,
            .failed w.waiting.length], ?_⟩
          rw [hst]
          simp [step, hmiss, hconn, hset, herase, setCache]
        · refine ⟨[.lookup bus name now, .connected w.waiting.length,
            .answered w.waiting.length pid, .stored w.waiting.length cred watched now], ?_⟩
          rw [hst]
          simp [step, hmiss, hconn, hset, herase, setCache, store]

/-- **A failed lookup changes at most the connection.** Along every interleaving of lookups,
flushes and lifecycle tasks, at a moment when no lookup of a bus waits, a lookup of the bus that
fails leaves both tables with the same entries, generations and watches and the next generation
as it was; it keeps a held connection, and takes one only for a table that has entries and holds
none. -/
theorem failed_lookup_takes_at_most_connection (idleMs : Nat) (events : List Event)
    (bus : BusKind) (hidle : ∀ l ∈ (run idleMs events).waiting, l.bus ≠ bus) (h : Host)
    (now : Nat) (name : String) {e : AccessError}
    (hf : ((run idleMs events).cache.get h now bus name).1 = .error e) :
    ((run idleMs events).cache.get h now bus name).2.1 = (run idleMs events).cache ∨
      (((run idleMs events).cache.table bus).connected = false ∧
        ((run idleMs events).cache.table bus).entries ≠ [] ∧
        ((run idleMs events).cache.get h now bus name).2.1 =
          (run idleMs events).cache.modify bus fun t => { t with connected := true }) := by
  -- with no lookup of the bus waiting, a connection is held only over entries
  have hheld : ((run idleMs events).cache.table bus).connected = true →
      ((run idleMs events).cache.table bus).entries ≠ [] := fun hc =>
    ((connectionHeld_run idleMs events) bus hc).resolve_right fun ⟨l, hl, hb⟩ => hidle l hl hb
  exact get_error_keeps_cache_or_connects hheld hf

/-- A lookup of `a` connects and waits on the daemon; the whole bus is flushed; the daemon
answers `5` and the lookup stores its entry. -/
def flushDuringLookup : List Event :=
  [.lookup .system "a" 0, .connected 0, .flush .system none, .answered 0 5,
    .stored 0 ⟨1000, 1000, none, none⟩ true 0]

/-- After a flush during a lookup, no lookup waits, and a lookup of a name without an owner fails
and takes the connection for the table, which has an entry. -/
theorem failed_lookup_takes_at_most_connection_flush :
    (∀ l ∈ (run 30 flushDuringLookup).waiting, l.bus ≠ .system) ∧
      ((run 30 flushDuringLookup).cache.get {} 5 .system "ghost").1 =
        .error (.peer (.callFailed "ghost" (.noOwner "ghost"))) ∧
      (((run 30 flushDuringLookup).cache.get {} 5 .system "ghost").2.1 =
          (run 30 flushDuringLookup).cache ∨
        (((run 30 flushDuringLookup).cache.table .system).connected = false ∧
          ((run 30 flushDuringLookup).cache.table .system).entries ≠ [] ∧
          ((run 30 flushDuringLookup).cache.get {} 5 .system "ghost").2.1 =
            (run 30 flushDuringLookup).cache.modify .system
              fun t => { t with connected := true })) :=
  have hidle : ∀ l ∈ (run 30 flushDuringLookup).waiting, l.bus ≠ .system := by decide
  have hf : ((run 30 flushDuringLookup).cache.get {} 5 .system "ghost").1 =
      .error (.peer (.callFailed "ghost" (.noOwner "ghost"))) := rfl
  ⟨hidle, hf, failed_lookup_takes_at_most_connection 30 _ .system hidle {} 5 "ghost" hf⟩

/-- **A failed lookup does not always leave the cache as it was.** After a flush during a lookup
no lookup waits and the table has an entry but no connection; a lookup of a name without an owner
then fails, and the table holds a connection. -/
theorem failed_lookup_connects_after_flush :
    (run 30 flushDuringLookup).waiting = [] ∧
      ((run 30 flushDuringLookup).cache.get {} 5 .system "ghost").1 =
        .error (.peer (.callFailed "ghost" (.noOwner "ghost"))) ∧
      ((run 30 flushDuringLookup).cache.table .system).connected = false ∧
      (((run 30 flushDuringLookup).cache.get {} 5 .system "ghost").2.1.table .system).connected =
        true :=
  ⟨by decide, rfl, by decide, by decide⟩

end Runtime

end PeerGate
