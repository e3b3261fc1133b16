import PeerGate.Peer.Daemon

/-!
The peer credential cache.

A peer cache maps the bus names of requesters to the credentials of the processes that own them,
with one table per bus. A lookup that misses resolves the name: it takes the bus connection
(connecting if none is held), asks the daemon for the owner's process id, reads that process's
record, watches the name's owner, and stores the peer. A lookup that hits makes no call.

An entry leaves its table when it has sat unused for the idle time (a hit restarts the count),
when its name loses its owner and its watch fires, or when it is flushed. A table that becomes
empty by a removal or a failed lookup lets its connection go.

* `PeerCache.get`: one lookup; on failure the table is unchanged (`get_hit` for a hit).
* `PeerCache.get2`: two lookups started together: when the first waits on a fresh connection, the
  second starts before the first finishes, so both connect; the connection that comes first is
  kept.
* `PeerCache.expire`, `PeerCache.vanish`, `PeerCache.flush`: the three ways out.
* `PeerCache.watching`: the names whose owner watch is held, as `bus:name`, sorted.
-/

namespace PeerGate

/-- A resolved bus peer: the bus and name it was looked up by, the owning process and its
credential. -/
structure Peer where
  bus : BusKind
  name : String
  pid : UInt32
  cred : Credential
deriving DecidableEq, Repr

/-- The bus daemons and the process records a peer cache works against. -/
structure Host where
  daemon : Daemon := {}
  records : Records := {}
deriving Repr

namespace PeerCache

/-- A cached peer: its generation, the peer, the time it goes unless used, and whether a watch
that can fire is held on its name. -/
structure Entry where
  id : Nat
  peer : Peer
  deadline : Nat
  watched : Bool
deriving DecidableEq, Repr

/-- The peers of one bus, and whether a connection to the bus is held. -/
structure Table where
  entries : List Entry := []
  connected : Bool := false
deriving Repr

namespace Table

/-- The entry of a name. -/
def find? (t : Table) (name : String) : Option Entry :=
  t.entries.find? (·.peer.name == name)

/-- The table with an entry stored, replacing the entry of the same name. -/
def insert (t : Table) (e : Entry) : Table :=
  { t with entries := e :: t.entries.filter (·.peer.name != e.peer.name) }

/-- The table without its connection, if it has no entries. -/
def releaseIfIdle (t : Table) : Table :=
  if t.entries.isEmpty then { t with connected := false } else t

/-- The table without the entries that satisfy `p`; if any went, an empty table lets its
connection go. -/
def removeWhere (t : Table) (p : Entry → Bool) : Table :=
  if t.entries.any p then { t with entries := t.entries.filter (fun e => !p e) }.releaseIfIdle
  else t

/-- The table with the deadline of a name's entry moved. -/
def touch (t : Table) (name : String) (deadline : Nat) : Table :=
  { t with entries := t.entries.map fun e =>
      if e.peer.name == name then { e with deadline := deadline } else e }

theorem find?_insert_self (t : Table) (e : Entry) : (t.insert e).find? e.peer.name = some e := by
  simp [insert, find?]

theorem releaseIfIdle_entries (t : Table) : t.releaseIfIdle.entries = t.entries := by
  unfold releaseIfIdle
  split <;> rfl

@[simp] theorem removeWhere_entries (t : Table) (p : Entry → Bool) :
    (t.removeWhere p).entries = t.entries.filter fun e => !p e := by
  unfold removeWhere
  split
  · rw [releaseIfIdle_entries]
  · rename_i h
    refine (List.filter_eq_self.2 fun e he => ?_).symm
    simpa using fun hp => h (List.any_eq_true.2 ⟨e, he, hp⟩)

@[simp] theorem touch_entries (t : Table) (name : String) (deadline : Nat) :
    (t.touch name deadline).entries = t.entries.map fun e =>
      if e.peer.name == name then { e with deadline := deadline } else e := rfl

end Table

end PeerCache

/-- A peer cache: the idle time of its entries in milliseconds, the tables of both buses, and the
generation the next entry gets. -/
structure PeerCache where
  idleMs : Nat
  system : PeerCache.Table := {}
  session : PeerCache.Table := {}
  nextId : Nat := 1
deriving Repr

namespace PeerCache

/-- The table of a bus. -/
def table (c : PeerCache) : BusKind → Table
  | .system => c.system
  | .session => c.session

/-- The cache with the table of a bus changed by `f`. -/
def modify (c : PeerCache) (bus : BusKind) (f : Table → Table) : PeerCache :=
  match bus with
  | .system => { c with system := f c.system }
  | .session => { c with session := f c.session }

/-- What a lookup gives. -/
abbrev Outcome := Except AccessError Peer

/-- A failed lookup: the bus's table lets its connection go if it is empty. -/
def failed (c : PeerCache) (bus : BusKind) (e : AccessError) (h : Host) :
    Outcome × PeerCache × Host :=
  (.error e, c.modify bus Table.releaseIfIdle, h)

/-- The cache with a peer stored at time `now` under the next generation, replacing the entry of
its name on its bus. -/
def put (c : PeerCache) (now : Nat) (peer : Peer) (watched : Bool) : PeerCache :=
  { c.modify peer.bus (·.insert ⟨c.nextId, peer, now + c.idleMs, watched⟩) with
    nextId := c.nextId + 1 }

/-- Resolving a name at time `now` over a held connection: ask for the owner's process id, read
and parse its record, watch the name, and store the peer. -/
def resolveConnected (c : PeerCache) (h : Host) (now : Nat) (bus : BusKind) (name : String) :
    Outcome × PeerCache × Host :=
  let (reply, d) := h.daemon.askPid bus name
  let h := { h with daemon := d }
  match reply with
  | .error f => c.failed bus (.peer (.callFailed name f)) h
  | .ok vs =>
    match BusValue.pidOfReply? vs with
    | none => c.failed bus (.peer (.badReply name vs)) h
    | some pid =>
      let (text, r) := h.records.read pid
      let h := { h with records := r }
      match text with
      | .error rf => c.failed bus (.peer (.vanished name pid rf)) h
      | .ok text =>
        match Credential.ofStatus text with
        | .error f => c.failed bus (.extract (.status f)) h
        | .ok cred =>
          match h.daemon.watch name with
          | .error f => c.failed bus (.internal f) h
          | .ok watched =>
            let peer : Peer := ⟨bus, name, pid, cred⟩
            (.ok peer, c.put now peer watched, h)

/-- Resolving a name once a requested connection is answered: a refused connection fails the
lookup; otherwise the connection is held, unless one is held already, and the name resolved. -/
def finishConnect (c : PeerCache) (h : Host) (now : Nat) (bus : BusKind) (name : String) :
    Outcome × PeerCache × Host :=
  match h.daemon.connectAnswer bus with
  | .error f => c.failed bus (.internal f) h
  | .ok () => (c.modify bus fun t => { t with connected := true }).resolveConnected h now bus name

/-- The peer of a name at time `now`: a hit restarts the entry's idle time; a miss resolves the
name, connecting first if no connection is held. -/
def get (c : PeerCache) (h : Host) (now : Nat) (bus : BusKind) (name : String) :
    Outcome × PeerCache × Host :=
  match (c.table bus).find? name with
  | some e => (.ok e.peer, c.modify bus (·.touch name (now + c.idleMs)), h)
  | none =>
    if (c.table bus).connected then c.resolveConnected h now bus name
    else c.finishConnect { h with daemon := h.daemon.dial } now bus name

/-- Two lookups started together. Unless the first hits or a connection is held, the first waits
on a fresh connection; the second then starts before the first finishes, hitting or asking for a
connection of its own, and finishes after it. -/
def get2 (c : PeerCache) (h : Host) (now : Nat) (bus : BusKind) (a b : String) :
    (Outcome × Outcome) × PeerCache × Host :=
  if ((c.table bus).find? a).isSome || (c.table bus).connected then
    let (ra, c, h) := c.get h now bus a
    let (rb, c, h) := c.get h now bus b
    ((ra, rb), c, h)
  else
    let h := { h with daemon := h.daemon.dial }
    match (c.table bus).find? b with
    | some e =>
      let c := c.modify bus (·.touch b (now + c.idleMs))
      let (ra, c, h) := c.finishConnect h now bus a
      ((ra, .ok e.peer), c, h)
    | none =>
      let h := { h with daemon := h.daemon.dial }
      let (ra, c, h) := c.finishConnect h now bus a
      let (rb, c, h) := c.finishConnect h now bus b
      ((ra, rb), c, h)

/-- The cache at time `now`: entries whose idle time has run out are gone. -/
def expire (c : PeerCache) (now : Nat) : PeerCache :=
  { c with system := c.system.removeWhere (·.deadline ≤ now),
           session := c.session.removeWhere (·.deadline ≤ now) }

/-- The cache after a name on a bus lost its owner: its entry goes if its watch can fire. -/
def vanish (c : PeerCache) (bus : BusKind) (name : String) : PeerCache :=
  c.modify bus (·.removeWhere fun e => e.peer.name == name && e.watched)

/-- The cache without the entry of a name, or without every entry of the bus. -/
def flush (c : PeerCache) (bus : BusKind) : Option String → PeerCache
  | some name => c.modify bus (·.removeWhere (·.peer.name == name))
  | none => c.modify bus fun t => { t with entries := [] }.releaseIfIdle

/-- The names whose owner watch is held, written `bus:name`, in order. -/
def watching (c : PeerCache) : List String :=
  let names (bus : BusKind) : List String :=
    ((c.table bus).entries.filter (·.watched)).map fun e => bus.name ++ ":" ++ e.peer.name
  (names .system ++ names .session).mergeSort fun x y => decide (x ≤ y)

@[simp] theorem table_modify_self (c : PeerCache) (bus : BusKind) (f : Table → Table) :
    (c.modify bus f).table bus = f (c.table bus) := by
  cases bus <;> rfl

theorem table_modify_of_ne (c : PeerCache) {bus bus' : BusKind} (f : Table → Table)
    (h : bus' ≠ bus) : (c.modify bus f).table bus' = c.table bus' := by
  cases bus <;> cases bus' <;> first | rfl | exact absurd rfl h

@[simp] theorem nextId_modify (c : PeerCache) (bus : BusKind) (f : Table → Table) :
    (c.modify bus f).nextId = c.nextId := by
  cases bus <;> rfl

@[simp] theorem idleMs_modify (c : PeerCache) (bus : BusKind) (f : Table → Table) :
    (c.modify bus f).idleMs = c.idleMs := by
  cases bus <;> rfl

theorem modify_eq_self {c : PeerCache} {bus : BusKind} {f : Table → Table}
    (hf : f (c.table bus) = c.table bus) : c.modify bus f = c := by
  cases bus <;> cases c <;> simp_all [modify, table]

theorem modify_congr {c : PeerCache} {bus : BusKind} {f g : Table → Table}
    (hfg : f (c.table bus) = g (c.table bus)) : c.modify bus f = c.modify bus g := by
  cases bus <;> cases c <;> simp_all [modify, table]

theorem modify_modify (c : PeerCache) (bus : BusKind) (f g : Table → Table) :
    (c.modify bus f).modify bus g = c.modify bus (g ∘ f) := by
  cases bus <;> rfl

@[simp] theorem nextId_put (c : PeerCache) (now : Nat) (peer : Peer) (watched : Bool) :
    (c.put now peer watched).nextId = c.nextId + 1 := rfl

theorem table_put (c : PeerCache) (now : Nat) (peer : Peer) (watched : Bool) (bus : BusKind) :
    (c.put now peer watched).table bus =
      (c.modify peer.bus (·.insert ⟨c.nextId, peer, now + c.idleMs, watched⟩)).table bus := by
  cases bus <;> rfl

theorem get_hit {c : PeerCache} {h : Host} {now : Nat} {bus : BusKind} {name : String}
    {e : Entry} (he : (c.table bus).find? name = some e) :
    (c.get h now bus name).1 = .ok e.peer ∧ (c.get h now bus name).2.2 = h := by
  simp [get, he]

end PeerCache

end PeerGate
