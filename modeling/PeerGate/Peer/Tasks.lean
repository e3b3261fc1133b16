import PeerGate.Peer.Cache

/-!
The peer cache among its concurrent lookups and lifecycle tasks.

`PeerCache.get` runs a lookup from its start to its end. In the daemon, lookups run concurrently:
a lookup that misses waits for a connection to the bus (when none is held), for the daemon's
answer naming the owner's process, and for that process's record, and other lookups, flushes and
lifecycle tasks run in between. Once the record is read, the lookup takes the next generation,
stores its entry (an entry of the same name that another lookup stored meanwhile is replaced, and
its task cancelled) and spawns the entry's lifecycle task, with nothing in between.

A lifecycle task ends in one of two ways. When the idle time of its entry runs out or its name
loses its owner, it removes the entry of its name, but only while that entry is still of its
generation. When its entry has left the table, it may end doing nothing; it may also see its
deadline or its watch first and remove. The clock is not modelled: a task may take its eviction
at any moment, which covers every timing of deadlines, hits and vanishing names.

* `Runtime`: the cache, the lookups that wait, the tasks that run, and two histories: the
  generations stored (each with its task spawned) and the generations of the entries that left a
  table, in order.
* `Runtime.step`: one event; `Runtime.run`: a sequence of events from a fresh cache.
-/

namespace PeerGate

namespace PeerCache

/-- What a lookup that missed waits for. -/
inductive Stage where
  /-- a connection to the bus -/
  | connecting
  /-- the daemon's answer naming the owner's process -/
  | asking
  /-- the record of process `pid` -/
  | reading (pid : UInt32)
deriving DecidableEq, Repr

/-- A lookup that missed, waiting. -/
structure Waiting where
  bus : BusKind
  name : String
  stage : Stage
deriving DecidableEq, Repr

/-- A running lifecycle task: the generation, bus and name of the entry it was spawned for. -/
structure Task where
  id : Nat
  bus : BusKind
  name : String
deriving DecidableEq, Repr

/-- What can happen next. Waiting lookups are named by their place in the list, tasks by their
generation. -/
inductive Event where
  /-- a lookup: a hit restarts the entry's idle time, a miss starts waiting -/
  | lookup (bus : BusKind) (name : String) (now : Nat)
  /-- the connection a waiting lookup asked for is made; a connection held already is kept -/
  | connected (i : Nat)
  /-- the daemon names the owner's process -/
  | answered (i : Nat) (pid : UInt32)
  /-- the record is read and parsed and the watch taken: the entry is stored -/
  | stored (i : Nat) (cred : Credential) (watched : Bool) (now : Nat)
  /-- the waiting lookup fails -/
  | failed (i : Nat)
  /-- a flush of one name or of the whole bus -/
  | flush (bus : BusKind) (name : Option String)
  /-- the task of generation `k` sees its deadline pass or its name vanish -/
  | evict (k : Nat)
  /-- the task of generation `k` sees its entry gone -/
  | cancelled (k : Nat)
deriving Repr

/-- The generations of the entries of both tables. -/
def ids (c : PeerCache) : List Nat :=
  (c.table .system).entries.map (·.id) ++ (c.table .session).entries.map (·.id)

end PeerCache

/-- A peer cache with the lookups that wait and the lifecycle tasks that run, and two histories:
the generations stored, each with its task spawned, and the generations of the entries that left a
table, in order. -/
structure Runtime where
  cache : PeerCache
  waiting : List PeerCache.Waiting := []
  tasks : List PeerCache.Task := []
  spawned : List Nat := []
  gone : List Nat := []

namespace Runtime

open PeerCache

/-- The runtime with a new cache; the generations of the entries that left it go into the
history. -/
def setCache (w : Runtime) (c : PeerCache) : Runtime :=
  { w with cache := c, gone := w.gone ++ w.cache.ids.filter fun k => k ∉ c.ids }

/-- The waiting lookup `i` has read the record of `pid`: it stores its entry with the next
generation and spawns the entry's task. -/
def store (w : Runtime) (i : Nat) (bus : BusKind) (name : String) (pid : UInt32)
    (cred : Credential) (watched : Bool) (now : Nat) : Runtime :=
  { w.setCache (w.cache.put now ⟨bus, name, pid, cred⟩ watched) with
    waiting := w.waiting.eraseIdx i
    tasks := w.tasks ++ [⟨w.cache.nextId, bus, name⟩]
    spawned := w.spawned ++ [w.cache.nextId] }

/-- The runtime after one event; an event that cannot happen now changes nothing. -/
def step (w : Runtime) : Event → Runtime
  | .lookup bus name now =>
    match (w.cache.table bus).find? name with
    | some _ => w.setCache (w.cache.modify bus (·.touch name (now + w.cache.idleMs)))
    | none =>
      let stage := if (w.cache.table bus).connected then Stage.asking else .connecting
      { w with waiting := w.waiting ++ [⟨bus, name, stage⟩] }
  | .connected i =>
    match w.waiting[i]? with
    | some ⟨bus, name, .connecting⟩ =>
      { w.setCache (w.cache.modify bus fun t => { t with connected := true }) with
        waiting := w.waiting.set i ⟨bus, name, .asking⟩ }
    | _ => w
  | .answered i pid =>
    match w.waiting[i]? with
    | some ⟨bus, name, .asking⟩ => { w with waiting := w.waiting.set i ⟨bus, name, .reading pid⟩ }
    | _ => w
  | .stored i cred watched now =>
    match w.waiting[i]? with
    | some ⟨bus, name, .reading pid⟩ => w.store i bus name pid cred watched now
    | _ => w
  | .failed i =>
    match w.waiting[i]? with
    | some l =>
      { w.setCache (w.cache.modify l.bus Table.releaseIfIdle) with
        waiting := w.waiting.eraseIdx i }
    | none => w
  | .flush bus name => w.setCache (w.cache.flush bus name)
  | .evict k =>
    match w.tasks.find? (·.id == k) with
    | some t =>
      { w.setCache (w.cache.modify t.bus
          (·.removeWhere fun e => e.peer.name == t.name && e.id == k)) with
        tasks := w.tasks.erase t }
    | none => w
  | .cancelled k =>
    match w.tasks.find? (·.id == k) with
    | some t => if k ∈ w.cache.ids then w else { w with tasks := w.tasks.erase t }
    | none => w

/-- A fresh cache with idle time `idleMs`, after a sequence of events. -/
def run (idleMs : Nat) (events : List Event) : Runtime :=
  events.foldl step { cache := { idleMs } }

end Runtime

end PeerGate
