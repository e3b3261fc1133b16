import PeerGate.Peer.Tasks

/-!
The peer cache with its lifecycle tasks on a virtual clock.

`Runtime` lets a lifecycle task evict its entry at any moment. Here the tasks keep time. A task
waits on four things at once, the branches of its select: its entry leaving the table (the entry
held the task's cancel handle), its name's owner vanishing (its watch fires, if it can), a hit on
its entry (a notification, kept as a permit while the task is busy, several hits counting as one),
and its deadline. The deadline is one idle time after the entry was stored; taking a hit moves it
to one idle time after the moment the task takes it. When several branches are ready, the task
takes any one of them.

The clock is virtual, as in a runtime whose time is paused: time passes only while no task has a
branch ready, and never past a deadline, so each task takes what is ready before the clock moves
on. Lookups, flushes and hits may come at any instant, also between a deadline falling due and
its task running.

* `Clocked`: the runtime of the cache with the clock, the timing of each running task, and a
  history of the stores, hits and evictions for idleness, each with its generation and time
  (`PeerCache.Sighting`).
* `Clocked.step`: one event; `Clocked.run`: a sequence of events from a fresh cache.
-/

namespace PeerGate

namespace PeerCache

/-- What a lifecycle task waits on: the branches of its select. -/
inductive Branch where
  /-- its entry has left the table -/
  | cancel
  /-- its name's owner vanished -/
  | vanished
  /-- a hit on its entry -/
  | touched
  /-- its deadline -/
  | deadline
deriving DecidableEq, Repr

/-- The timing of a running lifecycle task: the task, its deadline, whether a hit waits to be
taken, whether its watch can fire, and whether it has. -/
structure Timing where
  task : Task
  deadline : Nat
  touched : Bool
  watch : Bool
  vanished : Bool
deriving DecidableEq, Repr

/-- A store, a hit, or an eviction for idleness, of the entry of a generation, and when. -/
inductive Sighting where
  | stored (id time : Nat)
  | hit (id time : Nat)
  | idle (id time : Nat)
deriving DecidableEq, Repr

namespace Sighting

/-- The generation of the entry sighted. -/
def id : Sighting → Nat
  | stored k _ | hit k _ | idle k _ => k

/-- When the entry was sighted. -/
def time : Sighting → Nat
  | stored _ t | hit _ t | idle _ t => t

end Sighting

end PeerCache

/-- The runtime of a peer cache on a virtual clock: the time, the timing of each running lifecycle
task, and the history of stores, hits and evictions for idleness. -/
structure Clocked where
  rt : Runtime
  now : Nat := 0
  timings : List PeerCache.Timing := []
  sightings : List PeerCache.Sighting := []

namespace Clocked

/-- What can happen next. The events of `Runtime` take the time from the clock; lifecycle tasks
take a ready branch; a name's owner vanishes; time passes. -/
inductive Event where
  /-- a lookup: a hit notifies the entry's task, a miss starts waiting -/
  | lookup (bus : BusKind) (name : String)
  | connected (i : Nat)
  | answered (i : Nat) (pid : UInt32)
  | stored (i : Nat) (cred : Credential) (watched : Bool)
  | failed (i : Nat)
  | flush (bus : BusKind) (name : Option String)
  /-- the owner of a name on a bus vanishes: the watches held on it fire -/
  | vanish (bus : BusKind) (name : String)
  /-- the task of generation `k` takes a branch, if it is ready -/
  | wake (k : Nat) (branch : PeerCache.Branch)
  /-- time passes, in milliseconds, if no task has anything ready until then -/
  | elapse (ms : Nat)
deriving Repr

/-- Whether a branch of a task is ready now. -/
def ready (w : Clocked) (t : PeerCache.Timing) : PeerCache.Branch → Bool
  | .cancel => !w.rt.cache.ids.contains t.task.id
  | .vanished => t.vanished
  | .touched => t.touched
  | .deadline => decide (t.deadline ≤ w.now)

/-- Whether time can pass by `ms`: no task has a branch ready, and no deadline falls due before
the end. -/
def quiet (w : Clocked) (ms : Nat) : Bool :=
  w.timings.all fun t =>
    !w.ready t .cancel && !w.ready t .vanished && !w.ready t .touched && !w.ready t .deadline &&
      decide (w.now + ms ≤ t.deadline)

/-- The task of generation `k` takes a ready branch: a hit moves its deadline to one idle time
from now; any other branch ends it, after an eviction of its entry for the vanished name or the
deadline (an eviction that finds its entry, by the deadline, is recorded). -/
def take (w : Clocked) (k : Nat) : PeerCache.Branch → Clocked
  | .touched =>
    { w with timings := w.timings.map fun t =>
        if t.task.id = k then { t with deadline := w.now + w.rt.cache.idleMs, touched := false }
        else t }
  | .cancel =>
    { w with rt := w.rt.step (.cancelled k), timings := w.timings.filter (·.task.id ≠ k) }
  | .vanished =>
    { w with rt := w.rt.step (.evict k), timings := w.timings.filter (·.task.id ≠ k) }
  | .deadline =>
    { w with
      rt := w.rt.step (.evict k)
      timings := w.timings.filter (·.task.id ≠ k)
      sightings := if k ∈ w.rt.cache.ids then w.sightings ++ [.idle k w.now] else w.sightings }

/-- The runtime after one event; an event that cannot happen now changes nothing. -/
def step (w : Clocked) : Event → Clocked
  | .lookup bus name =>
    match (w.rt.cache.table bus).find? name with
    | some e =>
      { w with
        rt := w.rt.step (.lookup bus name w.now)
        timings := w.timings.map fun t => if t.task.id = e.id then { t with touched := true } else t
        sightings := w.sightings ++ [.hit e.id w.now] }
    | none => { w with rt := w.rt.step (.lookup bus name w.now) }
  | .connected i => { w with rt := w.rt.step (.connected i) }
  | .answered i pid => { w with rt := w.rt.step (.answered i pid) }
  | .stored i cred watched =>
    match w.rt.waiting[i]? with
    | some ⟨bus, name, .reading _⟩ =>
      { w with
        rt := w.rt.step (.stored i cred watched w.now)
        timings := w.timings ++
          [⟨⟨w.rt.cache.nextId, bus, name⟩, w.now + w.rt.cache.idleMs, false, watched, false⟩]
        sightings := w.sightings ++ [.stored w.rt.cache.nextId w.now] }
    | _ => w
  | .failed i => { w with rt := w.rt.step (.failed i) }
  | .flush bus name => { w with rt := w.rt.step (.flush bus name) }
  | .vanish bus name =>
    { w with timings := w.timings.map fun t =>
        if t.task.bus = bus ∧ t.task.name = name ∧ t.watch = true then { t with vanished := true }
        else t }
  | .wake k branch =>
    match w.timings.find? (·.task.id == k) with
    | some t => if w.ready t branch then w.take k branch else w
    | none => w
  | .elapse ms => if w.quiet ms then { w with now := w.now + ms } else w

/-- A fresh cache with idle time `idleMs` at time 0, after a sequence of events. -/
def run (idleMs : Nat) (events : List Event) : Clocked :=
  events.foldl step { rt := { cache := { idleMs } } }

end Clocked

end PeerGate
