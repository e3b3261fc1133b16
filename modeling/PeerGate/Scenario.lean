import PeerGate.Service

/-!
Scenarios: a service and its surroundings driven step by step.

A scenario changes the surroundings (who owns which bus name, which process records exist, whether
connecting or watching fails), lets time pass, and makes requests to the service. After each step
the timers that have run out have done their work, and the scenario records what the step
answered together with what can be seen of the cache and the surroundings (`Observation`).

* `Scene.step`, `Scene.run`: one step, and a list of steps with an observation after each.
* `SelfScene.step`, `SelfScene.run`: the same for the own credential alone, where each shared
  instance is compared with the last one handed out.
-/

namespace PeerGate

/-- A step of a service scenario. -/
inductive Step where
  /-- The daemon of `bus` names process `pid` as the owner of `name`. -/
  | own (bus : BusKind) (name : String) (pid : UInt32)
  /-- The daemon of `bus` answers exactly `reply` on the owner of `name`. -/
  | reply (bus : BusKind) (name : String) (reply : List BusValue)
  /-- The name loses its owner, and no watch fires. -/
  | disown (bus : BusKind) (name : String)
  /-- The name loses its owner, and its watch fires. -/
  | vanish (bus : BusKind) (name : String)
  /-- The record of a process is set, or removed. -/
  | record (pid : UInt32) (text : Option String)
  | connectFails (on : Bool)
  | watchFails (on : Bool)
  | watchPending (on : Bool)
  | get (bus : BusKind) (name : String)
  | get2 (bus : BusKind) (a b : String)
  | flush (bus : BusKind) (name : Option String)
  /-- Time passes, in milliseconds. -/
  | sleep (ms : Nat)
  | checkPeer (bus : BusKind) (peer policy : String) (action : UInt32) (arg : Option String)
  | showPolicy (name : String)
  /-- The record of the own process is set, or removed. -/
  | selfStatus (text : Option String)
  | selfShared
  | selfFresh
  | selfFlush
deriving Repr

/-- What a step answers, under policies over the glob library `G`. -/
inductive Reply (G : Globs) where
  | none
  | peer (r : Except AccessError Peer)
  | pair (a b : Except AccessError Peer)
  | access (r : Except AccessError Access)
  | policy (p : Option (Policy G))
  | cred (r : Except AccessError ProcessCredential)

/-- What can be seen of one bus's table. -/
structure TableView where
  len : Nat
  connected : Bool
  empty : Bool
deriving DecidableEq, Repr

/-- The view of a table. -/
def PeerCache.Table.view (t : PeerCache.Table) : TableView :=
  ⟨t.entries.length, t.connected, t.entries.isEmpty⟩

/-- What a step answered, and what can be seen after it. -/
structure Observation (G : Globs) where
  reply : Reply G
  system : TableView
  session : TableView
  connects : Nat
  pidCalls : Nat
  reads : Nat
  watching : List String

/-- A service with its surroundings at a point in time. -/
structure Scene (G : Globs) where
  service : AccessState G
  host : Host := {}
  now : Nat := 0

namespace Scene

variable {G : Globs}

/-- The scene with its peer cache and own credential after the timers due by now have run. -/
def settle (sc : Scene G) : Scene G :=
  { sc with service := { sc.service with
      peers := sc.service.peers.expire sc.now
      selfCred := sc.service.selfCred.expire sc.now } }

/-- The scene with the daemon changed by `f`. -/
def withDaemon (sc : Scene G) (f : Daemon → Daemon) : Scene G :=
  { sc with host := { sc.host with daemon := f sc.host.daemon } }

/-- The scene with the peer cache replaced. -/
def withPeers (sc : Scene G) (peers : PeerCache) (h : Host) : Scene G :=
  { sc with service := { sc.service with peers := peers }, host := h }

/-- One step, before the timers due run. -/
def apply (sc : Scene G) : Step → Reply G × Scene G
  | .own bus name pid => (.none, sc.withDaemon (·.own bus name pid))
  | .reply bus name vs => (.none, sc.withDaemon (·.setReply bus name vs))
  | .disown bus name => (.none, sc.withDaemon (·.disown bus name))
  | .vanish bus name =>
    let sc := sc.withDaemon (·.disown bus name)
    (.none, sc.withPeers (sc.service.peers.vanish bus name) sc.host)
  | .record pid text =>
    (.none, { sc with host := { sc.host with records := sc.host.records.put pid text } })
  | .connectFails on => (.none, sc.withDaemon ({ · with connectFails := on }))
  | .watchFails on => (.none, sc.withDaemon ({ · with watchFails := on }))
  | .watchPending on => (.none, sc.withDaemon ({ · with watchPending := on }))
  | .get bus name =>
    let (r, peers, h) := sc.service.peers.get sc.host sc.now bus name
    (.peer r, sc.withPeers peers h)
  | .get2 bus a b =>
    let ((ra, rb), peers, h) := sc.service.peers.get2 sc.host sc.now bus a b
    (.pair ra rb, sc.withPeers peers h)
  | .flush bus name => (.none, sc.withPeers (sc.service.peers.flush bus name) sc.host)
  | .sleep ms => (.none, { sc with now := sc.now + ms })
  | .checkPeer bus peer policy action arg =>
    let (r, s, h) := sc.service.checkPeer sc.host sc.now bus peer policy action arg
    (.access r, { sc with service := s, host := h })
  | .showPolicy name => (.policy (sc.service.policy? name), sc)
  | .selfStatus text =>
    (.none, { sc with host := { sc.host with
      records := sc.host.records.put sc.service.selfCred.pid text } })
  | .selfShared =>
    let (r, ctx, recs) := sc.service.selfCred.shared sc.host.records sc.now
    (.cred ((r.map (·.cred)).mapError .extract),
      { sc with service := { sc.service with selfCred := ctx },
                host := { sc.host with records := recs } })
  | .selfFresh =>
    let (r, recs) := sc.service.selfCred.fresh sc.host.records
    (.cred (r.mapError .extract), { sc with host := { sc.host with records := recs } })
  | .selfFlush =>
    (.none, { sc with service := { sc.service with selfCred := sc.service.selfCred.flush } })

/-- What can be seen of a scene after a step that answered `reply`. -/
def observe (sc : Scene G) (reply : Reply G) : Observation G :=
  { reply := reply
    system := (sc.service.peers.table .system).view
    session := (sc.service.peers.table .session).view
    connects := sc.host.daemon.connects
    pidCalls := sc.host.daemon.pidCalls
    reads := sc.host.records.reads
    watching := sc.service.peers.watching }

/-- One step: its answer, and the scene after the timers due have run. -/
def step (sc : Scene G) (s : Step) : Observation G × Scene G :=
  let (reply, sc) := sc.apply s
  let sc := sc.settle
  (sc.observe reply, sc)

/-- The observations after each of the steps. -/
def run (sc : Scene G) : List Step → List (Observation G)
  | [] => []
  | s :: rest =>
    let (o, sc) := sc.step s
    o :: run sc rest

end Scene

/-- A step of a scenario of the own credential alone. -/
inductive SelfStep where
  /-- The own record is set, or removed. -/
  | status (text : Option String)
  | shared
  | shared2
  | fresh
  | flush
  | sleep (ms : Nat)
deriving Repr

/-- What a step of the own credential answers; `same` tells whether the (first) instance handed
out is the last one handed out before, and `sameAb` whether two requests started together got one
instance. -/
inductive SelfReply where
  | none
  | shared (r : Except ExtractFault SharedCred) (same : Bool)
  | shared2 (a b : Except ExtractFault SharedCred) (same sameAb : Bool)
  | fresh (r : Except ExtractFault ProcessCredential)

/-- The own credential with its records at a point in time, and the generation of the last
shared instance handed out. -/
structure SelfScene where
  ctx : SelfContext
  records : Records := {}
  now : Nat := 0
  last : Option Nat := none

namespace SelfScene

/-- Whether an instance is the last one handed out. -/
def isLast (sc : SelfScene) : Except ExtractFault SharedCred → Bool
  | .ok c => sc.last == some c.generation
  | .error _ => false

/-- The last instance handed out, after `r` was. -/
def remember (sc : SelfScene) : Except ExtractFault SharedCred → SelfScene
  | .ok c => { sc with last := some c.generation }
  | .error _ => sc

/-- One step: its answer and the scene after the timers due have run. -/
def step (sc : SelfScene) : SelfStep → SelfReply × SelfScene
  | .status text => (.none, { sc with records := sc.records.put sc.ctx.pid text })
  | .shared =>
    let (r, ctx, recs) := sc.ctx.shared sc.records sc.now
    let same := sc.isLast r
    let sc := { sc with ctx := ctx.expire sc.now, records := recs }
    (.shared r same, sc.remember r)
  | .shared2 =>
    let ((ra, rb), ctx, recs) := sc.ctx.shared2 sc.records sc.now
    let same := sc.isLast ra
    let sameAb := match ra, rb with
      | .ok a, .ok b => a.generation == b.generation
      | _, _ => false
    let sc := { sc with ctx := ctx.expire sc.now, records := recs }
    (.shared2 ra rb same sameAb, (sc.remember rb).remember ra)
  | .fresh =>
    let (r, recs) := sc.ctx.fresh sc.records
    (.fresh r, { sc with records := recs })
  | .flush => (.none, { sc with ctx := sc.ctx.flush })
  | .sleep ms =>
    let now := sc.now + ms
    (.none, { sc with now := now, ctx := sc.ctx.expire now })

/-- The answers to each of the steps, each with the number of records read by then. -/
def run (sc : SelfScene) : List SelfStep → List (SelfReply × Nat)
  | [] => []
  | s :: rest =>
    let (r, sc) := sc.step s
    (r, sc.records.reads) :: run sc rest

end SelfScene

end PeerGate
