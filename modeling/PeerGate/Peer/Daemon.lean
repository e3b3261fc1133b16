import PeerGate.Error

/-!
What a peer cache talks to: the bus daemons and the process records.

The cache asks a daemon three things: a connection to its bus, the process that owns a bus name,
and a watch on the name's owner. `Daemon` holds the answers for both buses: the reply for each
name, and three switches that make connecting or watching fail, or make watches that never fire.
It counts the connections asked for and the process id questions asked, failed ones included.

`Records` is the process table the cache reads credentials from, with a count of its reads.

* `Daemon.dial`, `Daemon.connectAnswer`: asking for a connection, and its answer.
* `Daemon.askPid`: the daemon's reply on the owner of a name; a name without an owner fails.
* `Daemon.watch`: a watch on a name, firing (`true`) or not (`false`).
* `Records.read`: a record, counted.
-/

namespace PeerGate

/-- The bus daemons of both buses, as a peer cache meets them. -/
structure Daemon where
  /-- The reply to the process id question, by bus and name. -/
  replies : List ((BusKind × String) × List BusValue) := []
  /-- Connecting fails while set. -/
  connectFails : Bool := false
  /-- Watching fails while set. -/
  watchFails : Bool := false
  /-- Watches never fire while set. -/
  watchPending : Bool := false
  /-- Connections asked for. -/
  connects : Nat := 0
  /-- Process id questions asked. -/
  pidCalls : Nat := 0
deriving Repr

namespace Daemon

/-- The daemon without a reply for a name: the name has no owner. -/
def disown (d : Daemon) (bus : BusKind) (name : String) : Daemon :=
  { d with replies := d.replies.filter (·.1 != (bus, name)) }

/-- The daemon answering `reply` for a name. -/
def setReply (d : Daemon) (bus : BusKind) (name : String) (reply : List BusValue) : Daemon :=
  { d with replies := ((bus, name), reply) :: (d.disown bus name).replies }

/-- The daemon naming process `pid` as the owner of a name. -/
def own (d : Daemon) (bus : BusKind) (name : String) (pid : UInt32) : Daemon :=
  d.setReply bus name [.u32 pid]

/-- A connection is asked for. -/
def dial (d : Daemon) : Daemon :=
  { d with connects := d.connects + 1 }

/-- The answer to a connection request on a bus. -/
def connectAnswer (d : Daemon) (bus : BusKind) : Except InternalFault Unit :=
  if d.connectFails then .error (.cannotConnect bus) else .ok ()

/-- The reply on the owner of a name, with the question counted. -/
def askPid (d : Daemon) (bus : BusKind) (name : String) :
    Except InternalFault (List BusValue) × Daemon :=
  let d' := { d with pidCalls := d.pidCalls + 1 }
  match d.replies.lookup (bus, name) with
  | some reply => (.ok reply, d')
  | none => (.error (.noOwner name), d')

/-- A watch on the owner of a name: one that fires when the owner goes (`true`), or one that never
fires (`false`). -/
def watch (d : Daemon) (name : String) : Except InternalFault Bool :=
  if d.watchFails then .error (.cannotWatch name) else .ok !d.watchPending

theorem askPid_pidCalls (d : Daemon) (bus : BusKind) (name : String) :
    (d.askPid bus name).2.pidCalls = d.pidCalls + 1 := by
  unfold askPid
  split <;> rfl

end Daemon

/-- A process table that counts its reads. -/
structure Records where
  table : ProcessTable := {}
  reads : Nat := 0
deriving Repr

namespace Records

/-- The record of a process, with the read counted. -/
def read (r : Records) (pid : UInt32) : Except ReadFault String × Records :=
  (r.table.read pid, { r with reads := r.reads + 1 })

/-- The credential of a process, read as `readProcess` reads it, with its reads counted. -/
def readProcess (r : Records) (pid : UInt32) : Except ExtractFault ProcessCredential × Records :=
  (PeerGate.readProcess (.table r.table) pid, { r with reads := r.reads + readsFor pid })

/-- The records with the record of `pid` set, or removed when there is no text. -/
def put (r : Records) (pid : UInt32) : Option String → Records
  | some text => { r with table := r.table.set pid text }
  | none => { r with table := r.table.remove pid }

end Records

end PeerGate
