import PeerGate.Bus
import PeerGate.Config
import PeerGate.Process

/-!
The errors of an access service.

Every failure of the service falls in one of five categories, each with a stable code: a policy
text that does not compile, a process that gives no credential, a bus name that gives no peer, a
configuration that is refused, and a failure of the bus itself. The text of an error is its
category's prefix before the cause's own text.

* `InternalFault`, `PeerFault`: failures of the bus, and why a bus name gives no peer.
* `AccessError`: the five categories, with `code`, `kind` and `message`.
-/

namespace PeerGate

/-- A failure of the bus or its daemon. -/
inductive InternalFault where
  /-- The daemon knows no owner of the name. -/
  | noOwner (name : String)
  | cannotConnect (bus : BusKind)
  | cannotWatch (name : String)
deriving DecidableEq, Repr

/-- The text of a bus failure. -/
def InternalFault.message : InternalFault → String
  | .noOwner name => "name has no owner: " ++ name
  | .cannotConnect bus => "cannot connect to " ++ bus.name ++ " bus"
  | .cannotWatch name => "cannot watch " ++ name

/-- Why a bus name gives no peer. -/
inductive PeerFault where
  /-- The daemon's answer to the process id question failed. -/
  | callFailed (name : String) (f : InternalFault)
  /-- The daemon answered with something other than one 32-bit word. -/
  | badReply (name : String) (reply : List BusValue)
  /-- The owning process has no readable record. -/
  | vanished (name : String) (pid : UInt32) (r : ReadFault)
deriving DecidableEq, Repr

/-- The text of a peer fault; it starts with the bus name. -/
def PeerFault.message : PeerFault → String
  | .callFailed name f => name ++ ": internal: " ++ f.message
  | .badReply name reply => name ++ ": unexpected " ++ pidMethod ++ " reply " ++
      BusValue.renderList reply
  | .vanished name pid r => name ++ ": pid " ++ toString pid.toNat ++ " vanished: " ++ r.message

/-- An error of the access service. -/
inductive AccessError where
  | spec (e : SpecError)
  | extract (f : ExtractFault)
  | peer (f : PeerFault)
  | config (f : ConfigFault)
  | internal (f : InternalFault)
deriving Repr

namespace AccessError

/-- The stable code of an error's category. -/
def code : AccessError → String
  | .spec _ => "COMPILE"
  | .extract _ => "EXTRACT"
  | .peer _ => "PEER_RESOLUTION"
  | .config _ => "BAD_CONFIG"
  | .internal _ => "INTERNAL"

/-- The kind of an error within its category; a version a policy text asks for that is not
served is a kind of its own. -/
def kind : AccessError → String
  | .spec (.compile _ _) => "Compile"
  | .spec (.unsupportedVersion _) => "UnsupportedVersion"
  | .extract _ => "Extract"
  | .peer _ => "PeerResolution"
  | .config _ => "BadConfig"
  | .internal _ => "Internal"

/-- The text of an error. -/
def message : AccessError → String
  | .spec e => e.message
  | .extract f => "credential extract failed: " ++ f.message
  | .peer f => "peer resolution failed: " ++ f.message
  | .config f => "bad config: " ++ f.message
  | .internal f => "internal: " ++ f.message

/-- The byte offset in the policy text where compiling stopped, for a compile error. -/
def pos? : AccessError → Option Nat
  | .spec (.compile pos _) => some pos
  | _ => none

end AccessError

end PeerGate
