import PeerGate.Config
import PeerGate.Policy.Decision
import PeerGate.Peer.Cache
import PeerGate.SelfContext

/-!
The state of an access service.

A service is built from a checked configuration: the own credential's lifetime is overridden if a
value is given, every policy is compiled in the order of the configuration, and the first that
does not compile refuses the whole configuration. The service then holds the compiled policies by
name with their default decisions, a peer cache, and the own credential.

* `AccessState.build`: building the service.
* `AccessState.checkPeer`: the decision for a request of a bus peer under a named policy. An
  unknown policy name is refused before the peer is looked up; a peer that cannot be resolved is
  decided without a credential, so the policy's default applies and the root rule does not.
-/

namespace PeerGate

/-- A compiled policy with the decision it gives when no rule applies. -/
structure ServedPolicy (G : Globs) where
  policy : Policy G
  default : Access

/-- The state of an access service. -/
structure AccessState (G : Globs) where
  config : Config
  policies : List (String × ServedPolicy G)
  peers : PeerCache
  selfCred : SelfContext

namespace AccessState

variable {G : Globs}

/-- A configuration's policy, compiled. -/
def compilePolicy (G : Globs) (accounts : Accounts) (p : PolicySource) :
    Except AccessError (String × ServedPolicy G) :=
  match Policy.compile G p.spec p.actions accounts with
  | .ok pol => .ok (p.name, ⟨pol, p.default⟩)
  | .error e => .error (.config (.policyCompile p.name e))

/-- The service of a checked configuration, with the own credential's lifetime overridden by
`override` if given; action arguments are matched by the glob library `G`, names in policy texts
are looked up in `accounts`, and the own process is `selfPid`. -/
def build (G : Globs) (cfg : Config) (override : Option String) (accounts : Accounts)
    (selfPid : UInt32) : Except AccessError (AccessState G) := do
  let cfg := cfg.withOverride override
  let policies ← cfg.policies.mapM (compilePolicy G accounts)
  return {
    config := cfg
    policies := policies
    peers := { idleMs := cfg.peer.idleSec.toNat * 1000 }
    selfCred := { pid := selfPid, lifeMs := cfg.selfCred.idleSec.toNat * 1000 } }

/-- The compiled policy of a name. -/
def policy? (s : AccessState G) (name : String) : Option (Policy G) :=
  (s.policies.lookup name).map (·.policy)

/-- The decision at time `now` for a request of the peer `peer` on `bus`, for `action` with
argument `arg`, under the policy `policyName`. -/
def checkPeer (s : AccessState G) (h : Host) (now : Nat) (bus : BusKind) (peer policyName : String)
    (action : UInt32) (arg : Option String) : Except AccessError Access × AccessState G × Host :=
  match s.policies.lookup policyName with
  | none => (.error (.config (.unknownPolicy policyName)), s, h)
  | some served =>
    let (found, peers, h) := s.peers.get h now bus peer
    let cred := match found with
      | .ok p => some p.cred
      | .error _ => none
    (.ok (verdict (some served.policy) cred action arg served.default),
      { s with peers := peers }, h)

theorem checkPeer_unknown {s : AccessState G} {h : Host} {now : Nat} {bus : BusKind}
    {peer policyName : String} {action : UInt32} {arg : Option String}
    (hp : s.policies.lookup policyName = none) :
    s.checkPeer h now bus peer policyName action arg =
      (.error (.config (.unknownPolicy policyName)), s, h) := by
  simp [checkPeer, hp]

end AccessState

end PeerGate
