import PeerGate.Policy.Basic
import PeerGate.Policy.Fault
import PeerGate.Text.Blank
import PeerGate.Numeral

/-!
The configuration of an access service.

A configuration names its format version, the settings of the peer credential cache, the
settings of the service's own credential, and the policies it serves, each with its text, its
default decision and its custom actions. Reading a configuration fills in the defaults for what
it leaves out (`PeerSettings`, `SelfSettings`, `PolicySource`); a configuration is then checked
by `Config.validate`, and the own credential's lifetime may be set from outside afterwards
(`SelfSettings.applyOverride`).

* `ConfigFault`: why a configuration is refused, with `ConfigFault.message`.
* `Config.validate`: the checks in order: the version is 1, the peer cache lives 1 to 3600
  seconds and waits 100 to 120000 milliseconds for a call, the process root is not empty, the own
  credential lives at most 3600 seconds, and every policy name has a non-blank character and
  differs from the names before it.
* `SelfSettings.applyOverride`: a decimal 64-bit integer, blanks around it allowed, sets the
  lifetime when it is not negative, capped at `maxSelfIdleSec`; any other text is ignored
  (`applyOverride_none`, `applyOverride_le`).
-/

namespace PeerGate

/-- The longest lifetime of the own credential, in seconds. -/
def maxSelfIdleSec : UInt64 :=
  3600

/-- Settings of the peer credential cache. -/
structure PeerSettings where
  /-- How long an unused entry stays, in seconds. -/
  idleSec : UInt64 := 30
  /-- How long a call to the bus may take, in milliseconds. -/
  callMs : UInt64 := 25000
  /-- Where process records are read. -/
  procRoot : String := "/proc"
deriving DecidableEq, Repr

/-- Settings of the service's own credential. -/
structure SelfSettings where
  /-- How long the own credential stays, in seconds. -/
  idleSec : UInt64 := 30
deriving DecidableEq, Repr

/-- A policy as a configuration gives it: its name, its text, its default decision and its custom
actions. -/
structure PolicySource where
  name : String
  spec : String
  default : Access := .deny
  actions : List ActionSpec := []
deriving DecidableEq, Repr

/-- A configuration. -/
structure Config where
  version : UInt32
  peer : PeerSettings := {}
  selfCred : SelfSettings := {}
  policies : List PolicySource := []
deriving DecidableEq, Repr

/-- Why a configuration is refused. -/
inductive ConfigFault where
  /-- The text is no configuration document. -/
  | invalidYaml
  /-- The configuration file cannot be read. -/
  | unreadable (path : String)
  /-- The configuration file is not UTF-8 text. -/
  | notText (path : String)
  | unsupportedVersion (version : UInt32)
  | peerIdleRange
  | peerCallRange
  | emptyProcRoot
  | selfIdleRange
  | emptyPolicyName
  | duplicatePolicy (name : String)
  /-- A policy's text does not compile. -/
  | policyCompile (name : String) (e : SpecError)
  /-- A request names a policy the configuration does not have. -/
  | unknownPolicy (name : String)
deriving Repr

/-- The text of a configuration fault. -/
def ConfigFault.message : ConfigFault → String
  | .invalidYaml => "invalid yaml"
  | .unreadable path => "read config failed (" ++ path ++ "): No such file or directory (os error 2)"
  | .notText path => "read config failed (" ++ path ++ "): stream did not contain valid UTF-8"
  | .unsupportedVersion v => "unsupported config version " ++ toString v.toNat
  | .peerIdleRange => "peer.idle_timeout_sec must be between 1 and 3600"
  | .peerCallRange => "peer.call_timeout_ms must be between 100 and 120000"
  | .emptyProcRoot => "peer.proc_root must not be empty"
  | .selfIdleRange => "self_cred.idle_timeout_sec must be between 0 and 3600"
  | .emptyPolicyName => "policies[].name must not be empty"
  | .duplicatePolicy name => "duplicate policy name: " ++ name
  | .policyCompile name e => "policy compile failed (policy=" ++ name ++ "): " ++ e.message
  | .unknownPolicy name => "unknown policy: " ++ name

namespace PeerSettings

/-- The checks of the peer cache settings, in order. -/
def validate (p : PeerSettings) : Except ConfigFault Unit :=
  if !(1 ≤ p.idleSec && p.idleSec ≤ 3600) then .error .peerIdleRange
  else if !(100 ≤ p.callMs && p.callMs ≤ 120000) then .error .peerCallRange
  else if p.procRoot.isEmpty then .error .emptyProcRoot
  else .ok ()

end PeerSettings

namespace SelfSettings

/-- The own credential lives at most `maxSelfIdleSec` seconds. -/
def validate (s : SelfSettings) : Except ConfigFault Unit :=
  if s.idleSec ≤ maxSelfIdleSec then .ok () else .error .selfIdleRange

/-- The lifetime an override text sets, if it sets one: a decimal 64-bit integer, blanks around it
allowed, that is not negative, capped at `maxSelfIdleSec`. -/
def overrideSec? (raw : String) : Option UInt64 :=
  match Numeral.readI64 (Text.trimList raw.toList) with
  | some v => if 0 ≤ v then some (min v.toNat maxSelfIdleSec.toNat).toUInt64 else none
  | none => none

/-- The settings after an override, if one is given. -/
def applyOverride (s : SelfSettings) (value : Option String) : SelfSettings :=
  match value.bind overrideSec? with
  | some sec => { s with idleSec := sec }
  | none => s

theorem applyOverride_none (s : SelfSettings) : s.applyOverride none = s := rfl

theorem overrideSec?_le {raw : String} {sec : UInt64} (h : overrideSec? raw = some sec) :
    sec ≤ maxSelfIdleSec := by
  unfold overrideSec? at h
  split at h
  · split at h
    · cases h
      rw [UInt64.le_iff_toNat_le]
      simp [maxSelfIdleSec]
      omega
    · cases h
  · cases h

theorem applyOverride_le (s : SelfSettings) (value : Option String)
    (h : s.idleSec ≤ maxSelfIdleSec) : (s.applyOverride value).idleSec ≤ maxSelfIdleSec := by
  unfold applyOverride
  split
  · next sec hs =>
    obtain ⟨raw, _, hr⟩ := Option.bind_eq_some_iff.mp hs
    exact overrideSec?_le hr
  · exact h

end SelfSettings

namespace Config

/-- The policy names are not blank and each differs from the ones before it, which are `seen`. -/
def checkNames (seen : List String) : List String → Except ConfigFault Unit
  | [] => .ok ()
  | n :: rest =>
    if (Text.trimList n.toList).isEmpty then .error .emptyPolicyName
    else if seen.contains n then .error (.duplicatePolicy n)
    else checkNames (n :: seen) rest

/-- The checks of a configuration, in order. -/
def validate (c : Config) : Except ConfigFault Unit := do
  if c.version ≠ 1 then throw (.unsupportedVersion c.version)
  c.peer.validate
  c.selfCred.validate
  checkNames [] (c.policies.map (·.name))

/-- The configuration with the own credential's lifetime overridden, if a value is given. -/
def withOverride (c : Config) (value : Option String) : Config :=
  { c with selfCred := c.selfCred.applyOverride value }

/-- The policy of a name. -/
def policy? (c : Config) (name : String) : Option PolicySource :=
  c.policies.find? (·.name == name)

end Config

end PeerGate
