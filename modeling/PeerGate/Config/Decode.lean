import PeerGate.Config
import PeerGate.Yaml.Reading

/-!
Reading a configuration from a YAML document.

Decoding is strict: a record is a mapping whose keys are names of its fields, each at most once;
a field left out takes its default, and a field without a default must be there. A list is a
sequence. The empty plain scalar stands for an empty record or an empty list. Numbers are
unsigned, within the width of their field; text is any scalar; a decision chooses the variant
`allow` or `deny`. Any other document describes no configuration.

This is the YAML library the runner gives `Config.load`; no theorem rests on it.

* `Decode.config`: the configuration a document's root describes.
* `Config.ofText`: the configuration a text describes; a text that is no YAML stream of at most
  one document, or a document that does not describe a configuration, gives none.
-/

namespace PeerGate

open Yaml

namespace Decode

/-- A decision: a scalar choosing the variant `allow` or `deny`. -/
def access (d : Document) (pos : Nat) : Reading Access := do
  match Access.ofName? (← d.variant pos) with
  | some a => pure a
  | none => fault "unknown variant"

/-- A custom action: its name, its id and its arity, all required. -/
def action (d : Document) (pos : Nat) : Reading ActionSpec := do
  let fs ← d.record ["name", "id", "arity"] pos
  let name ← required fs "name" d.text
  let id ← required fs "id" (d.unsigned 32)
  let arity ← required fs "arity" (d.unsigned 8)
  return ⟨name, id.toUInt32, arity.toUInt8⟩

/-- A policy: its name and text are required, its default decision is deny and it has no
custom actions unless it says so. -/
def policy (d : Document) (pos : Nat) : Reading PolicySource := do
  let fs ← d.record ["name", "spec", "default", "actions"] pos
  let name ← required fs "name" d.text
  let spec ← required fs "spec" d.text
  let default ← optional fs "default" (access d) .deny
  let actions ← optional fs "actions" (d.listOf (action d)) []
  return ⟨name, spec, default, actions⟩

/-- The peer cache settings, each with its default. -/
def peer (d : Document) (pos : Nat) : Reading PeerSettings := do
  let fs ← d.record ["idle_timeout_sec", "call_timeout_ms", "proc_root"] pos
  let idle ← optional fs "idle_timeout_sec" (d.unsigned 64) 30
  let call ← optional fs "call_timeout_ms" (d.unsigned 64) 25000
  let root ← optional fs "proc_root" d.text "/proc"
  return ⟨idle.toUInt64, call.toUInt64, root⟩

/-- The own credential's settings. -/
def selfCred (d : Document) (pos : Nat) : Reading SelfSettings := do
  let fs ← d.record ["idle_timeout_sec"] pos
  let idle ← optional fs "idle_timeout_sec" (d.unsigned 64) 30
  return ⟨idle.toUInt64⟩

/-- The configuration a document's root describes: the version is required, the sections and the
policies have defaults. -/
def config (d : Document) : Reading Config := do
  let fs ← d.record ["version", "peer", "self_cred", "policies"] 0
  let version ← required fs "version" (d.unsigned 32)
  let peer ← optional fs "peer" (peer d) {}
  let selfCred ← optional fs "self_cred" (selfCred d) {}
  let policies ← optional fs "policies" (d.listOf (policy d)) []
  return ⟨version.toUInt32, peer, selfCred, policies⟩

end Decode

namespace Config

/-- The configuration a text describes, or none when the text is no YAML stream of at most one
document or its document describes no configuration: the YAML library the runner loads with. -/
def ofText (src : String) : Option Config :=
  match loadDocument src with
  | .ok d => ((Decode.config d).run' 0).toOption
  | .error _ => none

end Config

end PeerGate
