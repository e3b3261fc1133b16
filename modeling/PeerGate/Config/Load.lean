import PeerGate.Config
import PeerGate.Text.Utf8

/-!
Loading a configuration.

The configuration code reads a configuration from YAML through its YAML library, which gives the
configuration a text describes, the defaults filled in for what the text leaves out
(`PeerSettings`, `SelfSettings`, `PolicySource`), or nothing when the text describes none. Loading
then checks what was read; neither the reading nor a refused text leaves anything behind.

* `Config.load`: reading with the library, then `Config.validate`. `load_eq_ok_iff`: a text loads
  exactly to a configuration the library reads from it that passes the checks, and
  `load_eq_error_iff` names the fault of every other text.
* `Config.loadFile`: the same for the bytes of a file, none when the file is missing; they must be
  UTF-8.
-/

namespace PeerGate

namespace Config

/-- The checked configuration a text describes, read with the YAML library `yaml`, which gives
the configuration of a text or none when the text describes none. -/
def load (yaml : String → Option Config) (src : String) : Except ConfigFault Config :=
  match yaml src with
  | some c => do
    c.validate
    return c
  | none => .error .invalidYaml

/-- The checked configuration of a file at `path` with the given bytes, none when the file is
missing; the bytes must be UTF-8 text. -/
def loadFile (yaml : String → Option Config) (path : String) :
    Option (List UInt8) → Except ConfigFault Config
  | some bytes =>
    if Text.isWellFormed bytes then load yaml (String.ofList (Text.decodeLossy bytes))
    else .error (.notText path)
  | none => .error (.unreadable path)

variable {yaml : String → Option Config} {src : String}

/-- A text loads to the configuration the library reads from it, when that passes the checks. -/
theorem load_eq_ok_iff {c : Config} :
    load yaml src = .ok c ↔ yaml src = some c ∧ c.validate = .ok () := by
  unfold load
  cases hy : yaml src with
  | none => simp
  | some c' =>
    simp only [bind, Except.bind, pure, Except.pure, Option.some.injEq]
    cases hv : c'.validate with
    | error f =>
      simp only [reduceCtorEq, false_iff, not_and]
      rintro rfl
      simp [hv]
    | ok u =>
      cases u
      simp only [Except.ok.injEq]
      exact ⟨fun h => ⟨h, h ▸ hv⟩, fun h => h.1⟩

/-- A text is refused as no configuration when the library reads none from it, and otherwise
with the first check the configuration read fails. -/
theorem load_eq_error_iff {f : ConfigFault} :
    load yaml src = .error f ↔
      (yaml src = none ∧ f = .invalidYaml) ∨
        ∃ c, yaml src = some c ∧ c.validate = .error f := by
  unfold load
  cases hy : yaml src with
  | none => simp [eq_comm]
  | some c =>
    simp only [bind, Except.bind, reduceCtorEq, false_and, Option.some.injEq, exists_eq_left',
      false_or]
    cases c.validate with
    | error f' => simp
    | ok u => simp [pure, Except.pure]

end Config

end PeerGate
