import PeerGate.Text.Quoted

/-!
The message bus, as far as access control sees it.

A service answers requests that come over one of two buses, the system bus and the session bus.
A requester is known by its bus name; the bus daemon tells which process owns a name through the
method `GetConnectionUnixProcessID`, whose reply must be exactly one 32-bit word.

* `BusKind`: the two buses, with their names.
* `BusValue`: the values a reply carries, and `BusValue.renderList`, the text of a reply in
  diagnostics, such as `[Str("42")]` or `[U32(5), U32(6)]`.
* `BusValue.pidOfReply?`: the process id a reply names, if it has the one-word shape.
-/

namespace PeerGate

/-- The bus a request comes over. -/
inductive BusKind where
  | system
  | session
deriving DecidableEq, Repr, Inhabited

/-- The name of a bus, as diagnostics and reports write it. -/
def BusKind.name : BusKind → String
  | .system => "system"
  | .session => "session"

/-- The method of the bus daemon that names the process owning a bus name. -/
def pidMethod : String :=
  "GetConnectionUnixProcessID"

/-- A value in a reply of the bus daemon. -/
inductive BusValue where
  | str (s : String)
  | u32 (n : UInt32)
deriving DecidableEq, Repr

namespace BusValue

/-- The text of a value in diagnostics: its kind, then its content in parentheses. -/
def render : BusValue → String
  | .str s => "Str(" ++ Text.quote s ++ ")"
  | .u32 n => "U32(" ++ toString n.toNat ++ ")"

/-- The text of a reply in diagnostics: its values in brackets, separated by a comma and a
space. -/
def renderList (vs : List BusValue) : String :=
  "[" ++ ", ".intercalate (vs.map render) ++ "]"

/-- The process id a reply names: it must be one 32-bit word and nothing else. -/
def pidOfReply? : List BusValue → Option UInt32
  | [.u32 n] => some n
  | _ => none

theorem pidOfReply?_eq_some {vs : List BusValue} {n : UInt32} :
    pidOfReply? vs = some n ↔ vs = [.u32 n] := by
  constructor
  · intro h
    match vs, h with
    | [.u32 m], h => simp [pidOfReply?] at h; simp [h]
  · rintro rfl
    rfl

end BusValue

end PeerGate
