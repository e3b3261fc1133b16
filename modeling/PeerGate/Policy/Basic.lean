import PeerGate.Credential

/-!
The vocabulary of policies.

* `Access`: what a policy decides, `allow` or `deny`.
* `IdSpec`: the user or group an identity test asks for, a fixed id or any. `IdSpec.admitsUser`
  and `IdSpec.admitsGroup` say whether a credential passes; without a credential only `any`
  passes (`admitsUser_none`, `admitsGroup_none`).
* `ActionSpec`: a custom action a caller offers to policy texts, with its name, its nonzero id and
  its arity, 0 or 1.
-/

namespace PeerGate

/-- What a policy decides for a request. -/
inductive Access where
  | deny
  | allow
deriving DecidableEq, Repr, Inhabited

namespace Access

/-- The word for a decision, as policy texts and configurations spell it. -/
def name : Access → String
  | deny => "deny"
  | allow => "allow"

/-- The decision a word names. -/
def ofName? : String → Option Access
  | "deny" => some deny
  | "allow" => some allow
  | _ => none

theorem ofName?_name (a : Access) : ofName? a.name = some a := by
  cases a <;> rfl

end Access

/-- The user or group an identity test asks for: a fixed id, or any. -/
inductive IdSpec where
  | any
  | exact (id : UInt32)
deriving DecidableEq, Repr

namespace IdSpec

/-- Whether a credential passes the user part of an identity test: any user does, and a fixed id
needs a credential with that effective user id. -/
def admitsUser : IdSpec → Option Credential → Bool
  | any, _ => true
  | exact u, some c => c.euid == u
  | exact _, none => false

/-- Whether a credential passes the group part of an identity test: any group does, and a fixed
id needs a credential in that group. -/
def admitsGroup : IdSpec → Option Credential → Bool
  | any, _ => true
  | exact g, some c => c.hasGroup g
  | exact _, none => false

theorem admitsUser_none (s : IdSpec) : s.admitsUser none = (s == any) := by
  cases s <;> rfl

theorem admitsGroup_none (s : IdSpec) : s.admitsGroup none = (s == any) := by
  cases s <;> rfl

end IdSpec

/-- A custom action that policy texts may test: its name in the text, the id requests carry, and
the number of arguments it takes. -/
structure ActionSpec where
  name : String
  id : UInt32
  arity : UInt8
deriving DecidableEq, Repr

end PeerGate
