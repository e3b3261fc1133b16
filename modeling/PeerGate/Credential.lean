/-!
Credentials: what a process runs as.

A credential holds the effective user and group ids of a process, its supplementary groups when
its status record listed them, and its effective capability mask when the record gave one that
could be read. Decisions look only at the user id and the set of groups (`hasGroup`); the mask
and the order of the groups are carried for display.

* `Credential.isRoot`: the effective user id is 0.
* `Credential.hasGroup`: the effective group or one of the supplementary groups;
  `hasGroup_iff` states it as membership in `egid :: groupList`.
-/

namespace PeerGate

/-- What a process runs as: effective user and group ids, the supplementary groups if its record
listed them, and the effective capability mask if its record gave a readable one. -/
structure Credential where
  euid : UInt32
  egid : UInt32
  groups : Option (List UInt32) := none
  caps : Option UInt64 := none
deriving DecidableEq, Repr

namespace Credential

/-- A process that runs as user 0. -/
def isRoot (c : Credential) : Bool :=
  c.euid == 0

/-- The supplementary groups, empty when the record listed none. -/
def groupList (c : Credential) : List UInt32 :=
  c.groups.getD []

/-- Whether the process is in a group, as its effective group or as a supplementary one. -/
def hasGroup (c : Credential) (g : UInt32) : Bool :=
  c.egid == g || c.groupList.contains g

theorem hasGroup_iff (c : Credential) (g : UInt32) :
    c.hasGroup g = true ↔ g ∈ c.egid :: c.groupList := by
  simp only [hasGroup, Bool.or_eq_true, beq_iff_eq, List.contains_iff_mem, List.mem_cons]
  exact or_congr eq_comm Iff.rfl

end Credential

end PeerGate
