import PeerGate.Numeral
import PeerGate.Text.Blank

/-!
Accounts: where the names of users and groups in policy texts are looked up.

Names are looked up in one of two ways. Tables map exact names to ids. An account database is
the text of a `passwd` or `group` file: each line is split at colons, the first field is the name
and the third the id. Lines end at a line feed, and a carriage return before the line feed is
dropped. Lines that start with `#` are comments. The id is trimmed of blanks and read as a decimal
word with an optional `+`; the first line that names the account and has a readable id gives it,
and a line with an unreadable id is passed over. A missing database knows no name.

* `Accounts.uid?`, `Accounts.gid?`: the lookups.
* `Accounts.baseSystem`: the database every system has, with root as user and group 0.
* `idIn?_cons_comment`: comment lines are passed over.
-/

namespace PeerGate

namespace Accounts

/-- The lines of a text: split at line feeds, a carriage return dropped from the end of a line
that a line feed ended, and no empty line after a final line feed. -/
def lines (cs : List Char) : List (List Char) :=
  let parts := cs.splitOn '\n'
  let ended := parts.dropLast.map fun l => if l.getLast? = some '\r' then l.dropLast else l
  match parts.getLast? with
  | some [] | none => ended
  | some last => ended ++ [last]

/-- The id a database line gives for a name: the first field is the name, and the third field,
trimmed, reads as a decimal word. -/
def lineId? (name : List Char) (line : List Char) : Option UInt32 :=
  match line.splitOn ':' with
  | first :: _ :: third :: _ =>
    if first = name then Numeral.readU32 (Text.trimList third) else none
  | _ => none

/-- The id of the first line of a database that gives one for the name, passing over comments. -/
def idIn? (name : List Char) : List (List Char) → Option UInt32
  | [] => none
  | line :: rest =>
    if line.head? = some '#' then idIn? name rest
    else (lineId? name line).or (idIn? name rest)

theorem idIn?_cons_comment (name : List Char) (line : List Char) (rest : List (List Char))
    (h : line.head? = some '#') : idIn? name (line :: rest) = idIn? name rest := by
  simp [idIn?, h]

end Accounts

/-- Where names of users and groups are looked up. -/
inductive Accounts where
  /-- Exact-name tables of users and of groups. -/
  | tables (users groups : List (String × UInt32))
  /-- The texts of a user and a group database; `none` is a missing one. -/
  | databases (passwd group : Option String)
deriving Repr

namespace Accounts

/-- The database every system has: root is user 0 and group 0. -/
def baseSystem : Accounts :=
  .databases (some "root:x:0:0:root:/root:/bin/sh\n") (some "root:x:0:\n")

/-- Look a name up in a database text, if there is one. -/
def inDatabase (db : Option String) (name : String) : Option UInt32 :=
  db.bind fun text => idIn? name.toList (lines text.toList)

/-- The id of a user name. -/
def uid? : Accounts → String → Option UInt32
  | tables users _, name => users.lookup name
  | databases passwd _, name => inDatabase passwd name

/-- The id of a group name. -/
def gid? : Accounts → String → Option UInt32
  | tables _ groups, name => groups.lookup name
  | databases _ group, name => inDatabase group name

example : baseSystem.uid? "root" = some 0 := by decide

end Accounts

end PeerGate
