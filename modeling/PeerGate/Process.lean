import PeerGate.Credential.Status
import PeerGate.Text.Utf8

/-!
Process records and the credentials read from them.

A process's credential comes from its status record. Records are kept either in a table in
memory, or as files `<root>/<pid>/status` of a file tree, whose paths are walked name by name as
a file system walks them, and whose bytes are read as UTF-8 with replacement characters for what
is not (`Text.decodeLossy`). Pid 0 names no process and is refused
before any record is read.

* `ReadFault`, `ExtractFault`: why a record cannot be read, and why a process gives no credential,
  with their texts.
* `ProcessTable`, `FileTree`, `RecordSource`: where records come from.
* `readProcessWith`: the credential of a process, its record read by a given reader; it reads one
  record, none for pid 0. `readProcess` reads from a `RecordSource` (`readProcess_zero`,
  `readProcess_ne_zero`).
-/

namespace PeerGate

/-- Why a process record cannot be read. -/
inductive ReadFault where
  /-- The table has no record of the process. -/
  | notFound
  /-- The file tree has no status file of the process. -/
  | noSuchFile
deriving DecidableEq, Repr

/-- The text of a read fault. -/
def ReadFault.message : ReadFault → String
  | .notFound => "entity not found"
  | .noSuchFile => "No such file or directory (os error 2)"

/-- Why a process gives no credential. -/
inductive ExtractFault where
  /-- Pid 0 names no process. -/
  | pidZero
  | unreadable (pid : UInt32) (r : ReadFault)
  /-- The record has no usable effective ids. -/
  | status (f : StatusFault)
deriving DecidableEq, Repr

/-- The text of an extraction fault. -/
def ExtractFault.message : ExtractFault → String
  | .pidZero => "pid 0"
  | .unreadable pid r => "pid " ++ toString pid.toNat ++ ": " ++ r.message
  | .status f => f.message

/-- Status records kept in memory, by process id. -/
structure ProcessTable where
  records : List (UInt32 × String) := []
deriving Repr

namespace ProcessTable

/-- The table with the record of `pid` set to `text`. -/
def set (t : ProcessTable) (pid : UInt32) (text : String) : ProcessTable :=
  ⟨(pid, text) :: t.records.filter (·.1 != pid)⟩

/-- The table without a record of `pid`. -/
def remove (t : ProcessTable) (pid : UInt32) : ProcessTable :=
  ⟨t.records.filter (·.1 != pid)⟩

/-- The record of `pid`. -/
def read (t : ProcessTable) (pid : UInt32) : Except ReadFault String :=
  match t.records.lookup pid with
  | some text => .ok text
  | none => .error .notFound

theorem read_set_self (t : ProcessTable) (pid : UInt32) (text : String) :
    (t.set pid text).read pid = .ok text := by
  simp [set, read]

theorem read_remove_self (t : ProcessTable) (pid : UInt32) :
    (t.remove pid).read pid = .error .notFound := by
  have : (t.records.filter (·.1 != pid)).lookup pid = none := by
    induction t.records with
    | nil => rfl
    | cons p ps ih =>
      obtain ⟨k, v⟩ := p
      by_cases h : k = pid
      · rw [List.filter_cons_of_neg (by simp [h])]
        exact ih
      · rw [List.filter_cons_of_pos (by simpa using h)]
        have h' : (pid == k) = false := beq_false_of_ne (Ne.symm h)
        rw [List.lookup_cons, h']
        exact ih
  simp [remove, read, this]

end ProcessTable

/-- Files by absolute path, each with its bytes, and directories that exist without files in
them. Every directory above a file exists as well. -/
structure FileTree where
  files : List (String × List UInt8) := []
  dirs : List String := []
deriving Repr

/-- The names along a path, without the empty ones that a leading, doubled or trailing slash
makes. -/
def pathNames (path : String) : List String :=
  (path.splitOn "/").filter (· != "")

namespace FileTree

/-- The names along the path of each file. -/
def filePaths (t : FileTree) : List (List String) :=
  t.files.map fun f => pathNames f.1

/-- Whether a directory, given by the names along its path, exists: the root, a directory of
`dirs`, or one above a file or such a directory. -/
def isDir (t : FileTree) (names : List String) : Bool :=
  let above (p : List String) := names.length < p.length && p.take names.length == names
  names.isEmpty || t.filePaths.any above || t.dirs.any fun d =>
    let p := pathNames d
    p == names || above p

/-- The file a path resolves to, walking its names from the directory `here`: `.` stays, `..`
goes up, a name goes down into a directory; a name that is a file must be the last one. -/
def resolve (t : FileTree) (here : List String) : List String → Option (List String)
  | [] => if t.isDir here then none else some here
  | "." :: rest => t.resolve here rest
  | ".." :: rest => t.resolve here.dropLast rest
  | name :: rest =>
    let next := here ++ [name]
    if t.isDir next then t.resolve next rest
    else if rest.isEmpty && t.filePaths.contains next then some next
    else none

/-- The bytes of the file at an absolute path, resolved name by name; none for a path that leads
to no file, or through a file, or to a directory, or ends in a slash. -/
def read? (t : FileTree) (path : String) : Option (List UInt8) :=
  if path.startsWith "/" && !path.endsWith "/" then
    (t.resolve [] (pathNames path)).bind fun names =>
      (t.files.find? fun f => pathNames f.1 == names).map (·.2)
  else none

end FileTree

/-- A path below a directory: the two parts joined by a slash, unless the directory is empty or
already ends in one. -/
def joinPath (dir part : String) : String :=
  if dir.isEmpty || dir.back = '/' then dir ++ part else dir ++ "/" ++ part

/-- The path of the status file of a process below a root. -/
def statusPath (root : String) (pid : UInt32) : String :=
  joinPath (joinPath root (toString pid.toNat)) "status"

/-- Where status records come from. -/
inductive RecordSource where
  /-- A table in memory. -/
  | table (t : ProcessTable)
  /-- The files `<root>/<pid>/status` of a file tree. -/
  | files (root : String) (tree : FileTree)

/-- A status file's content as a record: its bytes read as UTF-8 with replacement characters, or
`noSuchFile` when there is no file. -/
def fileRecord : Option (List UInt8) → Except ReadFault String
  | some bytes => .ok (String.ofList (Text.decodeLossy bytes))
  | none => .error .noSuchFile

/-- The status record of a process, as text. -/
def RecordSource.read : RecordSource → UInt32 → Except ReadFault String
  | .table t, pid => t.read pid
  | .files root tree, pid => fileRecord (tree.read? (statusPath root pid))

/-- The credential of one process. -/
structure ProcessCredential where
  pid : UInt32
  cred : Credential
deriving DecidableEq, Repr

/-- The credential of the process `pid` from the outcome of reading its record. -/
def ProcessCredential.ofRecord (pid : UInt32) :
    Except ReadFault String → Except ExtractFault ProcessCredential
  | .error r => .error (.unreadable pid r)
  | .ok text =>
    match Credential.ofStatus text with
    | .ok c => .ok ⟨pid, c⟩
    | .error f => .error (.status f)

/-- The credential of the process `pid`, with its record read by `read`; pid 0 is refused without
a read. -/
def readProcessWith {m : Type → Type} [Monad m] (read : UInt32 → m (Except ReadFault String))
    (pid : UInt32) : m (Except ExtractFault ProcessCredential) :=
  if pid = 0 then pure (.error .pidZero)
  else do
    let r ← read pid
    pure (ProcessCredential.ofRecord pid r)

/-- The credential of the process `pid`, from its status record. -/
def readProcess (src : RecordSource) (pid : UInt32) : Except ExtractFault ProcessCredential :=
  Id.run (readProcessWith (fun p => pure (src.read p)) pid)

/-- The number of records `readProcess` reads: one, none for pid 0. -/
def readsFor (pid : UInt32) : Nat :=
  if pid = 0 then 0 else 1

theorem readProcess_zero (src : RecordSource) : readProcess src 0 = .error .pidZero := rfl

theorem readProcess_ne_zero (src : RecordSource) {pid : UInt32} (h : pid ≠ 0) :
    readProcess src pid = ProcessCredential.ofRecord pid (src.read pid) := by
  simp [readProcess, readProcessWith, h]

theorem ofRecord_pid {pid : UInt32} {r : Except ReadFault String} {p : ProcessCredential}
    (h : ProcessCredential.ofRecord pid r = .ok p) : p.pid = pid := by
  unfold ProcessCredential.ofRecord at h
  split at h
  · cases h
  · split at h
    · cases h; rfl
    · cases h

end PeerGate
