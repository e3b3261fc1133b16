import PeerGate.Config.Load
import PeerGate.Numeral
import PeerGate.Process

/-!
The command line `proc-creds`: print the credential of a process.

`proc-creds [-v|--verbose] [-q|--quiet] [-c|--config FILE] [PID]` reads its arguments from left to
right. The verbosity options change only logging. `-c` takes the next argument as the
configuration file, and a later one wins; help stops at once; any other argument that starts with
`-` is an unknown option; the first other argument is the process id, a decimal 32-bit number with
an optional `+`; a second one is refused. A refused command line prints its fault and the usage
line and exits with 2.

Then the configuration is loaded, if one is named (exit 2 if it cannot be, without a usage
line), the own credential's lifetime overridden, and the status record
`<proc_root>/<PID>/status` read, of the tool's own process if no id is given. A credential prints
as lines `Pid`, `Uid`, `Gid`, then `Groups` and `Caps` if the record has them, and exits with 0;
no credential exits with 1.

* `Cli.parse`: the command line, or its `UsageFault`.
* `Cli.run`: the whole run over a file reader in any monad, so that it runs on real files and on a
  file tree alike.
-/

namespace PeerGate.Cli

/-- The usage line. -/
def usageLine : String :=
  "usage: proc-creds [-v|--verbose] [-q|--quiet] [-c|--config FILE] [PID]"

/-- What a command line asks for. -/
structure Args where
  verbose : Bool := false
  quiet : Bool := false
  config : Option String := none
  pid : Option UInt32 := none
deriving DecidableEq, Repr

/-- Why a command line is refused. -/
inductive UsageFault where
  /-- The option, as spelled, has no file after it. -/
  | needsFile (option : String)
  /-- Help is asked for. -/
  | help
  | unknownOption (arg : String)
  | badPid (arg : String)
  /-- A second process id. -/
  | unexpected (arg : String)
deriving DecidableEq, Repr

/-- The text of a usage fault; empty for help. -/
def UsageFault.message : UsageFault → String
  | .needsFile option => option ++ " needs a file"
  | .help => ""
  | .unknownOption arg => "unknown option " ++ arg
  | .badPid arg => "bad pid " ++ Text.quote arg
  | .unexpected arg => "unexpected argument " ++ Text.quote arg

/-- The arguments from left to right, on top of what `acc` already holds. -/
def parseFrom (acc : Args) : List String → Except UsageFault Args
  | [] => .ok acc
  | a :: rest =>
    if a = "-v" ∨ a = "--verbose" then parseFrom { acc with verbose := true } rest
    else if a = "-q" ∨ a = "--quiet" then parseFrom { acc with quiet := true } rest
    else if a = "-c" ∨ a = "--config" then
      match rest with
      | file :: more => parseFrom { acc with config := some file } more
      | [] => .error (.needsFile a)
    else if a = "-h" ∨ a = "--help" then .error .help
    else if a.startsWith "-" then .error (.unknownOption a)
    else if acc.pid.isNone then
      match Numeral.readU32 a.toList with
      | some pid => parseFrom { acc with pid := some pid } rest
      | none => .error (.badPid a)
    else .error (.unexpected a)

/-- A command line. -/
def parse (args : List String) : Except UsageFault Args :=
  parseFrom {} args

/-- The lines of standard error, the text of standard output and the exit code of a run. -/
structure Report where
  exit : Nat
  stdout : String
  stderr : List String
deriving DecidableEq, Repr

/-- The report of a refused command line. -/
def UsageFault.report (f : UsageFault) : Report :=
  let lines := if f.message.isEmpty then [usageLine] else ["proc-creds: " ++ f.message, usageLine]
  ⟨2, "", lines⟩

/-- The lines a credential prints as. -/
def credentialLines (p : ProcessCredential) : List String :=
  ["Pid: " ++ toString p.pid.toNat, "Uid: " ++ toString p.cred.euid.toNat,
    "Gid: " ++ toString p.cred.egid.toNat] ++
  (match p.cred.groups with
    | some gs => ["Groups: " ++ " ".intercalate (gs.map fun g => toString g.toNat)]
    | none => []) ++
  (match p.cred.caps with
    | some caps => ["Caps: " ++ Numeral.hex16 caps]
    | none => [])

/-- The report of a credential found, or not. -/
def found : Except ExtractFault ProcessCredential → Report
  | .ok p => ⟨0, String.join ((credentialLines p).map (· ++ "\n")), []⟩
  | .error _ => ⟨1, "", []⟩

/-- The configuration a command line names, read with `read` and loaded with the YAML library
`yaml`, or the defaults when it names none. -/
def settings {m : Type → Type} [Monad m] (yaml : String → Option Config)
    (read : String → m (Option (List UInt8))) : Option String → m (Except ConfigFault Config)
  | some path => do
    let contents ← read path
    pure (Config.loadFile yaml path contents)
  | none => pure (.ok { version := 1 })

/-- A run of the command line with the arguments `args`, configurations loaded with the YAML
library `yaml`, files read by `read`, the lifetime override `override` and the own process id
`selfPid`. -/
def run {m : Type → Type} [Monad m] (yaml : String → Option Config)
    (read : String → m (Option (List UInt8))) (args : List String) (override : Option String)
    (selfPid : UInt32) : m Report :=
  match parse args with
  | .error f => pure f.report
  | .ok a => do
    match ← settings yaml read a.config with
    | .error _ => pure ⟨2, "", []⟩
    | .ok cfg =>
      let cfg := cfg.withOverride override
      let record (pid : UInt32) : m (Except ReadFault String) := do
        pure (fileRecord (← read (statusPath cfg.peer.procRoot pid)))
      let result ← readProcessWith record (a.pid.getD selfPid)
      pure (found result)

theorem parse_help_first (rest : List String) : parse ("-h" :: rest) = .error .help := by
  unfold parse
  rw [parseFrom.eq_def]
  simp

end PeerGate.Cli
