import PeerGate.Cli
import PeerGate.Config.Decode

/-!
The executable `proc-creds`: `Cli.run` on the real file system, with configurations read by
`Config.ofText` and the lifetime override taken from the environment variable
`BUSACCESS_SELF_TIMEOUT_SEC`.
-/

namespace PeerGate.Cli

/-- The bytes of a file, or none if it cannot be read. -/
def readBytes (path : String) : IO (Option (List UInt8)) := do
  try
    let bytes ← IO.FS.readBinFile path
    pure (some bytes.toList)
  catch _ =>
    pure none

/-- The id of this process, from the leading number of its kernel status line; 0 if that cannot
be read. -/
def ownPid : IO UInt32 := do
  match ← readBytes "/proc/self/stat" with
  | some bytes =>
    let digits := (String.ofList (Text.decodeLossy bytes)).toList.takeWhile Char.isDigit
    pure ((Numeral.readU32 digits).getD 0)
  | none => pure 0

end PeerGate.Cli

open PeerGate.Cli in
def main (args : List String) : IO UInt32 := do
  let override ← IO.getEnv "BUSACCESS_SELF_TIMEOUT_SEC"
  let report ← run PeerGate.Config.ofText readBytes args override (← ownPid)
  IO.print report.stdout
  for line in report.stderr do
    IO.eprintln line
  pure report.exit.toUInt32
