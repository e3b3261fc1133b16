import PeerGate.Text.Quoted

/-!
Why a policy text is refused.

A policy text is refused either for its version, or for a fault at a byte offset into the text.
Faults of the action table are reported at offset 0, before the text is read at all.

* `CompileFault` and `CompileFault.message`: the faults and their wording.
* `SpecError` and `SpecError.message`: a fault with its offset, or a wrong version.
-/

namespace PeerGate

/-- The two kinds of identity a policy names. -/
inductive IdKind where
  | user
  | group
deriving DecidableEq, Repr

/-- The word for a kind of identity. -/
def IdKind.name : IdKind → String
  | .user => "user"
  | .group => "group"

/-- What the reader of a policy text wanted where it found something else. -/
inductive Wanted where
  /-- This punctuation character. -/
  | char (c : Char)
  | expression
  | identifier
  | argument
  | argumentOrClose
deriving DecidableEq, Repr

/-- How a wanted thing is named in a message. -/
def Wanted.text : Wanted → String
  | .char c => "'" ++ c.toString ++ "'"
  | .expression => "expression"
  | .identifier => "identifier"
  | .argument => "argument"
  | .argumentOrClose => "argument or ')'"

/-- A fault in a policy text or in the action table it is read with. -/
inductive CompileFault where
  /-- Something else stood where this was wanted; `none` is the end of the text. -/
  | expected (wanted : Wanted) (found : Option Char)
  /-- The word after `=` is neither `allow` nor `deny`. -/
  | notAccess (word : String)
  /-- More than 256 levels of nesting. -/
  | tooDeep
  /-- A quoted argument without its closing quote. -/
  | unterminated
  /-- `user()` or `group()` without an argument. -/
  | needsArgument (kind : IdKind)
  /-- An empty user or group. -/
  | emptyId (kind : IdKind)
  /-- A numeric id that does not fit in 32 bits. -/
  | idOutOfRange (kind : IdKind) (digits : String)
  /-- A name the accounts do not know. -/
  | unknownId (kind : IdKind) (name : String)
  /-- A call of an action that the table does not offer. -/
  | unknownAction (name : String)
  /-- An argument for an action that takes none. -/
  | unexpectedArgument (arg action : String)
  /-- No argument for an action that takes one. -/
  | missingArgument (action : String)
  /-- An argument that is no glob pattern, with the glob library's message. -/
  | badPattern (text : String) (msg : String)
  /-- An action of the table with id 0. -/
  | actionIdZero (action : String)
  /-- An action of the table that takes more than one argument. -/
  | unsupportedArity (action : String) (arity : UInt8)
  /-- An action of the table whose name is no identifier, or is `user` or `group`. -/
  | invalidActionName (action : String)
  /-- An action of the table with the id or the name of an earlier one. -/
  | actionClash (action earlier : String)
deriving DecidableEq, Repr

open Text in
/-- The wording of a fault. -/
def CompileFault.message : CompileFault → String
  | .expected w (some c) => "expected " ++ w.text ++ ", found '" ++ c.toString ++ "'"
  | .expected w none => "expected " ++ w.text ++ ", found end of input"
  | .notAccess word => "expected 'allow' or 'deny', found " ++ quote word
  | .tooDeep => "expression nested too deeply"
  | .unterminated => "unterminated string"
  | .needsArgument k => k.name ++ "() needs an argument"
  | .emptyId k => "empty " ++ k.name
  | .idOutOfRange k digits => k.name ++ " id " ++ digits ++ " out of range"
  | .unknownId k name => "unknown " ++ k.name ++ " " ++ quote name
  | .unknownAction name => "unknown action " ++ quote name
  | .unexpectedArgument arg name => "unexpected argument " ++ quote arg ++ " for " ++ quote name
  | .missingArgument name => "missing argument for " ++ quote name
  | .badPattern text msg => "bad pattern " ++ quote text ++ ": " ++ msg
  | .actionIdZero name => "action " ++ quote name ++ " has id 0"
  | .unsupportedArity name arity =>
    "action " ++ quote name ++ " has unsupported arity " ++ toString arity.toNat
  | .invalidActionName name => "invalid action name " ++ quote name
  | .actionClash name earlier => "action " ++ quote name ++ " clashes with " ++ quote earlier

/-- Why a policy text was refused. -/
inductive SpecError where
  /-- A fault at a byte offset into the text. -/
  | compile (pos : Nat) (fault : CompileFault)
  /-- The version before the first `;`, trimmed, is not `1`. -/
  | unsupportedVersion (found : String)
deriving DecidableEq, Repr

/-- The wording of a refusal. -/
def SpecError.message : SpecError → String
  | .compile pos f => "policy compile error at " ++ toString pos ++ ": " ++ f.message
  | .unsupportedVersion v => "unsupported policy version: " ++ Text.quote v

end PeerGate
