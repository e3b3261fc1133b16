/-!
Reading YAML text character by character.

A YAML reader looks at the characters ahead of its position and moves over them one at a time.
The position is a `Mark`: how many characters were read, how many line breaks were passed, and
the column on the current line. Past the end of the text the reader sees NUL, which a document
itself may not contain, so NUL stands for the end.

Line breaks are the carriage return, the line feed, the pair of both, the next-line character
U+0085 and the line and paragraph separators U+2028 and U+2029. Reading a break into a scalar
turns the first four into a line feed and keeps the two separators.

* `Fault`: why a text is no YAML document, with a short reason.
* `isAllowed`: the characters a YAML text may contain at all.
* `Cursor`: the text still to read and its position; `Cursor.skip`, `Cursor.skipLine`,
  `Cursor.readLine`, `Cursor.skipWhile` and `Cursor.takeWhile` move it.
-/

namespace PeerGate.Yaml

/-- Why a text is no YAML document this reader takes; the reason is for diagnosis only. -/
structure Fault where
  reason : String
deriving Repr

/-! ### Character classes -/

/-- The end of the text, as the reader sees it past the last character. -/
def endChar : Char :=
  '\x00'

/-- Letters, digits, the underscore and the hyphen: the characters of names. -/
def isWordChar (c : Char) : Bool :=
  c.isAlphanum || c == '_' || c == '-'

/-- A hexadecimal digit. -/
def isHexDigit (c : Char) : Bool :=
  c.isDigit || ('a' ≤ c && c ≤ 'f') || ('A' ≤ c && c ≤ 'F')

/-- The value of a hexadecimal digit. -/
def hexValue (c : Char) : Nat :=
  if c.isDigit then c.toNat - '0'.toNat
  else if 'a' ≤ c && c ≤ 'f' then c.toNat - 'a'.toNat + 10
  else c.toNat - 'A'.toNat + 10

/-- A space or a tab. -/
def isBlank (c : Char) : Bool :=
  c == ' ' || c == '\t'

/-- A line break character. -/
def isBreak (c : Char) : Bool :=
  c == '\r' || c == '\n' || c == '\u0085' || c == '\u2028' || c == '\u2029'

/-- A line break or the end of the text. -/
def isBreakOrEnd (c : Char) : Bool :=
  isBreak c || c == endChar

/-- A blank, a line break or the end of the text: what may follow an indicator. -/
def isBlankOrEnd (c : Char) : Bool :=
  isBlank c || isBreakOrEnd c

/-- The characters a YAML text may contain: the tab, the line feed, the carriage return, the
printable ASCII characters, the next-line character, and every other character from U+00A0 on
except the surrogates and U+FFFE and U+FFFF. -/
def isAllowed (c : Char) : Bool :=
  let n := c.toNat
  n == 0x09 || n == 0x0A || n == 0x0D || (0x20 ≤ n && n ≤ 0x7E) || n == 0x85 ||
    (0xA0 ≤ n && n ≤ 0xD7FF) || (0xE000 ≤ n && n ≤ 0xFFFD) || 0x10000 ≤ n

/-! ### Positions -/

/-- A position in the text: the characters read, the line breaks passed, and the column on the
current line. -/
structure Mark where
  index : Nat
  line : Nat
  column : Nat
deriving Repr, DecidableEq, Inhabited

/-- The position after one more character on the same line. -/
def Mark.next (m : Mark) : Mark :=
  ⟨m.index + 1, m.line, m.column + 1⟩

/-- The position at the start of the next line, after a break of `width` characters. -/
def Mark.newLine (m : Mark) (width : Nat) : Mark :=
  ⟨m.index + width, m.line + 1, 0⟩

/-- The text still to read and the position where it starts. -/
structure Cursor where
  rest : List Char
  mark : Mark

namespace Cursor

/-- The character `k` places ahead, NUL past the end. -/
def ahead (c : Cursor) (k : Nat) : Char :=
  c.rest.getD k endChar

/-- The character at the position. -/
def here (c : Cursor) : Char :=
  c.ahead 0

/-- The cursor one character further, on the same line. -/
def skip (c : Cursor) : Cursor :=
  ⟨c.rest.drop 1, c.mark.next⟩

/-- The cursor `n` characters further, on the same line. -/
def skipN (c : Cursor) : Nat → Cursor
  | 0 => c
  | n + 1 => (c.skip).skipN n

/-- The cursor past a line break; a carriage return and a line feed together are one break. -/
def skipLine (c : Cursor) : Cursor :=
  match c.rest with
  | '\r' :: '\n' :: rest => ⟨rest, c.mark.newLine 2⟩
  | ch :: rest => if isBreak ch then ⟨rest, c.mark.newLine 1⟩ else c
  | [] => c

/-- A line break as a scalar keeps it, and the cursor past it: the line and paragraph separators
stay themselves, every other break becomes a line feed. Nothing is read when no break is here. -/
def readLine (c : Cursor) : String × Cursor :=
  match c.rest with
  | '\r' :: '\n' :: rest => ("\n", ⟨rest, c.mark.newLine 2⟩)
  | ch :: rest =>
    if ch == '\u2028' || ch == '\u2029' then (String.singleton ch, ⟨rest, c.mark.newLine 1⟩)
    else if isBreak ch then ("\n", ⟨rest, c.mark.newLine 1⟩)
    else ("", c)
  | [] => ("", c)

/-- The characters from the position on that satisfy `p`, none of them a line break, after the
ones already taken (latest first), and the cursor past them. -/
def takeWhileFrom (p : Char → Bool) : List Char → Mark → List Char → List Char × Cursor
  | ch :: rest, m, taken =>
    if p ch then takeWhileFrom p rest m.next (ch :: taken) else (taken.reverse, ⟨ch :: rest, m⟩)
  | [], m, taken => (taken.reverse, ⟨[], m⟩)

/-- The characters ahead that satisfy `p`, which must hold of no line break, and the cursor past
them. -/
def takeWhile (c : Cursor) (p : Char → Bool) : List Char × Cursor :=
  takeWhileFrom p c.rest c.mark []

/-- The cursor past the characters ahead that satisfy `p`, which must hold of no line break. -/
def skipWhile (c : Cursor) (p : Char → Bool) : Cursor :=
  (c.takeWhile p).2

/-- Whether the three characters ahead are `ch` and a blank, a break or the end follows: a
document marker when at the start of a line. -/
def atMarker (c : Cursor) (ch : Char) : Bool :=
  c.ahead 0 == ch && c.ahead 1 == ch && c.ahead 2 == ch && isBlankOrEnd (c.ahead 3)

/-- Whether a document start `---` or end `...` marker stands at the start of a line here. -/
def atDocumentMarker (c : Cursor) : Bool :=
  c.mark.column == 0 && (c.atMarker '-' || c.atMarker '.')

end Cursor

end PeerGate.Yaml
