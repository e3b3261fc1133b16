import PeerGate.Yaml.Token

/-!
Scanning scalars.

A scalar is written in one of five styles. A plain scalar stops before `: `, before ` #`, at a
document marker, and in a flow collection also before `,`, `[`, `]`, `{` and `}`; a `:` right
before one of `,?[]{}` inside a flow collection is refused. Its continuation lines must be
indented deeper than the collection around it. Quoted scalars run to their closing quote: the
single-quoted one writes a quote as two quotes, the double-quoted one has backslash escapes,
among them `\x`, `\u` and `\U` with two, four or eight hexadecimal digits, and a backslash before
a line break joins the lines without a space.

Multi-line plain and quoted scalars are folded: a single line break becomes a space, a run of
breaks keeps all but the first, and blanks around breaks are dropped (`Folding.join`). The line
and paragraph separators are never folded away.

A block scalar, literal `|` or folded `>`, has an optional chomping indicator `+` or `-` and an
optional indentation digit 1 to 9, in either order, then a comment at most. Its indentation is
the digit added to the enclosing indentation, or else the deepest indentation among its leading
empty lines and its first content line, at least one more than the enclosing indentation. A tab
where indentation is expected is refused. A folded scalar joins adjacent lines that do not start
with a blank by a space. The final line break is kept (clip), dropped (`-`) or kept with the
empty lines after it (`+`).

* `flowScalar`, `plainScalar`, `blockScalar`: the token of a scalar that starts at the cursor,
  and the cursor after it; `plainScalar` also says whether it ended after a line break.
-/

namespace PeerGate.Yaml

/-- A scalar being read: its text so far, the first line break of the current gap between
content, the breaks after it, and the blanks read since the last content. -/
structure Folding where
  text : String := ""
  leadingBreak : String := ""
  trailingBreaks : String := ""
  whitespace : String := ""

namespace Folding

/-- Closes the gap before more content. After line breaks (`afterBreak`) a first line feed folds
into a space when no empty lines follow it, and into the empty lines' breaks otherwise; any other
first break is kept with the ones after it. Without a break the blanks are kept. -/
def join (f : Folding) (afterBreak : Bool) : Folding :=
  if afterBreak then
    if f.leadingBreak.startsWith "\n" then
      if f.trailingBreaks.isEmpty then { f with text := f.text.push ' ', leadingBreak := "" }
      else { f with text := f.text ++ f.trailingBreaks, leadingBreak := "", trailingBreaks := "" }
    else
      { f with text := f.text ++ f.leadingBreak ++ f.trailingBreaks, leadingBreak := "",
               trailingBreaks := "" }
  else { f with text := f.text ++ f.whitespace, whitespace := "" }

end Folding

/-- Reads the blanks and line breaks ahead into the gap. Blanks before the first break are kept
in case no break follows; the first break starts the gap's breaks. In a plain scalar (`indent`
given) a tab in the indentation of a continuation line is refused. -/
def readGap (indent : Option Int) : Nat → Cursor → Folding → Bool →
    Except Fault (Cursor × Folding × Bool)
  | 0, _, _, _ => .error ⟨"scalar too long"⟩
  | fuel + 1, c, f, afterBreak =>
    if isBlank c.here then
      let tabInIndent := match indent with
        | some i => afterBreak && (c.mark.column : Int) < i && c.here == '\t'
        | none => false
      if tabInIndent then .error ⟨"found a tab character that violates indentation"⟩
      else if afterBreak then readGap indent fuel c.skip f afterBreak
      else readGap indent fuel c.skip { f with whitespace := f.whitespace.push c.here } afterBreak
    else if isBreak c.here then
      let (br, c') := c.readLine
      if afterBreak then
        readGap indent fuel c' { f with trailingBreaks := f.trailingBreaks ++ br } true
      else readGap indent fuel c' { f with whitespace := "", leadingBreak := br } true
    else .ok (c, f, afterBreak)

/-! ### Quoted scalars -/

/-- What a backslash escape stands for: a character, or the number of hexadecimal digits of a
code point that follow. -/
def escapeOf : Char → Option (Char ⊕ Nat)
  | '0' => some (.inl '\x00')
  | 'a' => some (.inl '\x07')
  | 'b' => some (.inl '\x08')
  | 't' => some (.inl '\t')
  | '\t' => some (.inl '\t')
  | 'n' => some (.inl '\n')
  | 'v' => some (.inl '\x0B')
  | 'f' => some (.inl '\x0C')
  | 'r' => some (.inl '\r')
  | 'e' => some (.inl '\x1B')
  | ' ' => some (.inl ' ')
  | '"' => some (.inl '"')
  | '/' => some (.inl '/')
  | '\\' => some (.inl '\\')
  | 'N' => some (.inl '\u0085')
  | '_' => some (.inl '\u00A0')
  | 'L' => some (.inl '\u2028')
  | 'P' => some (.inl '\u2029')
  | 'x' => some (.inr 2)
  | 'u' => some (.inr 4)
  | 'U' => some (.inr 8)
  | _ => none

/-- The value of hexadecimal digits. -/
def hexNumber (ds : List Char) : Nat :=
  ds.foldl (fun acc d => acc * 16 + hexValue d) 0

/-- The character an escape `\x`, `\u` or `\U` with `width` digits at the cursor names, and the
cursor after the digits; surrogates and values past U+10FFFF are refused. -/
def codePoint (c : Cursor) (width : Nat) : Except Fault (Char × Cursor) :=
  let ds := (List.range width).map c.ahead
  if !ds.all isHexDigit then .error ⟨"did not find expected hexdecimal number"⟩
  else
    let v := hexNumber ds
    if (0xD800 ≤ v && v ≤ 0xDFFF) || 0x10FFFF < v then
      .error ⟨"found invalid Unicode character escape code"⟩
    else .ok (Char.ofNat v, c.skipN width)

/-- Reads content of a quoted scalar up to a blank, a break, the end or the closing quote.
Returns whether it stopped after an escaped line break, which starts a gap without a first
break. -/
def quotedRun (single : Bool) : Nat → Cursor → Folding → Except Fault (Cursor × Folding × Bool)
  | 0, _, _ => .error ⟨"scalar too long"⟩
  | fuel + 1, c, f =>
    let quote := if single then '\'' else '"'
    if isBlankOrEnd c.here then .ok (c, f, false)
    else if single && c.here == '\'' && c.ahead 1 == '\'' then
      quotedRun single fuel (c.skipN 2) { f with text := f.text.push '\'' }
    else if c.here == quote then .ok (c, f, false)
    else if !single && c.here == '\\' && isBreak (c.ahead 1) then
      .ok (c.skip.skipLine, f, true)
    else if !single && c.here == '\\' then
      match escapeOf (c.ahead 1) with
      | none => .error ⟨"found unknown escape character"⟩
      | some (.inl ch) => quotedRun single fuel (c.skipN 2) { f with text := f.text.push ch }
      | some (.inr width) =>
        match codePoint (c.skipN 2) width with
        | .error e => .error e
        | .ok (ch, c') => quotedRun single fuel c' { f with text := f.text.push ch }
    else quotedRun single fuel c.skip { f with text := f.text.push c.here }

/-- Reads a quoted scalar's content and gaps until its closing quote, which is left at the
cursor. A document marker at the start of a line or the end of the text inside is refused. -/
def quotedBody (single : Bool) : Nat → Cursor → Folding → Except Fault (String × Cursor)
  | 0, _, _ => .error ⟨"scalar too long"⟩
  | fuel + 1, c, f =>
    let quote := if single then '\'' else '"'
    if c.atDocumentMarker then .error ⟨"found unexpected document indicator"⟩
    else if c.here == endChar then .error ⟨"found unexpected end of stream"⟩
    else
      match quotedRun single (c.rest.length + 1) c f with
      | .error e => .error e
      | .ok (c, f, afterBreak) =>
        if c.here == quote then .ok (f.text, c)
        else
          match readGap none (c.rest.length + 1) c f afterBreak with
          | .error e => .error e
          | .ok (c, f, afterBreak) => quotedBody single fuel c (f.join afterBreak)

/-- The token of a quoted scalar starting with its opening quote at the cursor, and the cursor
past its closing quote. -/
def flowScalar (single : Bool) (c : Cursor) : Except Fault (Token × Cursor) :=
  match quotedBody single (c.rest.length + 1) c.skip {} with
  | .error e => .error e
  | .ok (text, c') =>
    .ok (.scalar text (if single then .singleQuoted else .doubleQuoted), c'.skip)

/-! ### Plain scalars -/

/-- Whether a character ends a plain scalar inside a flow collection. -/
def isFlowIndicator (c : Char) : Bool :=
  c == ',' || c == '[' || c == ']' || c == '{' || c == '}'

/-- Reads content of a plain scalar up to a blank, a break, the end, `: ` or, inside a flow
collection, a flow indicator, first closing the gap before it. -/
def plainRun (flow : Bool) : Nat → Cursor → Folding → Bool →
    Except Fault (Cursor × Folding × Bool)
  | 0, _, _, _ => .error ⟨"scalar too long"⟩
  | fuel + 1, c, f, afterBreak =>
    if isBlankOrEnd c.here then .ok (c, f, afterBreak)
    else if flow && c.here == ':' && (isFlowIndicator (c.ahead 1) || c.ahead 1 == '?') then
      .error ⟨"found unexpected colon"⟩
    else if (c.here == ':' && isBlankOrEnd (c.ahead 1)) || (flow && isFlowIndicator c.here) then
      .ok (c, f, afterBreak)
    else
      let f := if afterBreak || !f.whitespace.isEmpty then f.join afterBreak else f
      plainRun flow fuel c.skip { f with text := f.text.push c.here } false

/-- Reads a plain scalar's lines: content, then blanks and breaks, while the next line is
indented at least `indent` (in a block) and starts neither a comment nor a document marker. -/
def plainBody (flow : Bool) (indent : Int) : Nat → Cursor → Folding → Bool →
    Except Fault (String × Cursor × Bool)
  | 0, _, _, _ => .error ⟨"scalar too long"⟩
  | fuel + 1, c, f, afterBreak =>
    if c.atDocumentMarker || c.here == '#' then .ok (f.text, c, afterBreak)
    else
      match plainRun flow (c.rest.length + 1) c f afterBreak with
      | .error e => .error e
      | .ok (c, f, afterBreak) =>
        if !(isBlank c.here || isBreak c.here) then .ok (f.text, c, afterBreak)
        else
          match readGap (some indent) (c.rest.length + 1) c f afterBreak with
          | .error e => .error e
          | .ok (c, f, afterBreak) =>
            if !flow && (c.mark.column : Int) < indent then .ok (f.text, c, afterBreak)
            else plainBody flow indent fuel c f afterBreak

/-- The token of a plain scalar starting at the cursor inside a collection indented `parent`,
the cursor after it, and whether the scalar ended after a line break. -/
def plainScalar (flow : Bool) (parent : Int) (c : Cursor) : Except Fault (Token × Cursor × Bool) :=
  match plainBody flow (parent + 1) (c.rest.length + 1) c {} false with
  | .error e => .error e
  | .ok (text, c', afterBreak) => .ok (.scalar text .plain, c', afterBreak)

/-! ### Block scalars -/

/-- How a block scalar treats its final line break: keep it alone, drop it, or keep it with the
empty lines after it. -/
inductive Chomping where
  | clip
  | strip
  | keep
deriving Repr, DecidableEq

/-- The chomping indicator `c` stands for, if it is one. -/
def chompingOf (c : Char) : Option Chomping :=
  if c == '-' then some .strip else if c == '+' then some .keep else none

/-- The indicators after `|` or `>`: chomping and indentation digit, in either order; the digit
may not be 0. -/
def blockIndicators (c : Cursor) : Except Fault (Chomping × Nat × Cursor) :=
  match chompingOf c.here with
  | some ch =>
    let c := c.skip
    if c.here == '0' then .error ⟨"found an indentation indicator equal to 0"⟩
    else if c.here.isDigit then .ok (ch, c.here.toNat - '0'.toNat, c.skip)
    else .ok (ch, 0, c)
  | none =>
    if c.here == '0' then .error ⟨"found an indentation indicator equal to 0"⟩
    else if c.here.isDigit then
      let n := c.here.toNat - '0'.toNat
      let c := c.skip
      match chompingOf c.here with
      | some ch => .ok (ch, n, c.skip)
      | none => .ok (.clip, n, c)
    else .ok (.clip, 0, c)

/-- Skips indentation spaces: all of them while the indentation is still to be found
(`indent = 0`), else up to column `indent`. -/
def skipIndent (indent : Int) : Nat → Cursor → Cursor
  | 0, c => c
  | fuel + 1, c =>
    if (indent == 0 || (c.mark.column : Int) < indent) && c.here == ' ' then
      skipIndent indent fuel c.skip
    else c

/-- Reads the empty lines before a block scalar's next content line into `breaks`, tracking the
deepest indentation seen. A tab in the indentation is refused. -/
def blockGap (indent : Int) : Nat → Nat → Cursor → String →
    Except Fault (Nat × String × Cursor)
  | 0, _, _, _ => .error ⟨"scalar too long"⟩
  | fuel + 1, deepest, c, breaks =>
    let c := skipIndent indent (c.rest.length + 1) c
    let deepest := max deepest c.mark.column
    if (indent == 0 || (c.mark.column : Int) < indent) && c.here == '\t' then
      .error ⟨"found a tab character where an indentation space is expected"⟩
    else if !isBreak c.here then .ok (deepest, breaks, c)
    else
      let (br, c') := c.readLine
      blockGap indent fuel deepest c' (breaks ++ br)

/-- A block scalar's lines at indentation `indent`, after the text so far: the line break that
ended the last line, the empty lines after it, and whether that line started with a blank. -/
def blockLines (folded : Bool) (indent : Int) : Nat → Cursor → Folding → Bool →
    Except Fault (Cursor × Folding)
  | 0, _, _, _ => .error ⟨"scalar too long"⟩
  | fuel + 1, c, f, leadingBlank =>
    if (c.mark.column : Int) == indent && c.here != endChar then
      let trailingBlank := isBlank c.here
      let f :=
        if folded && f.leadingBreak.startsWith "\n" && !leadingBlank && !trailingBlank then
          { f with text := if f.trailingBreaks.isEmpty then f.text.push ' ' else f.text,
                   leadingBreak := "" }
        else { f with text := f.text ++ f.leadingBreak, leadingBreak := "" }
      let f := { f with text := f.text ++ f.trailingBreaks, trailingBreaks := "" }
      let (line, c) := c.takeWhile (fun ch => !isBreakOrEnd ch)
      let (br, c) := c.readLine
      match blockGap indent (c.rest.length + 1) 0 c "" with
      | .error e => .error e
      | .ok (_, breaks, c) =>
        blockLines folded indent fuel c
          { f with text := f.text ++ String.ofList line, leadingBreak := br,
                   trailingBreaks := breaks } trailingBlank
    else .ok (c, f)

/-- The token of a block scalar whose indicator `|` (`literal`) or `>` is at the cursor, inside a
collection indented `parent`, and the cursor after it. -/
def blockScalar (literal : Bool) (parent : Int) (c : Cursor) : Except Fault (Token × Cursor) := do
  let (chomping, increment, c) ← blockIndicators c.skip
  let c := c.skipWhile isBlank
  let c := if c.here == '#' then c.skipWhile (fun ch => !isBreakOrEnd ch) else c
  if !isBreakOrEnd c.here then throw ⟨"did not find expected comment or line break"⟩
  let c := if isBreak c.here then c.skipLine else c
  let given : Int :=
    if increment == 0 then 0 else if 0 ≤ parent then parent + increment else increment
  let (deepest, breaks, c) ← blockGap given (c.rest.length + 1) 0 c ""
  let indent : Int := if given == 0 then max (max (deepest : Int) (parent + 1)) 1 else given
  let (c, f) ← blockLines (!literal) indent (c.rest.length + 1) c { trailingBreaks := breaks } false
  let text := match chomping with
    | .strip => f.text
    | .clip => f.text ++ f.leadingBreak
    | .keep => f.text ++ f.leadingBreak ++ f.trailingBreaks
  return (.scalar text (if literal then .literal else .folded), c)

end PeerGate.Yaml
