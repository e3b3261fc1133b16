import PeerGate.Yaml.Token.Scalar
import PeerGate.Yaml.Token.Property

/-!
Cutting YAML text into tokens.

Block collections are written by indentation alone. The scanner keeps the indentation of the open
block collections: a `-`, a `?` or a key further right than the current indentation opens a
sequence or a mapping, and each line that starts further left closes collections until its
column is reached. Flow collections `[...]` and `{...}` count their nesting instead, and inside
them indentation means nothing.

A key without `?` is recognised only when its `:` arrives. So every token that could start such a
key, a scalar, an alias, a property or a flow collection, is remembered as a possible simple key,
one for each level of flow nesting. When a `:` follows, a key token (and in a block, the start of
a mapping) is put in front of the remembered token. A possible key lapses at the next line, or
more than 1024 characters later; when it stood where the indentation requires a key, its lapse is
refused. Tabs may not stand in indentation: in a block, where a key could start, a tab is no
blank.

Before scanning, every character must be one a YAML text may contain (`isAllowed`).

* `Scanner`: the scanner's state.
* `Scanner.fetch`: the next tokens, from one indicator or scalar.
* `tokenize`: the tokens of a whole text, ending with `Token.streamEnd`.
-/

namespace PeerGate.Yaml

/-- A place where a key without `?` may have started: whether it still may, whether the
indentation demands a key there, the number of the token that would follow the key, and its
position. -/
structure SimpleKey where
  possible : Bool
  required : Bool
  tokenNumber : Nat
  mark : Mark
deriving Repr, Inhabited

/-- The possible simple key of a level with none. -/
def SimpleKey.empty : SimpleKey :=
  ⟨false, false, 0, ⟨0, 0, 0⟩⟩

/-- Whether a possible key at `k` has lapsed at position `m`: it is on an earlier line, or more
than 1024 characters back. -/
def SimpleKey.stale (k : SimpleKey) (m : Mark) : Bool :=
  k.possible && (k.mark.line < m.line || k.mark.index + 1024 < m.index)

/-- The state of a scanner. -/
structure Scanner where
  cursor : Cursor
  flowLevel : Nat
  /-- The indentation of the innermost open block collection, `-1` at the top. -/
  indent : Int
  /-- The indentations of the enclosing block collections, innermost first. -/
  indents : List Int
  /-- Whether a simple key may start at the position. -/
  keyAllowed : Bool
  /-- The possible simple key of each flow level, innermost first. -/
  keys : List SimpleKey
  /-- The tokens so far. -/
  tokens : List Token

namespace Scanner

/-- The scanner at the start of a text, after the stream start token. -/
def start (text : List Char) : Scanner :=
  ⟨⟨text, ⟨0, 0, 0⟩⟩, 0, -1, [], true, [SimpleKey.empty], [.streamStart]⟩

/-- Whether the scanner is inside a flow collection. -/
def inFlow (s : Scanner) : Bool :=
  s.flowLevel != 0

/-- The scanner with a token appended. -/
def emit (s : Scanner) (t : Token) : Scanner :=
  { s with tokens := s.tokens ++ [t] }

/-- The scanner with a token put before the token numbered `n`. -/
def insertAt (s : Scanner) (n : Nat) (t : Token) : Scanner :=
  { s with tokens := s.tokens.take n ++ t :: s.tokens.drop n }

/-- The scanner with the innermost possible key replaced. -/
def setKey (s : Scanner) (k : SimpleKey) : Scanner :=
  { s with keys := k :: s.keys.drop 1 }

/-- Drops the innermost possible key; a required one may not be dropped. -/
def removeKey (s : Scanner) : Except Fault Scanner :=
  match s.keys with
  | k :: ks =>
    if k.possible && k.required then .error ⟨"could not find expected colon after a key"⟩
    else .ok { s with keys := { k with possible := false } :: ks }
  | [] => .ok s

/-- Remembers the position as a possible simple key, if a key may start here. -/
def saveKey (s : Scanner) : Except Fault Scanner :=
  if s.keyAllowed then
    let required := !s.inFlow && s.indent == (s.cursor.mark.column : Int)
    let k : SimpleKey := ⟨true, required, s.tokens.length, s.cursor.mark⟩
    (s.removeKey).map (·.setKey k)
  else .ok s

/-- A possible key as it stands at position `m`: no longer possible once lapsed; a required one
may not lapse. -/
def SimpleKey.lapse (m : Mark) (k : SimpleKey) : Except Fault SimpleKey :=
  if k.stale m then
    if k.required then .error ⟨"could not find expected colon after a key"⟩
    else .ok { k with possible := false }
  else .ok k

/-- Lets the possible keys that lapsed at the position go; a required one may not lapse. -/
def dropStaleKeys (s : Scanner) : Except Fault Scanner :=
  match s.keys.mapM (SimpleKey.lapse s.cursor.mark) with
  | .ok keys => .ok { s with keys := keys }
  | .error e => .error e

/-- Opens a block collection at `column` if it lies right of the indentation: the token `t`
starts it, appended or put before the token numbered `number`. -/
def rollIndent (s : Scanner) (column : Nat) (number : Option Nat) (t : Token) : Scanner :=
  if s.inFlow then s
  else if s.indent < column then
    let s := { s with indents := s.indent :: s.indents, indent := column }
    match number with
    | none => s.emit t
    | some n => s.insertAt n t
  else s

/-- Closes the block collections indented further than `column`, one block end each. -/
def unrollFrom (column : Int) : Int → List Int → List Token → Int × List Int × List Token
  | indent, indents, tokens =>
    if column < indent then
      match indents with
      | i :: is => unrollFrom column i is (tokens ++ [.blockEnd])
      | [] => (-1, [], tokens ++ [.blockEnd])
    else (indent, indents, tokens)

/-- Closes the block collections indented further than `column`. -/
def unrollIndent (s : Scanner) (column : Int) : Scanner :=
  if s.inFlow then s
  else
    let (indent, indents, tokens) := unrollFrom column s.indent s.indents s.tokens
    { s with indent := indent, indents := indents, tokens := tokens }

/-- Skips blanks, comments and line breaks up to the next token. A byte order mark at the start
of a line is skipped too. Tabs count as blanks only inside flow collections or where no key may
start; a line break in a block allows a key again. -/
def skipToToken : Nat → Scanner → Scanner
  | 0, s => s
  | fuel + 1, s =>
    let c := s.cursor
    let c := if c.mark.column == 0 && c.here == '\uFEFF' then c.skip else c
    let tabIsBlank := s.inFlow || !s.keyAllowed
    let c := c.skipWhile (fun ch => ch == ' ' || (tabIsBlank && ch == '\t'))
    let c := if c.here == '#' then c.skipWhile (fun ch => !isBreakOrEnd ch) else c
    if isBreak c.here then
      skipToToken fuel { s with cursor := c.skipLine, keyAllowed := s.keyAllowed || !s.inFlow }
    else { s with cursor := c }

/-! ### Fetching tokens -/

/-- The scanner after the end of the text: every block collection closed. -/
def fetchStreamEnd (s : Scanner) : Except Fault Scanner := do
  let s ← (s.unrollIndent (-1)).removeKey
  return { s with keyAllowed := false }.emit .streamEnd

/-- The scanner after a directive line. -/
def fetchDirective (s : Scanner) : Except Fault Scanner := do
  let s ← (s.unrollIndent (-1)).removeKey
  let (t, c) ← directive s.cursor
  return { s with keyAllowed := false, cursor := c }.emit t

/-- The scanner after a document marker `---` or `...`. -/
def fetchDocumentMarker (s : Scanner) (t : Token) : Except Fault Scanner := do
  let s ← (s.unrollIndent (-1)).removeKey
  return { s with keyAllowed := false, cursor := s.cursor.skipN 3 }.emit t

/-- The scanner after `[` or `{`, which may start a key. -/
def fetchFlowStart (s : Scanner) (t : Token) : Except Fault Scanner := do
  let s ← s.saveKey
  let s := { s with keys := SimpleKey.empty :: s.keys, flowLevel := s.flowLevel + 1 }
  return { s with keyAllowed := true, cursor := s.cursor.skip }.emit t

/-- The scanner after `]` or `}`. -/
def fetchFlowEnd (s : Scanner) (t : Token) : Except Fault Scanner := do
  let s ← s.removeKey
  let s := if s.inFlow then { s with flowLevel := s.flowLevel - 1, keys := s.keys.drop 1 } else s
  return { s with keyAllowed := false, cursor := s.cursor.skip }.emit t

/-- The scanner after `,` in a flow collection. -/
def fetchFlowEntry (s : Scanner) : Except Fault Scanner := do
  let s ← s.removeKey
  return { s with keyAllowed := true, cursor := s.cursor.skip }.emit .flowEntry

/-- The scanner after `-` and a blank: in a block an item, which may open a sequence; a key may
follow. -/
def fetchBlockEntry (s : Scanner) : Except Fault Scanner := do
  let s ← if s.inFlow then pure s
    else if !s.keyAllowed then throw ⟨"block sequence entries are not allowed in this context"⟩
    else pure (s.rollIndent s.cursor.mark.column none .blockSequenceStart)
  let s ← s.removeKey
  return { s with keyAllowed := true, cursor := s.cursor.skip }.emit .blockEntry

/-- The scanner after `?`: a key, which in a block may open a mapping. -/
def fetchKey (s : Scanner) : Except Fault Scanner := do
  let s ← if s.inFlow then pure s
    else if !s.keyAllowed then throw ⟨"mapping keys are not allowed in this context"⟩
    else pure (s.rollIndent s.cursor.mark.column none .blockMappingStart)
  let s ← s.removeKey
  return { s with keyAllowed := !s.inFlow, cursor := s.cursor.skip }.emit .key

/-- The scanner after `:`. After a possible simple key, the key token is put before it, and in a
block a mapping may open at its column; otherwise the value follows a `?` key or an empty one. -/
def fetchValue (s : Scanner) : Except Fault Scanner := do
  let k := s.keys.headD SimpleKey.empty
  let s ← if k.possible then
      let s := s.insertAt k.tokenNumber .key
      let s := s.rollIndent k.mark.column (some k.tokenNumber) .blockMappingStart
      pure { (s.setKey { k with possible := false }) with keyAllowed := false }
    else if s.inFlow then pure { s with keyAllowed := false }
    else if !s.keyAllowed then throw ⟨"mapping values are not allowed in this context"⟩
    else pure { (s.rollIndent s.cursor.mark.column none .blockMappingStart) with keyAllowed := true }
  return { s with cursor := s.cursor.skip }.emit .value

/-- The scanner after an alias or an anchor, which may start a key. -/
def fetchAliasOrAnchor (s : Scanner) (isAlias : Bool) : Except Fault Scanner := do
  let s ← s.saveKey
  let (t, c) ← aliasOrAnchor isAlias s.cursor
  return { s with keyAllowed := false, cursor := c }.emit t

/-- The scanner after a tag, which may start a key. -/
def fetchTag (s : Scanner) : Except Fault Scanner := do
  let s ← s.saveKey
  let (t, c) ← tagToken s.inFlow s.cursor
  return { s with keyAllowed := false, cursor := c }.emit t

/-- The scanner after a block scalar; a key may follow it. -/
def fetchBlockScalar (s : Scanner) (literal : Bool) : Except Fault Scanner := do
  let s ← s.removeKey
  let (t, c) ← blockScalar literal s.indent s.cursor
  return { s with keyAllowed := true, cursor := c }.emit t

/-- The scanner after a quoted scalar, which may be a key. -/
def fetchFlowScalar (s : Scanner) (single : Bool) : Except Fault Scanner := do
  let s ← s.saveKey
  let (t, c) ← flowScalar single s.cursor
  return { s with keyAllowed := false, cursor := c }.emit t

/-- The scanner after a plain scalar, which may be a key; another key may follow it only when it
ended after a line break. -/
def fetchPlainScalar (s : Scanner) : Except Fault Scanner := do
  let s ← s.saveKey
  let (t, c, afterBreak) ← plainScalar s.inFlow s.indent s.cursor
  return { s with keyAllowed := afterBreak, cursor := c }.emit t

/-- Whether a plain scalar may start here: not at a blank, a break or an indicator, except `-`,
and in a block `?` and `:`, before a character that is no blank. -/
def startsPlain (s : Scanner) : Bool :=
  let c := s.cursor
  let ch := c.here
  let indicator := isBlankOrEnd ch || ['-', '?', ':', ',', '[', ']', '\x7b', '\x7d', '#', '&', '*',
    '!', '|', '>', '\'', '"', '%', '@', '\x60'].contains ch
  !indicator || (ch == '-' && !isBlank (c.ahead 1)) ||
    (!s.inFlow && (ch == '?' || ch == ':') && !isBlankOrEnd (c.ahead 1))

/-- Reads the next token or tokens: skips to the next token, lets lapsed keys go, closes the
block collections left of it, and reads what the character there starts. Also says whether the
stream ended. -/
def fetch (s : Scanner) : Except Fault (Scanner × Bool) := do
  let s := skipToToken (s.cursor.rest.length + 1) s
  let s ← s.dropStaleKeys
  let s := s.unrollIndent s.cursor.mark.column
  let c := s.cursor
  let ch := c.here
  if ch == endChar then return (← s.fetchStreamEnd, true)
  let s ←
    if c.mark.column == 0 && ch == '%' then s.fetchDirective
    else if c.mark.column == 0 && c.atMarker '-' then s.fetchDocumentMarker .documentStart
    else if c.mark.column == 0 && c.atMarker '.' then s.fetchDocumentMarker .documentEnd
    else if ch == '[' then s.fetchFlowStart .flowSequenceStart
    else if ch == '\x7b' then s.fetchFlowStart .flowMappingStart
    else if ch == ']' then s.fetchFlowEnd .flowSequenceEnd
    else if ch == '\x7d' then s.fetchFlowEnd .flowMappingEnd
    else if ch == ',' then s.fetchFlowEntry
    else if ch == '-' && isBlankOrEnd (c.ahead 1) then s.fetchBlockEntry
    else if ch == '?' && (s.inFlow || isBlankOrEnd (c.ahead 1)) then s.fetchKey
    else if ch == ':' && (s.inFlow || isBlankOrEnd (c.ahead 1)) then s.fetchValue
    else if ch == '*' then s.fetchAliasOrAnchor true
    else if ch == '&' then s.fetchAliasOrAnchor false
    else if ch == '!' then s.fetchTag
    else if ch == '|' && !s.inFlow then s.fetchBlockScalar true
    else if ch == '>' && !s.inFlow then s.fetchBlockScalar false
    else if ch == '\'' then s.fetchFlowScalar true
    else if ch == '"' then s.fetchFlowScalar false
    else if s.startsPlain then s.fetchPlainScalar
    else throw ⟨"found character that cannot start any token"⟩
  return (s, false)

/-- Fetches tokens until the stream ends. -/
def run : Nat → Scanner → Except Fault (List Token)
  | 0, _ => .error ⟨"text too long"⟩
  | fuel + 1, s =>
    match s.fetch with
    | .error e => .error e
    | .ok (s', done) => if done then .ok s'.tokens else run fuel s'

end Scanner

/-- The tokens of a YAML text, from the stream start to the stream end. -/
def tokenize (text : String) : Except Fault (List Token) :=
  let cs := text.toList
  if cs.all isAllowed then Scanner.run (cs.length + 2) (Scanner.start cs)
  else .error ⟨"control characters are not allowed"⟩

end PeerGate.Yaml
