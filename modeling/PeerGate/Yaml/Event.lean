import PeerGate.Yaml.Token.Lexer

/-!
Parsing YAML tokens into events.

The parser reads the tokens of a stream and reports its structure as events: the stream and
each document start and end, a scalar, the start and end of a sequence or a mapping, and an
alias. It is a state machine with a stack of states to return to, one state for each place in the
grammar.

A document starts implicitly with its content, or with `---` after its directives: at most one
`%YAML 1.1` or `%YAML 1.2`, and `%TAG` directives with distinct handles. The handles `!` and `!!`
stand for `!` and `tag:yaml.org,2002:` unless a directive says otherwise; a tag with any other
handle must have been declared. A tag as an event carries it spelt out, cut at a NUL byte. A
node's properties, anchor and tag in either order, come before its content; properties without
content stand for an empty plain scalar, as does a missing key or value.

* `Event`: one event.
* `Parser.step`: the next event.
* `parseEvents`: the events of a whole stream.
-/

namespace PeerGate.Yaml

/-- An event of a YAML stream. -/
inductive Event where
  | streamStart
  | streamEnd
  | documentStart
  | documentEnd
  | aliasTo (name : String)
  | scalar (anchor : Option String) (tag : Option TagBytes) (text : String) (style : ScalarStyle)
  | sequenceStart (anchor : Option String) (tag : Option TagBytes)
  | sequenceEnd
  | mappingStart (anchor : Option String) (tag : Option TagBytes)
  | mappingEnd
deriving Repr, Inhabited

/-- A place in the grammar of a stream. -/
inductive ParseState where
  | streamStart
  | implicitDocumentStart
  | documentStart
  | documentContent
  | documentEnd
  | blockNode
  | blockNodeOrIndentlessSequence
  | flowNode
  | blockSequenceFirstEntry
  | blockSequenceEntry
  | indentlessSequenceEntry
  | blockMappingFirstKey
  | blockMappingKey
  | blockMappingValue
  | flowSequenceFirstEntry
  | flowSequenceEntry
  | flowSequenceEntryMappingKey
  | flowSequenceEntryMappingValue
  | flowSequenceEntryMappingEnd
  | flowMappingFirstKey
  | flowMappingKey
  | flowMappingValue
  | flowMappingEmptyValue
  | finished
deriving Repr, DecidableEq, Inhabited

/-- The handles every document has and the tag prefixes they stand for. -/
def defaultTagHandles : List (String × TagBytes) :=
  [("!", textBytes "!"), ("!!", textBytes "tag:yaml.org,2002:")]

/-- The bytes before the first NUL byte. -/
def beforeNul (bs : TagBytes) : TagBytes :=
  bs.takeWhile (· != 0)

/-- The state of a parser. -/
structure Parser where
  tokens : List Token
  state : ParseState
  /-- The states to return to, innermost first. -/
  states : List ParseState
  /-- The tag handles of the current document and their prefixes, in the order declared. -/
  handles : List (String × TagBytes)

namespace Parser

/-- The next token; the stream end stands past the last one. -/
def peek (p : Parser) : Token :=
  p.tokens.headD .streamEnd

/-- The parser past the next token. -/
def advance (p : Parser) : Parser :=
  { p with tokens := p.tokens.drop 1 }

/-- The parser returned to the state on top of the stack. -/
def pop (p : Parser) : Parser :=
  { p with state := p.states.headD .finished, states := p.states.drop 1 }

/-- The parser with a state to return to pushed. -/
def push (p : Parser) (st : ParseState) : Parser :=
  { p with states := st :: p.states }

/-- An empty plain scalar in the state `st`. -/
def empty (p : Parser) (st : ParseState) : Event × Parser :=
  (.scalar none none "" .plain, { p with state := st })

/-- A tag spelt out: the prefix of its handle before the suffix, or the suffix alone for the
empty handle. -/
def resolveTag (p : Parser) (handle : String) (suffix : TagBytes) : Except Fault TagBytes :=
  if handle.isEmpty then .ok (beforeNul suffix)
  else
    match p.handles.lookup handle with
    | some pre => .ok (beforeNul pre ++ beforeNul suffix)
    | none => .error ⟨"found undefined tag handle"⟩

/-- The anchor and the tag written before a node's content, in either order, and the parser
after them. -/
def properties (p : Parser) : Option String × Option (String × TagBytes) × Parser :=
  match p.tokens with
  | .anchor a :: .tag h s :: rest => (some a, some (h, s), { p with tokens := rest })
  | .anchor a :: rest => (some a, none, { p with tokens := rest })
  | .tag h s :: .anchor a :: rest => (some a, some (h, s), { p with tokens := rest })
  | .tag h s :: rest => (none, some (h, s), { p with tokens := rest })
  | _ => (none, none, p)

/-- A node: an alias, or properties and content. In a block (`block`) the content may be a block
collection; where an indentless sequence may stand (`indentless`), a `-` starts one. -/
def node (p : Parser) (block indentless : Bool) : Except Fault (Event × Parser) := do
  if let .aliasTo name := p.peek then return (.aliasTo name, p.advance.pop)
  let (anchor, tagRef, p) := p.properties
  let tag ← match tagRef with
    | some (h, s) => some <$> p.resolveTag h s
    | none => pure none
  match p.peek with
  | .blockEntry =>
    if indentless then return (.sequenceStart anchor tag, { p with state := .indentlessSequenceEntry })
  | .scalar text style => return (.scalar anchor tag text style, p.advance.pop)
  | .flowSequenceStart => return (.sequenceStart anchor tag, { p with state := .flowSequenceFirstEntry })
  | .flowMappingStart => return (.mappingStart anchor tag, { p with state := .flowMappingFirstKey })
  | .blockSequenceStart =>
    if block then return (.sequenceStart anchor tag, { p with state := .blockSequenceFirstEntry })
  | .blockMappingStart =>
    if block then return (.mappingStart anchor tag, { p with state := .blockMappingFirstKey })
  | _ => pure ()
  if anchor.isSome || tag.isSome then return (.scalar anchor tag "" .plain, p.pop)
  throw ⟨"did not find expected node content"⟩

/-- The directives before a document, and the parser with the document's tag handles: the
declared ones, then the defaults not redeclared. -/
def directives (p : Parser) : Except Fault (Bool × Parser) :=
  go p.tokens.length false p
where
  go : Nat → Bool → Parser → Except Fault (Bool × Parser)
    | 0, _, _ => .error ⟨"too many directives"⟩
    | fuel + 1, versioned, p =>
      match p.peek with
      | .versionDirective major minor =>
        if versioned then .error ⟨"found duplicate %YAML directive"⟩
        else if major != 1 || (minor != 1 && minor != 2) then
          .error ⟨"found incompatible YAML document"⟩
        else go fuel true p.advance
      | .tagDirective handle pre =>
        if (p.handles.lookup handle).isSome then .error ⟨"found duplicate %TAG directive"⟩
        else go fuel versioned { p.advance with handles := p.handles ++ [(handle, pre)] }
      | _ =>
        let extra := defaultTagHandles.filter fun d => (p.handles.lookup d.1).isNone
        .ok (versioned, { p with handles := p.handles ++ extra })

/-- Whether a token starts or ends a document or the stream, where no node can stand. -/
def endsContent : Token → Bool
  | .versionDirective _ _ | .tagDirective _ _ | .documentStart | .documentEnd | .streamEnd => true
  | _ => false

/-- The start of a document, or the end of the stream. The first document may start with its
content (`implicit`); later ones skip stray `...` and need `---`. -/
def documentStart (p : Parser) (implicit : Bool) : Except Fault (Event × Parser) := do
  let p := if implicit then p else { p with tokens := p.tokens.dropWhile (· == .documentEnd) }
  match p.peek with
  | .streamEnd => return (.streamEnd, { p.advance with state := .finished })
  | .versionDirective _ _ | .tagDirective _ _ | .documentStart =>
    let (_, p) ← p.directives
    if p.peek != .documentStart then throw ⟨"did not find expected document start"⟩
    return (.documentStart, { (p.push .documentEnd).advance with state := .documentContent })
  | _ =>
    if implicit then
      let (_, p) ← p.directives
      return (.documentStart, { p.push .documentEnd with state := .blockNode })
    else
      let (_, p) ← p.directives
      if p.peek != .documentStart then throw ⟨"did not find expected document start"⟩
      return (.documentStart, { (p.push .documentEnd).advance with state := .documentContent })

/-- One event, by the state. -/
def step (p : Parser) : Except Fault (Event × Parser) :=
  match p.state with
  | .streamStart =>
    if p.peek == .streamStart then .ok (.streamStart, { p.advance with state := .implicitDocumentStart })
    else .error ⟨"did not find expected stream start"⟩
  | .implicitDocumentStart => p.documentStart true
  | .documentStart => p.documentStart false
  | .documentContent =>
    if endsContent p.peek then .ok (p.pop.empty p.pop.state) else p.node true false
  | .documentEnd =>
    let p := if p.peek == .documentEnd then p.advance else p
    .ok (.documentEnd, { p with state := .documentStart, handles := [] })
  | .blockNode => p.node true false
  | .blockNodeOrIndentlessSequence => p.node true true
  | .flowNode => p.node false false
  | .blockSequenceFirstEntry => blockSequenceEntry p.advance
  | .blockSequenceEntry => blockSequenceEntry p
  | .indentlessSequenceEntry =>
    if p.peek == .blockEntry then
      let p := p.advance
      match p.peek with
      | .blockEntry | .key | .value | .blockEnd => .ok (p.empty .indentlessSequenceEntry)
      | _ => (p.push .indentlessSequenceEntry).node true false
    else .ok (.sequenceEnd, p.pop)
  | .blockMappingFirstKey => blockMappingKey p.advance
  | .blockMappingKey => blockMappingKey p
  | .blockMappingValue =>
    if p.peek == .value then
      let p := p.advance
      match p.peek with
      | .key | .value | .blockEnd => .ok (p.empty .blockMappingKey)
      | _ => (p.push .blockMappingKey).node true true
    else .ok (p.empty .blockMappingKey)
  | .flowSequenceFirstEntry => flowSequenceEntry p.advance true
  | .flowSequenceEntry => flowSequenceEntry p false
  | .flowSequenceEntryMappingKey =>
    match p.peek with
    | .value | .flowEntry | .flowSequenceEnd =>
      .ok (p.advance.empty .flowSequenceEntryMappingValue)
    | _ => (p.push .flowSequenceEntryMappingValue).node false false
  | .flowSequenceEntryMappingValue =>
    if p.peek == .value then
      let p := p.advance
      match p.peek with
      | .flowEntry | .flowSequenceEnd => .ok (p.empty .flowSequenceEntryMappingEnd)
      | _ => (p.push .flowSequenceEntryMappingEnd).node false false
    else .ok (p.empty .flowSequenceEntryMappingEnd)
  | .flowSequenceEntryMappingEnd => .ok (.mappingEnd, { p with state := .flowSequenceEntry })
  | .flowMappingFirstKey => flowMappingKey p.advance true
  | .flowMappingKey => flowMappingKey p false
  | .flowMappingValue =>
    if p.peek == .value then
      let p := p.advance
      match p.peek with
      | .flowEntry | .flowMappingEnd => .ok (p.empty .flowMappingKey)
      | _ => (p.push .flowMappingKey).node false false
    else .ok (p.empty .flowMappingKey)
  | .flowMappingEmptyValue => .ok (p.empty .flowMappingKey)
  | .finished => .error ⟨"no events after the stream end"⟩
where
  blockSequenceEntry (p : Parser) : Except Fault (Event × Parser) :=
    match p.peek with
    | .blockEntry =>
      let p := p.advance
      match p.peek with
      | .blockEntry | .blockEnd => .ok (p.empty .blockSequenceEntry)
      | _ => (p.push .blockSequenceEntry).node true false
    | .blockEnd => .ok (.sequenceEnd, p.advance.pop)
    | _ => .error ⟨"did not find expected block sequence entry"⟩
  blockMappingKey (p : Parser) : Except Fault (Event × Parser) :=
    match p.peek with
    | .key =>
      let p := p.advance
      match p.peek with
      | .key | .value | .blockEnd => .ok (p.empty .blockMappingValue)
      | _ => (p.push .blockMappingValue).node true true
    | .blockEnd => .ok (.mappingEnd, p.advance.pop)
    | _ => .error ⟨"did not find expected key"⟩
  flowSequenceEntry (p : Parser) (first : Bool) : Except Fault (Event × Parser) :=
    if p.peek == .flowSequenceEnd then .ok (.sequenceEnd, p.advance.pop)
    else if !first && p.peek != .flowEntry then
      .error ⟨"did not find expected comma or closing bracket"⟩
    else
      let p := if first then p else p.advance
      match p.peek with
      | .flowSequenceEnd => .ok (.sequenceEnd, p.advance.pop)
      | .key => .ok (.mappingStart none none, { p.advance with state := .flowSequenceEntryMappingKey })
      | _ => (p.push .flowSequenceEntry).node false false
  flowMappingKey (p : Parser) (first : Bool) : Except Fault (Event × Parser) :=
    if p.peek == .flowMappingEnd then .ok (.mappingEnd, p.advance.pop)
    else if !first && p.peek != .flowEntry then
      .error ⟨"did not find expected comma or closing brace"⟩
    else
      let p := if first then p else p.advance
      match p.peek with
      | .flowMappingEnd => .ok (.mappingEnd, p.advance.pop)
      | .key =>
        let p := p.advance
        match p.peek with
        | .value | .flowEntry | .flowMappingEnd => .ok (p.empty .flowMappingValue)
        | _ => (p.push .flowMappingValue).node false false
      | _ => (p.push .flowMappingEmptyValue).node false false

/-- Steps until the stream end, collecting the events after `acc` (latest first). -/
def run : Nat → Parser → List Event → Except Fault (List Event)
  | 0, _, _ => .error ⟨"too many events"⟩
  | fuel + 1, p, acc =>
    match p.step with
    | .error e => .error e
    | .ok (.streamEnd, _) => .ok (Event.streamEnd :: acc).reverse
    | .ok (e, p') => run fuel p' (e :: acc)

end Parser

/-- The events of a YAML text. -/
def parseEvents (text : String) : Except Fault (List Event) := do
  let tokens ← tokenize text
  Parser.run (4 * tokens.length + 4) ⟨tokens, .streamStart, [], []⟩ []

end PeerGate.Yaml
