import PeerGate.Yaml.Token

/-!
Scanning node properties, aliases and directives.

An anchor `&name` or an alias `*name` has a name of letters, digits, `_` and `-`, followed by a
blank, a break, the end or one of `?:,]}%@` and the backquote. A tag is written `!<uri>` (given
whole), `!handle!suffix` with a named handle, `!!suffix`, `!suffix`, or `!` alone, and must be
followed by a blank, a break, the end, or inside a flow collection a comma. Its characters are
those of URIs; `%XX` escapes spell bytes, each run of them one UTF-8 encoded character, and
inside `!<...>` and in a `%TAG` directive the characters `,[]` are allowed as well.

A directive starts a line with `%`: `%YAML major.minor` with numbers of at most nine digits, or
`%TAG handle tag-prefix`; any other name is refused. A comment may end the line.

* `aliasOrAnchor`, `tagToken`, `directive`: the token that starts at the cursor and the cursor
  after it.
-/

namespace PeerGate.Yaml

/-- The token of an anchor or (`isAlias`) an alias at the cursor, and the cursor after it. -/
def aliasOrAnchor (isAlias : Bool) (c : Cursor) : Except Fault (Token × Cursor) :=
  let (name, c') := c.skip.takeWhile isWordChar
  let next := c'.here
  let ends := isBlankOrEnd next || next == '?' || next == ':' || next == ',' || next == ']' ||
    next == '}' || next == '%' || next == '@' || next == '\x60'
  if name.isEmpty || !ends then .error ⟨"did not find expected alphabetic or numeric character"⟩
  else
    let name := String.ofList name
    .ok (if isAlias then .aliasTo name else .anchor name, c')

/-! ### Tags -/

/-- The characters of a tag: those of URIs, and in a whole tag or a tag prefix (`wide`) also
`,`, `[` and `]`. -/
def isUriChar (wide : Bool) (c : Char) : Bool :=
  isWordChar c || c == '\'' || ";/?:@&=+$.%!~*()".contains c || (wide && ",[]".contains c)

/-- The byte a URI escape `%XX` at the cursor spells, and the cursor after it. -/
def escapedByte (c : Cursor) : Except Fault (UInt8 × Cursor) :=
  if c.here == '%' && isHexDigit (c.ahead 1) && isHexDigit (c.ahead 2) then
    .ok ((hexValue (c.ahead 1) * 16 + hexValue (c.ahead 2)).toUInt8, c.skipN 3)
  else .error ⟨"did not find URI escaped octet"⟩

/-- The number of bytes of the UTF-8 encoded character a leading byte starts, if it can start
one. -/
def utf8Width (b : UInt8) : Option Nat :=
  if b &&& 0x80 == 0 then some 1
  else if b &&& 0xE0 == 0xC0 then some 2
  else if b &&& 0xF0 == 0xE0 then some 3
  else if b &&& 0xF8 == 0xF0 then some 4
  else none

/-- `n` more escaped bytes, each of the form `10xxxxxx`. -/
def trailingBytes : Nat → Cursor → Except Fault (List UInt8 × Cursor)
  | 0, c => .ok ([], c)
  | n + 1, c =>
    match escapedByte c with
    | .error e => .error e
    | .ok (b, c') =>
      if b &&& 0xC0 != 0x80 then .error ⟨"found an incorrect trailing UTF-8 octet"⟩
      else
        match trailingBytes n c' with
        | .error e => .error e
        | .ok (bs, c'') => .ok (b :: bs, c'')

/-- The bytes of one character written with URI escapes at the cursor. -/
def escapedChar (c : Cursor) : Except Fault (List UInt8 × Cursor) :=
  match escapedByte c with
  | .error e => .error e
  | .ok (b, c') =>
    match utf8Width b with
    | none => .error ⟨"found an incorrect leading UTF-8 octet"⟩
    | some w =>
      match trailingBytes (w - 1) c' with
      | .error e => .error e
      | .ok (bs, c'') => .ok (b :: bs, c'')

/-- The bytes of the tag characters ahead, after `acc` (latest first), how many characters or
escaped characters they were, and the cursor after them. -/
def uriRun (wide : Bool) : Nat → Cursor → List UInt8 → Nat →
    Except Fault (List UInt8 × Nat × Cursor)
  | 0, _, _, _ => .error ⟨"tag too long"⟩
  | fuel + 1, c, acc, count =>
    if !isUriChar wide c.here then .ok (acc.reverse, count, c)
    else if c.here == '%' then
      match escapedChar c with
      | .error e => .error e
      | .ok (bs, c') => uriRun wide fuel c' (bs.reverse ++ acc) (count + 1)
    else uriRun wide fuel c.skip (c.here.toNat.toUInt8 :: acc) (count + 1)

/-- The bytes of a tag's URI at the cursor and the cursor after it; `lead` is what was already
read of it, and the whole may not be empty. -/
def tagUri (wide : Bool) (lead : Nat) (c : Cursor) : Except Fault (List UInt8 × Cursor) :=
  match uriRun wide (c.rest.length + 1) c [] 0 with
  | .error e => .error e
  | .ok (bytes, count, c') =>
    if lead + count == 0 then .error ⟨"did not find expected tag URI"⟩ else .ok (bytes, c')

/-- A tag handle at the cursor: `!`, then name characters, then `!` if the handle is named. In a
directive (`directive`) a handle must be `!` or end with `!`; elsewhere the text read may turn out
to be the start of a suffix. -/
def tagHandle (directive : Bool) (c : Cursor) : Except Fault (String × Cursor) :=
  if c.here != '!' then .error ⟨"did not find expected exclamation mark"⟩
  else
    let (word, c') := c.skip.takeWhile isWordChar
    if c'.here == '!' then .ok ("!" ++ String.ofList word ++ "!", c'.skip)
    else if directive && !word.isEmpty then .error ⟨"did not find expected exclamation mark"⟩
    else .ok ("!" ++ String.ofList word, c')

/-- The token of a tag at the cursor inside a flow collection or not (`flow`), and the cursor
after it. -/
def tagToken (flow : Bool) (c : Cursor) : Except Fault (Token × Cursor) := do
  let (handle, suffix, c) ← show Except Fault (String × TagBytes × Cursor) from
    if c.ahead 1 == '<' then do
      let (uri, c) ← tagUri true 0 (c.skipN 2)
      if c.here != '>' then throw ⟨"did not find the expected closing angle bracket"⟩
      pure ("", uri, c.skip)
    else do
      let (handle, c) ← tagHandle false c
      if 2 ≤ handle.length && handle.endsWith "!" then
        let (uri, c) ← tagUri false 0 c
        pure (handle, uri, c)
      else
        let (uri, c) ← tagUri false handle.length c
        let suffix := textBytes (String.ofList (handle.toList.drop 1)) ++ uri
        if suffix.isEmpty then pure ("", textBytes "!", c) else pure ("!", suffix, c)
  if !isBlankOrEnd c.here && !(flow && c.here == ',') then
    throw ⟨"did not find expected whitespace or line break"⟩
  return (.tag handle suffix, c)

/-! ### Directives -/

/-- A version number of at most nine digits at the cursor. -/
def versionNumber (c : Cursor) : Except Fault (Nat × Cursor) :=
  let (ds, c') := c.takeWhile Char.isDigit
  if 9 < ds.length then .error ⟨"found extremely long version number"⟩
  else if ds.isEmpty then .error ⟨"did not find expected version number"⟩
  else .ok (ds.foldl (fun acc d => acc * 10 + (d.toNat - '0'.toNat)) 0, c')

/-- The token of a directive whose `%` is at the cursor, and the cursor at the start of the next
line. -/
def directive (c : Cursor) : Except Fault (Token × Cursor) := do
  let (name, c) := c.skip.takeWhile isWordChar
  if name.isEmpty then throw ⟨"could not find expected directive name"⟩
  if !isBlankOrEnd c.here then throw ⟨"found unexpected non-alphabetical character"⟩
  let (tok, c) ← show Except Fault (Token × Cursor) from
    if name == "YAML".toList then do
      let c := c.skipWhile isBlank
      let (major, c) ← versionNumber c
      if c.here != '.' then throw ⟨"did not find expected digit or dot"⟩
      let (minor, c) ← versionNumber c.skip
      pure (.versionDirective major minor, c)
    else if name == "TAG".toList then do
      let c := c.skipWhile isBlank
      let (handle, c) ← tagHandle true c
      if !isBlank c.here then throw ⟨"did not find expected whitespace"⟩
      let (tagPrefix, c) ← tagUri true 0 (c.skipWhile isBlank)
      if !isBlankOrEnd c.here then throw ⟨"did not find expected whitespace or line break"⟩
      pure (.tagDirective handle tagPrefix, c)
    else throw ⟨"found unknown directive name"⟩
  let c := c.skipWhile isBlank
  let c := if c.here == '#' then c.skipWhile (fun ch => !isBreakOrEnd ch) else c
  if !isBreakOrEnd c.here then throw ⟨"did not find expected comment or line break"⟩
  return (tok, if isBreak c.here then c.skipLine else c)

end PeerGate.Yaml
