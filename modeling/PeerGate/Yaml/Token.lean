import PeerGate.Yaml.Cursor

/-!
The tokens of YAML text.

A scanner cuts YAML text into tokens: the markers of the stream and of documents, directives,
the indicators of block and flow collections, keys and values, the properties of nodes (anchors
and tags), references to anchored nodes, and scalars with the style they were written in. Block
collections have no written start or end; the scanner makes their tokens from the indentation.

Tags are byte strings, because a tag may spell any byte with a URI escape `%XX`.

* `ScalarStyle`: plain, single or double quoted, literal `|` or folded `>`.
* `Token`: one token.
-/

namespace PeerGate.Yaml

/-- How a scalar is written. -/
inductive ScalarStyle where
  | plain
  | singleQuoted
  | doubleQuoted
  | literal
  | folded
deriving Repr, DecidableEq, Inhabited

/-- A tag or a part of one, as bytes. -/
abbrev TagBytes := List UInt8

/-- The bytes of a text. -/
def textBytes (s : String) : TagBytes :=
  s.toUTF8.toList

/-- A token of YAML text. -/
inductive Token where
  | streamStart
  | streamEnd
  /-- `%YAML major.minor` -/
  | versionDirective (major minor : Nat)
  /-- `%TAG handle tag-prefix` -/
  | tagDirective (handle : String) (tagPrefix : TagBytes)
  | documentStart
  | documentEnd
  | blockSequenceStart
  | blockMappingStart
  | blockEnd
  | flowSequenceStart
  | flowSequenceEnd
  | flowMappingStart
  | flowMappingEnd
  /-- `-` before an item of a block sequence. -/
  | blockEntry
  /-- `,` between the entries of a flow collection. -/
  | flowEntry
  | key
  | value
  /-- `*name`, standing for the node anchored as `name`. -/
  | aliasTo (name : String)
  /-- `&name` -/
  | anchor (name : String)
  /-- A tag with its handle, or the empty handle for a tag given whole. -/
  | tag (handle : String) (suffix : TagBytes)
  | scalar (text : String) (style : ScalarStyle)
deriving Repr, DecidableEq, Inhabited

end PeerGate.Yaml
