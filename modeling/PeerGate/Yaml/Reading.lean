import PeerGate.Yaml.Document
import PeerGate.Text.Utf8

/-!
Reading typed values from a loaded YAML document.

A value is read from the node at a position of the document. An alias is followed to the node it
stands for; each alias followed counts, and a document may follow at most a hundred aliases for
each of its events, which bounds the work a document made of aliases of aliases can cause.

* A record is a mapping whose keys are scalars naming its fields, each field at most once; an
  empty plain scalar, or a stream without documents, is the record without fields.
* A list is a sequence; an empty plain scalar is the empty list.
* Text is any scalar, whatever its style and tag.
* An unsigned number is a plain scalar, whatever its tag, or a literal block scalar tagged as an
  integer, written as `unsignedValue?` says.
* A variant of a choice without data is named by a scalar, or by the local tag `!name` of a plain
  scalar that is empty or a null word.

* `Document.record`, `Document.listOf`, `Document.text`, `Document.unsigned`,
  `Document.variant`: the readers, in `Reading`, which counts the aliases followed.
-/

namespace PeerGate.Yaml

/-! ### Numbers -/

/-- The value of binary, octal, decimal or hexadecimal digits, if all are digits of the base and
there is at least one. -/
def digitsIn (base : Nat) (cs : List Char) : Option Nat :=
  let digit (c : Char) : Option Nat :=
    if '0' ≤ c ∧ c ≤ '9' then some (c.toNat - '0'.toNat)
    else if 'a' ≤ c ∧ c ≤ 'f' then some (c.toNat - 'a'.toNat + 10)
    else if 'A' ≤ c ∧ c ≤ 'F' then some (c.toNat - 'A'.toNat + 10)
    else none
  match cs with
  | [] => none
  | _ => cs.foldlM (fun acc c => (digit c).bind fun d => if d < base then some (acc * base + d) else none) 0

/-- Decimal digits that start with a zero and have more digits after it: such a scalar is text,
not a number. -/
def leadingZero (cs : List Char) : Bool :=
  match cs with
  | '0' :: d :: rest => (d :: rest).all Char.isDigit
  | _ => false

/-- The magnitude an unsigned numeral denotes, without its sign: `0x`, `0o` or `0b` before digits
of that base, or decimal digits without a leading zero. -/
def magnitude? (body : List Char) : Option Nat :=
  match body with
  | '0' :: 'x' :: rest => digitsIn 16 rest
  | '0' :: 'o' :: rest => digitsIn 8 rest
  | '0' :: 'b' :: rest => digitsIn 2 rest
  | _ => if leadingZero body then none else digitsIn 10 body

/-- A sign character. -/
def isSign (c : Char) : Bool :=
  c == '+' || c == '-'

/-- The unsigned integer a scalar text denotes: a numeral, with a `+` before it or not. -/
def unsignedValue? (text : List Char) : Option Nat :=
  match text with
  | '+' :: body => if (body.head?.map isSign).getD false then none else magnitude? body
  | '-' :: _ => none
  | body => magnitude? body

/-- The tag of integers in the core schema. -/
def intTag : TagBytes :=
  textBytes "tag:yaml.org,2002:int"

/-- Whether a scalar is read as a number: plain, or a literal block scalar tagged as an
integer. -/
def isNumeric (tag : Option TagBytes) (style : ScalarStyle) : Bool :=
  style == .plain || (style == .literal && tag == some intTag)

/-! ### Variants -/

/-- The words that stand for no value. -/
def isNullWord (text : String) : Bool :=
  text == "~" || text == "null" || text == "Null" || text == "NULL"

/-- The name a local tag gives: what follows its `!`, or `!` for the lone `!`; none for a tag
that is not local or not UTF-8. -/
def localTagName? (tag : Option TagBytes) : Option String :=
  match tag with
  | some (0x21 :: rest) =>
    let name := if rest.isEmpty then [0x21] else rest
    if Text.isWellFormed name then some (String.ofList (Text.decodeLossy name)) else none
  | _ => none

/-- Whether a step is the empty plain scalar, whatever its tag, or the whole of an empty stream:
the record without fields and the empty list. -/
def Step.isEmpty : Step → Bool
  | .scalar _ text .plain => text.isEmpty
  | .void => true
  | _ => false

/-! ### Reading -/

/-- A reader of values, counting the aliases it follows. -/
abbrev Reading := StateT Nat (Except Fault)

/-- Fails with a reason. -/
def fault {α : Type} (reason : String) : Reading α :=
  throw ⟨reason⟩

namespace Document

/-- The step at a position. -/
def stepAt (d : Document) (pos : Nat) : Reading Step :=
  match d.steps[pos]? with
  | some s => pure s
  | none => fault "unexpected end of document"

/-- Follows the alias numbered `id`: the position of its node, counting the alias followed. -/
def follow (d : Document) (id : Nat) : Reading Nat := do
  let jumps := (← get) + 1
  if d.steps.size * 100 < jumps then fault "repetition limit exceeded"
  set jumps
  match d.targets.lookup id with
  | some pos => pure pos
  | none => fault "unresolved alias"

/-- Reads the node at a position with `body`, which gets its first step and the position of
that step, after following an alias. -/
def node {α : Type} (d : Document) (body : Step → Nat → Reading α) (pos : Nat) : Reading α := do
  match ← d.stepAt pos with
  | .aliasTo id =>
    let target ← d.follow id
    body (← d.stepAt target) target
  | s => body s pos

/-- The position after a node whose steps start at `pos`, found by counting the starts and ends
of collections; `depth` collections are open. -/
def skipFrom (d : Document) : Nat → Nat → Nat → Option Nat
  | 0, _, _ => none
  | fuel + 1, pos, depth =>
    match d.steps[pos]? with
    | some (.sequenceStart _) | some (.mappingStart _) => d.skipFrom fuel (pos + 1) (depth + 1)
    | some .sequenceEnd | some .mappingEnd =>
      if depth ≤ 1 then some (pos + 1) else d.skipFrom fuel (pos + 1) (depth - 1)
    | some _ => if depth == 0 then some (pos + 1) else d.skipFrom fuel (pos + 1) depth
    | none => none

/-- The position after the node at `pos`. -/
def after (d : Document) (pos : Nat) : Reading Nat :=
  match d.skipFrom (d.steps.size + 1) pos 0 with
  | some next => pure next
  | none => fault "unexpected end of document"

/-- The positions of the nodes from `pos` to the end of the collection they are in. -/
def members (d : Document) : Nat → Nat → Reading (List Nat)
  | 0, _ => fault "unexpected end of document"
  | fuel + 1, pos => do
    match ← d.stepAt pos with
    | .sequenceEnd | .mappingEnd | .void => pure []
    | _ => return pos :: (← d.members fuel (← d.after pos))

/-- The text of a scalar. -/
def text (d : Document) : Nat → Reading String :=
  d.node fun s _ =>
    match s with
    | .scalar _ t _ => pure t
    | _ => fault "expected a string"

/-- An unsigned number below two to the power `bits`. -/
def unsigned (d : Document) (bits : Nat) : Nat → Reading Nat :=
  d.node fun s _ =>
    match s with
    | .scalar tag t style =>
      if isNumeric tag style then
        match unsignedValue? t.toList with
        | some v => if v < Nat.pow 2 bits then pure v else fault "number out of range"
        | none => fault "expected an unsigned integer"
      else fault "expected an unsigned integer"
    | _ => fault "expected an unsigned integer"

/-- The name of the variant a scalar chooses: under a local tag the tag's name, when the scalar
is plain and empty or a null word; otherwise its text. -/
def variant (d : Document) : Nat → Reading String :=
  d.node fun s _ =>
    match s with
    | .scalar tag t style =>
      match localTagName? tag with
      | some name =>
        if style == .plain && (t.isEmpty || isNullWord t) then pure name
        else fault "expected a unit variant"
      | none => pure t
    | _ => fault "expected a variant"

/-- The items of a list, each read by `item`. -/
def listOf {α : Type} (d : Document) (item : Nat → Reading α) : Nat → Reading (List α) :=
  d.node fun s pos =>
    match s with
    | .sequenceStart _ => do (← d.members (d.steps.size + 1) (pos + 1)).mapM item
    | s => if s.isEmpty then pure [] else fault "expected a sequence"

/-- The names of the keys at the positions `k₁ v₁ k₂ v₂ …`, each with the position of its value,
after `acc` (latest first); every name must be among `fields`, each at most once. -/
def entries (d : Document) (fields : List String) :
    List Nat → List (String × Nat) → Reading (List (String × Nat))
  | [], acc => pure acc.reverse
  | [_], _ => fault "expected a value"
  | k :: v :: rest, acc => do
    let name ← d.text k
    if !fields.contains name then fault "unknown field"
    else if acc.any (·.1 == name) then fault "duplicate field"
    else d.entries fields rest ((name, v) :: acc)

/-- The entries of a record whose fields are named in `fields`: each key's name with the
position of its value. -/
def record (d : Document) (fields : List String) : Nat → Reading (List (String × Nat)) :=
  d.node fun s pos =>
    match s with
    | .mappingStart _ => do d.entries fields (← d.members (d.steps.size + 1) (pos + 1)) []
    | s => if s.isEmpty then pure [] else fault "expected a mapping"

end Document

/-- A field's value read by `read`; the field must be there. -/
def required {α : Type} (entries : List (String × Nat)) (name : String) (read : Nat → Reading α) :
    Reading α :=
  match entries.lookup name with
  | some pos => read pos
  | none => fault "missing field"

/-- A field's value read by `read`, or `dflt` when the field is left out. -/
def optional {α : Type} (entries : List (String × Nat)) (name : String) (read : Nat → Reading α)
    (dflt : α) : Reading α :=
  match entries.lookup name with
  | some pos => read pos
  | none => pure dflt

end PeerGate.Yaml
