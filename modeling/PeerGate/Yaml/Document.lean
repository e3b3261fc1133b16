import PeerGate.Yaml.Event

/-!
Loading the document of a YAML stream.

A stream may hold one document; a stream without any stands for a document with nothing in it,
and a stream with two or more is refused. The document is kept as its events, in order, with
each alias resolved to a number: anchors are numbered by how many distinct names were anchored
before, so an anchor that reuses a name takes the next number and the name now stands for it,
and each number stands for the last node anchored with it. An alias must name an anchor that
came before it.

* `Step`: one event of a loaded document.
* `Document`: the events and what each alias number stands for.
* `loadDocument`: the document of a YAML text.
-/

namespace PeerGate.Yaml

/-- An event of a loaded document. -/
inductive Step where
  /-- The node an alias number stands for. -/
  | aliasTo (id : Nat)
  | scalar (tag : Option TagBytes) (text : String) (style : ScalarStyle)
  | sequenceStart (tag : Option TagBytes)
  | sequenceEnd
  | mappingStart (tag : Option TagBytes)
  | mappingEnd
  /-- The whole of a stream without documents. -/
  | void
deriving Repr, Inhabited

/-- A loaded document. -/
structure Document where
  steps : Array Step
  /-- Where the node each alias number stands for starts, latest first. -/
  targets : List (Nat × Nat)

/-- The state of numbering anchors while loading. -/
structure Anchors where
  /-- Each anchored name with its number, first anchored first. -/
  names : List (String × Nat) := []
  targets : List (Nat × Nat) := []

namespace Anchors

/-- The anchors after a node starting at `pos` anchored as `name`: the node takes the number of
distinct names seen so far. -/
def bind (a : Anchors) (name : String) (pos : Nat) : Anchors :=
  let id := a.names.length
  let names :=
    if a.names.any (·.1 == name) then a.names.map fun e => if e.1 == name then (name, id) else e
    else a.names ++ [(name, id)]
  { names, targets := (id, pos) :: a.targets }

/-- The anchors after a node starting at `pos`, anchored or not. -/
def bindOpt (a : Anchors) (anchor : Option String) (pos : Nat) : Anchors :=
  match anchor with
  | some name => a.bind name pos
  | none => a

end Anchors

/-- The steps of a document's events after `steps`, with the anchors seen so far. -/
def loadSteps : List Event → Anchors → Array Step → Except Fault Document
  | [], a, steps => .ok ⟨steps, a.targets⟩
  | e :: rest, a, steps =>
    let pos := steps.size
    match e with
    | .aliasTo name =>
      match a.names.lookup name with
      | some id => loadSteps rest a (steps.push (.aliasTo id))
      | none => .error ⟨"unknown anchor"⟩
    | .scalar anchor tag text style =>
      loadSteps rest (a.bindOpt anchor pos) (steps.push (.scalar tag text style))
    | .sequenceStart anchor tag => loadSteps rest (a.bindOpt anchor pos) (steps.push (.sequenceStart tag))
    | .sequenceEnd => loadSteps rest a (steps.push .sequenceEnd)
    | .mappingStart anchor tag => loadSteps rest (a.bindOpt anchor pos) (steps.push (.mappingStart tag))
    | .mappingEnd => loadSteps rest a (steps.push .mappingEnd)
    | _ => loadSteps rest a steps

/-- Whether an event starts a document. -/
def Event.isDocumentStart : Event → Bool
  | .documentStart => true
  | _ => false

/-- Whether an event ends a document. -/
def Event.isDocumentEnd : Event → Bool
  | .documentEnd => true
  | _ => false

/-- The document of a YAML text: the one document of the stream, or nothing in place of it when
there is none. -/
def loadDocument (text : String) : Except Fault Document := do
  let events ← parseEvents text
  match (events.filter Event.isDocumentStart).length with
  | 0 => return ⟨#[.void], []⟩
  | 1 =>
    let body := (events.dropWhile (!·.isDocumentStart)).drop 1
    loadSteps (body.takeWhile (!·.isDocumentEnd)) {} #[]
  | _ => throw ⟨"more than one document"⟩

end PeerGate.Yaml
