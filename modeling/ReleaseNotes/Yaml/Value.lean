/-
Values of documents.

What a document stands for.  Its nodes are built one after the other: a value without parts at once,
and a collection when those begun before it are complete, so the values that are less deep come
first.  A node is built once, and what it is then it stays.  The first value that cannot be built
spoils the document.  Of two pairs with one name the last wins; names that are no texts are passed
over.

Main statements:
* `Yaml.Document.build` — what the nodes of a document are built as;
* `Yaml.Built.value` — the value of a document, seen to a depth;
* `Yaml.built`, `Yaml.read` — a text, built and as a value.
-/
import ReleaseNotes.Yaml.Lexer
import ReleaseNotes.Yaml.Merge
import ReleaseNotes.Yaml.Scalar

namespace ReleaseNotes
namespace Yaml

/-- Whether the nodes of a tag have parts. -/
def Tag.isCollection (tag : Tag) : Bool :=
  [.sequence, .mapping, .set, .orderedPairs, .pairs].contains tag

/-! ### Values without parts -/

namespace Document

/-- The text that stands for a node: its own, or in a mapping that of the value that is marked so.
So many values may stand for each other; those that go round in circles are too many. -/
def standInText (d : Document) : Nat → NodeId → Except Fault Text
  | 0, _ => .error tooDeep
  | fuel + 1, i => match d.node i with
    | .scalar _ text => .ok text
    | .sequence _ _ => .error .malformed
    | .mapping _ pairs => match pairs.find? fun (key, _) => (d.node key).tag = .standIn with
      | some (_, value) => d.standInText fuel value
      | none => .error .malformed

/-- The value of a node as a scalar.  A time is read off the node itself. -/
def scalarValue (d : Document) (i : NodeId) : Except Fault Json := do
  let text ← d.standInText maxCalls i
  match d.node i with
  | .mapping .time _ =>
    Scalar.refuse .type "expected string or bytes-like object, got 'list'"
  | node => Scalar.value node.tag text

end Document

/-! ### Building -/

/-- What a node is built as. -/
inductive Part where
  | plain (value : Json)
  | list (items : List NodeId)
  | couples (pairs : List (NodeId × NodeId))
  | members (pairs : List (NodeId × NodeId))
  | record (pairs : List (NodeId × NodeId))

/-- The building of a document. -/
structure Building where
  document : Document
  /-- What the nodes are built as. -/
  parts : Array (Option Part)
  /-- The collections in the order in which they were begun. -/
  begun : Array NodeId := #[]

/-- A step of the building. -/
abbrev Build := StateT Building (Except Fault)

namespace Build

/-- A node is built as a part. -/
def put (i : NodeId) (part : Part) : Build Unit :=
  modify fun b => { b with parts := b.parts.setIfInBounds i (some part) }

/-- A node is begun, unless it was before.  A collection is void at first. -/
def start (i : NodeId) : Build Unit := do
  let b ← get
  if (b.parts.getD i none).isSome then return
  else if (b.document.node i).tag.isCollection then
    put i (.list [])
    modify fun b => { b with begun := b.begun.push i }
  else put i (.plain (← b.document.scalarValue i))

/-- The pair of an item that is a mapping with this pair alone.  Nothing is merged here. -/
def couple (i : NodeId) : Build (NodeId × NodeId) := do
  match (← get).document.pairs? i with
  | some [(key, value)] =>
    start key
    start value
    return (key, value)
  | _ => throw .malformed

/-- The key and the value of a pair.  No collection can be a key. -/
def entry (pair : NodeId × NodeId) : Build Unit := do
  start pair.1
  if ((← get).document.node pair.1).tag.isCollection then throw .malformed
  start pair.2

/-- The pairs of a mapping, with the merged ones. -/
def entries (i : NodeId) : Build (List (NodeId × NodeId)) := do
  let b ← get
  let document ← b.document.spread i
  set { b with document }
  let pairs := (document.pairs? i).getD []
  pairs.forM entry
  return pairs

/-- A collection with its parts. -/
def part (i : NodeId) : Build Part := do
  match (← get).document.node i with
  | .sequence .sequence items => do
    items.forM start
    return .list items
  | .sequence .orderedPairs items | .sequence .pairs items => Part.couples <$> items.mapM couple
  | .mapping .mapping _ => Part.record <$> entries i
  | .mapping .set _ => Part.members <$> entries i
  | _ => throw .malformed

/-- The collections from one on are completed.  Each node is begun once. -/
def completeFrom : Nat → Nat → Build Unit
  | 0, _ => return ()
  | fuel + 1, k => do
    match (← get).begun[k]? with
    | none => return ()
    | some i => do
      put i (← part i)
      completeFrom fuel (k + 1)

end Build

/-- A document whose nodes are built. -/
structure Built where
  document : Document
  parts : Array (Option Part)

namespace Document

/-- What the nodes of a document are built as.  Nodes that are no part of the root are left. -/
def build (d : Document) : Except Fault Built := do
  let steps : Build Unit := do
    Build.start d.root
    Build.completeFrom d.nodes.size 0
  let (_, b) ← steps.run { document := d, parts := d.nodes.map fun _ => none }
  return ⟨b.document, b.parts⟩

end Document

/-! ### Values -/

namespace Built

/-- The name that a key gives, if it is a text. -/
def name? (b : Built) (key : NodeId) : Option Text :=
  match (b.document.node key).tag, b.parts.getD key none with
  | .text, some (.plain (.str t)) => some t
  | _, _ => none

/-- An object with fields of which the last of a name wins. -/
def objectOf (fields : Json.Fields) : Json :=
  .obj (fields.foldl (fun before (name, j) => Json.put name j before) [])

/-- The value of a part, given those of the nodes. -/
def valueOf (b : Built) (value : NodeId → Json) : Part → Json
  | .plain j => j
  | .list items => .arr (items.map value)
  | .couples pairs => .arr (pairs.map fun (key, item) => .arr [value key, value item])
  | .members pairs => if pairs.isEmpty then .arr [] else Scalar.beyondJson
  | .record pairs =>
    objectOf (pairs.filterMap fun (key, item) => (b.name? key).map fun name => (name, value item))

/-- The values of all nodes, seen to a depth; nothing is seen beyond. -/
def values (b : Built) : Nat → Array Json
  | 0 => #[]
  | depth + 1 =>
    let deeper := b.values depth
    b.parts.map fun part => match part with
      | some part => b.valueOf (fun i => deeper.getD i .null) part
      | none => .null

/-- The value of the document, seen to a depth. -/
def value (b : Built) (depth : Nat) : Json := (b.values depth).getD b.document.root .null

end Built

/-- What the nodes of a text are built as. -/
def built (cs : List Char) : Except Fault Built := do
  let document ← Document.ofTokens (tokens cs)
  document.build

/-- The value of a text, seen to a depth. -/
def read (depth : Nat) (cs : List Char) : Except Fault Json := (built cs).map (·.value depth)

end Yaml
end ReleaseNotes
