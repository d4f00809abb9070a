/-
Merging mappings.

A mapping takes over the pairs of the mappings that its merging keys name; its own pairs stand
behind them, so that they win.  Merging changes the mapping for all that have it as a part.  Inside
a mapping whose pairs are merged the key of the value that stands for it is a mere text.

Main statements:
* `Yaml.Document.Change.spread` — the merging of a mapping, and of those that it merges;
* `Yaml.Document.spread` — the document with the pairs that one of its mappings merges.
-/
import ReleaseNotes.Yaml.Node

namespace ReleaseNotes
namespace Yaml

/-- The pairs of a mapping. -/
def Node.pairs? : Node → Option (List (NodeId × NodeId))
  | .mapping _ pairs => some pairs
  | _ => none

namespace Document

/-- The pairs of a mapping under its number. -/
def pairs? (d : Document) (i : NodeId) : Option (List (NodeId × NodeId)) := (d.node i).pairs?

/-- The document with another node under a number. -/
def withNode (d : Document) (i : NodeId) (node : Node) : Document :=
  { d with nodes := d.nodes.setIfInBounds i node }

/-- The document with other pairs in a mapping. -/
def withPairs (d : Document) (i : NodeId) (pairs : List (NodeId × NodeId)) : Document :=
  d.withNode i (.mapping (d.node i).tag pairs)

/-- The document in which a key is a mere text, if it is the one of a value that stands for its
mapping. -/
def withName (d : Document) (key : NodeId) : Document :=
  let node := d.node key
  if node.tag = .standIn then d.withNode key (node.withTag .text) else d

/-- Whether the key of a pair is a merging one. -/
def isMerging (d : Document) (pair : NodeId × NodeId) : Bool := (d.node pair.1).tag = .merge

/-- What the first merging key names, and the pairs without it. -/
def takeMerging (d : Document) :
    List (NodeId × NodeId) → Option (NodeId × List (NodeId × NodeId))
  | [] => none
  | pair :: rest =>
    if d.isMerging pair then some (pair.2, rest)
    else (d.takeMerging rest).map fun (merged, others) => (merged, pair :: others)

/-- How many merging keys a mapping has. -/
def mergingsAt (d : Document) (i : NodeId) : Nat := ((d.pairs? i).getD []).countP d.isMerging

/-- A step that changes a document, unless it is refused. -/
abbrev Change := StateT Document (Except Fault)

namespace Change

/-- The pairs of a mapping. -/
def pairs (i : NodeId) : Change (List (NodeId × NodeId)) := do
  match (← get).pairs? i with
  | some pairs => return pairs
  | none => throw .malformed

/-- The pairs of a mapping that is merged elsewhere, with those that it merges itself. -/
def brought (spread : NodeId → Change Unit) (i : NodeId) : Change (List (NodeId × NodeId)) := do
  -- a node that is no mapping is refused before it is merged
  let _ ← pairs i
  spread i
  pairs i

/-- The pairs that the first merging key of a mapping brings.  A mapping of a list wins over those
behind it.  The key is taken out before what it names is looked at, so a mapping that merges itself
is met with fewer of them. -/
def takeOver (spread : NodeId → Change Unit) (i : NodeId) : Change (List (NodeId × NodeId)) := do
  match (← get).takeMerging (← pairs i) with
  | none => return []
  | some (value, rest) =>
    modify fun d => d.withPairs i rest
    match (← get).node value with
    | .mapping _ _ => brought spread value
    | .sequence _ items => (fun parts => parts.reverse.flatten) <$> items.mapM (brought spread)
    | .scalar _ _ => throw .malformed

/-- The pairs that so many merging keys of a mapping bring. -/
def takeAll (spread : NodeId → Change Unit) (i : NodeId) : Nat → Change (List (NodeId × NodeId))
  | 0 => return []
  | n + 1 => do
    let first ← takeOver spread i
    let others ← takeAll spread i n
    return first ++ others

/-- The mapping takes over the pairs that its merging keys name.  So many mappings may be merged
inside each other. -/
def spread : Nat → NodeId → Change Unit
  | 0, _ => throw tooDeep
  | room + 1, i => do
    let merged ← takeAll (spread room) i ((← get).mergingsAt i)
    let own ← pairs i
    modify fun d => (own.map Prod.fst).foldl Document.withName (d.withPairs i (merged ++ own))

end Change

/-- The document with the pairs that one of its mappings merges. -/
def spread (d : Document) (i : NodeId) : Except Fault Document :=
  ((Change.spread maxCalls i).run d).map Prod.snd

end Document
end Yaml
end ReleaseNotes
