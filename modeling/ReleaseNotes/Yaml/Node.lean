/-
Nodes of YAML.

What the tokens of a text say: scalars, sequences and mappings, each with its tag.  A document keeps
its nodes under numbers, and a node tells its parts by their numbers.  So an alias is the very node
that its name was given to, and a node may be a part of itself.  Nodes are read off the tokens one
by one, and what a text is refused for comes out when a token is asked for that is not there.

Main statements:
* `Yaml.Node` — the nodes;
* `Yaml.Document` — the nodes of a document;
* `Yaml.ReadNode.node` — the reading of a node;
* `Yaml.Document.ofTokens` — the one document of a text.
-/
import ReleaseNotes.Yaml.Tag
import ReleaseNotes.Yaml.Token

namespace ReleaseNotes
namespace Yaml

/-- The number of a node in its document. -/
abbrev NodeId := Nat

/-- The nodes. -/
inductive Node where
  | scalar (tag : Tag) (text : Text)
  | sequence (tag : Tag) (items : List NodeId)
  | mapping (tag : Tag) (pairs : List (NodeId × NodeId))

namespace Node

/-- The tag of a node. -/
def tag : Node → Tag
  | scalar tag _ => tag
  | sequence tag _ => tag
  | mapping tag _ => tag

/-- The node with another tag. -/
def withTag (tag : Tag) : Node → Node
  | scalar _ text => scalar tag text
  | sequence _ items => sequence tag items
  | mapping _ pairs => mapping tag pairs

/-- A scalar that is left out. -/
def absent : Node := .scalar .null []

end Node

/-- A document: its nodes under their numbers, and the number of the one that holds all. -/
structure Document where
  nodes : Array Node
  root : NodeId

namespace Document

/-- The node of a number. -/
def node (d : Document) (i : NodeId) : Node := d.nodes.getD i Node.absent

end Document

/-- The reading of nodes: the tokens that are left, what the text is refused for behind them, and
what is known so far. -/
structure NodeReader where
  tokens : List Token
  fault : Option Fault
  nodes : Array Node := #[]
  /-- The nodes that have names. -/
  named : List (String × NodeId) := []
  /-- The handles of tags and what they stand for. -/
  handles : List (String × String) := []

/-- A step of the reading of nodes. -/
abbrev ReadNode := StateT NodeReader (Except Fault)

/-- How many collections may be open at once. -/
def maxDepth : Nat := 480

namespace ReadNode

/-- The tokens are those of no document. -/
def refuse {α : Type} : ReadNode α := throw .malformed

/-- The next token. -/
def peek : ReadNode Token := do
  let r ← get
  match r.tokens, r.fault with
  | t :: _, _ => return t
  | [], some fault => throw fault
  | [], none => return .streamEnd

/-- The next token is done with. -/
def drop : ReadNode Unit := modify fun r => { r with tokens := r.tokens.drop 1 }

/-- The next token is done with, if it is the one. -/
def dropIf (t : Token) : ReadNode Bool := do
  if (← peek) = t then do
    drop
    return true
  else return false

/-- The next token is the one. -/
def expect (t : Token) : ReadNode Unit := do
  if ← dropIf t then return () else refuse

/-- The anchor at the place. -/
def anchor? : ReadNode (Option String) := do
  match ← peek with
  | .anchor name => do drop; return some name
  | _ => return none

/-- The tag at the place: its handle, if it has one, and what is behind that. -/
def tag? : ReadNode (Option (Option String × String)) := do
  match ← peek with
  | .tag handle suffix => do drop; return some (handle, suffix)
  | _ => return none

/-- The name of a tag, in which its handle stands for something else. -/
def tagName (tag : Option String × String) : ReadNode String := do
  match tag with
  | (none, suffix) => return suffix
  | (some handle, suffix) => match (← get).handles.lookup handle with
    | some tagStart => return tagStart ++ suffix
    | none => refuse

/-- The anchor and the tag before a node, in either order. -/
def marks : ReadNode (Option String × Option (Option String × String)) := do
  match ← anchor? with
  | some name => return (some name, ← tag?)
  | none => match ← tag? with
    | some tag => return (← anchor?, some tag)
    | none => return (none, none)

/-- The anchor and the name of the tag before a node. -/
def properties : ReadNode (Option String × Option String) := do
  let (anchor, tag) ← marks
  return (anchor, ← tag.mapM tagName)

/-- The node that a name was given to. -/
def namedNode (name : String) : ReadNode NodeId := do
  match (← get).named.lookup name with
  | some i => return i
  | none => refuse

/-- No node has the name yet. -/
def checkNew (anchor : Option String) : ReadNode Unit := do
  match anchor with
  | some name => if ((← get).named.lookup name).isSome then refuse else return ()
  | none => return ()

/-- A new node, under its name if it has one. -/
def add (anchor : Option String) (node : Node) : ReadNode NodeId := do
  let r ← get
  let i := r.nodes.size
  let named := match anchor with
    | some name => (name, i) :: r.named
    | none => r.named
  set { r with nodes := r.nodes.push node, named }
  return i

/-- What a new node turns out to be. -/
def complete (i : NodeId) (node : Node) : ReadNode NodeId := do
  modify fun r => { r with nodes := r.nodes.setIfInBounds i node }
  return i

/-- A collection with its parts, if there is room for one more.  Its parts may name it. -/
def collection {α : Type} (room : Nat) (anchor : Option String) (parts : Nat → ReadNode α)
    (make : α → Node) : ReadNode NodeId := do
  match room with
  | 0 => throw tooDeep
  | room + 1 => do
    let i ← add anchor Node.absent
    complete i (make (← parts room))

/-- A node that is left out. -/
def absent : ReadNode NodeId := add none Node.absent

/-- The tag that a scalar's text calls for. -/
def calledFor (text : Text) : Tag :=
  match text.toChars? with
  | none => .text
  | some cs =>
    let body := cs.dropLast
    Tag.ofPlain (if cs.getLast? = some '\n' && !body.isEmpty then body else cs)

/-- The tag of a scalar: an exclamation mark alone leaves it to the text. -/
def scalarTag (name : Option String) (plain : Bool) (text : Text) : Tag :=
  match name with
  | some "!" => calledFor text
  | some name => Tag.ofName name
  | none => if plain then calledFor text else .text

/-- The tag of a collection. -/
def collectionTag (name : Option String) (usual : Tag) : Tag :=
  match name with
  | some "!" => usual
  | some name => Tag.ofName name
  | none => usual

/-- Where a node may stand, and what it may be there. -/
inductive Place where
  /-- Between brackets. -/
  | flow
  /-- In a block. -/
  | block
  /-- In a mapping's block, where a sequence need not be deeper. -/
  | entry
  deriving DecidableEq

/-- Whether a part of a mapping's block is left out. -/
def isAbsentEntry : Token → Bool
  | .key | .value | .blockEnd => true
  | _ => false

/-- Whether an item is left out in a sequence that is not deeper than its mapping. -/
def isAbsentItem : Token → Bool
  | .blockEntry => true
  | t => isAbsentEntry t

mutual

/-- A node.  So many more collections may be open. -/
def node : Nat → Nat → Place → ReadNode NodeId
  | 0, _, _ => refuse
  | fuel + 1, room, place => do
    match ← peek with
    | .alias anchor => do drop; namedNode anchor
    | _ => do
      let (anchor, tag) ← properties
      let t ← peek
      checkNew anchor
      match t with
      | .scalar text plain => do
        drop
        add anchor (.scalar (scalarTag tag plain text) text)
      | .flowSequenceStart => do
        drop
        collection room anchor (fun room => flowItems fuel room true)
          (.sequence (collectionTag tag .sequence))
      | .flowMappingStart => do
        drop
        collection room anchor (fun room => flowPairs fuel room true)
          (.mapping (collectionTag tag .mapping))
      | .blockSequenceStart => do
        if place = .flow then emptyScalar anchor tag
        else
          drop
          collection room anchor (fun room => blockItems fuel room)
            (.sequence (collectionTag tag .sequence))
      | .blockMappingStart => do
        if place = .flow then emptyScalar anchor tag
        else
          drop
          collection room anchor (fun room => blockPairs fuel room)
            (.mapping (collectionTag tag .mapping))
      | .blockEntry => do
        if place = .entry then
          collection room anchor (fun room => levelItems fuel room)
            (.sequence (collectionTag tag .sequence))
        else emptyScalar anchor tag
      | _ => emptyScalar anchor tag
termination_by structural fuel => fuel
where
  /-- A scalar of which nothing but its anchor or its tag is given. -/
  emptyScalar (anchor tag : Option String) : ReadNode NodeId :=
    if anchor.isSome || tag.isSome then add anchor (.scalar (scalarTag tag true []) [])
    else refuse

/-- A node, or nothing before certain tokens. -/
def nodeUnless : Nat → Nat → (Token → Bool) → Place → ReadNode NodeId
  | 0, _, _, _ => refuse
  | fuel + 1, room, isAbsent, place => do
    if isAbsent (← peek) then absent else node fuel room place
termination_by structural fuel => fuel

/-- The items of a sequence's block. -/
def blockItems : Nat → Nat → ReadNode (List NodeId)
  | 0, _ => refuse
  | fuel + 1, room => do
    if ← dropIf .blockEntry then
      let item ← nodeUnless fuel room (fun t => t == .blockEntry || t == .blockEnd) .block
      return item :: (← blockItems fuel room)
    else
      expect .blockEnd
      return []
termination_by structural fuel => fuel

/-- The items of a sequence that is not deeper than its mapping. -/
def levelItems : Nat → Nat → ReadNode (List NodeId)
  | 0, _ => refuse
  | fuel + 1, room => do
    if ← dropIf .blockEntry then
      let item ← nodeUnless fuel room isAbsentItem .block
      return item :: (← levelItems fuel room)
    else return []
termination_by structural fuel => fuel

/-- The pairs of a mapping's block. -/
def blockPairs : Nat → Nat → ReadNode (List (NodeId × NodeId))
  | 0, _ => refuse
  | fuel + 1, room => do
    if ← dropIf .key then
      let key ← nodeUnless fuel room isAbsentEntry .entry
      let value ←
        if ← dropIf .value then nodeUnless fuel room isAbsentEntry .entry else absent
      return (key, value) :: (← blockPairs fuel room)
    else
      expect .blockEnd
      return []
termination_by structural fuel => fuel

/-- A key between brackets and its value, behind the mark of the key. -/
def flowPair : Nat → Nat → Token → ReadNode (NodeId × NodeId)
  | 0, _, _ => refuse
  | fuel + 1, room, close => do
    let key ← nodeUnless fuel room (fun t => t == .value || t == .flowEntry || t == close) .flow
    let value ←
      if ← dropIf .value then nodeUnless fuel room (fun t => t == .flowEntry || t == close) .flow
      else absent
    return (key, value)
termination_by structural fuel => fuel

/-- The items of a sequence between brackets.  A pair among them is a mapping of its own. -/
def flowItems : Nat → Nat → Bool → ReadNode (List NodeId)
  | 0, _, _ => refuse
  | fuel + 1, room, first => do
    if ← dropIf .flowSequenceEnd then return []
    if !first then expect .flowEntry
    if ← dropIf .key then
      let item ← collection room none (fun room => flowPair fuel room .flowSequenceEnd)
        (fun pair => .mapping .mapping [pair])
      return item :: (← flowItems fuel room false)
    else if ← dropIf .flowSequenceEnd then return []
    else
      let item ← node fuel room .flow
      return item :: (← flowItems fuel room false)
termination_by structural fuel => fuel

/-- The pairs of a mapping between brackets. -/
def flowPairs : Nat → Nat → Bool → ReadNode (List (NodeId × NodeId))
  | 0, _, _ => refuse
  | fuel + 1, room, first => do
    if ← dropIf .flowMappingEnd then return []
    if !first then expect .flowEntry
    if ← dropIf .key then
      let pair ← flowPair fuel room .flowMappingEnd
      return pair :: (← flowPairs fuel room false)
    else if ← dropIf .flowMappingEnd then return []
    else
      let key ← node fuel room .flow
      let value ← absent
      return (key, value) :: (← flowPairs fuel room false)
termination_by structural fuel => fuel

end

/-- The handles that need no directive. -/
def usualHandles : List (String × String) := [("!", "!"), ("!!", Tag.start)]

/-- The directives before a document.  Each may be given once. -/
def directives : Nat → Bool → List (String × String) → ReadNode (List (String × String))
  | 0, _, _ => refuse
  | fuel + 1, isVersioned, handles => do
    match ← peek with
    | .version major =>
      if isVersioned || major != 1 then refuse
      else
        drop
        directives fuel true handles
    | .handle name tagStart =>
      if (handles.lookup name).isSome then refuse
      else
        drop
        directives fuel isVersioned ((name, tagStart) :: handles)
    | .reserved => do
      drop
      directives fuel isVersioned handles
    | _ => return handles

/-- Whether a document that has begun is void. -/
def isVoidDocument : Token → Bool
  | .version _ | .handle _ _ | .reserved | .documentStart | .documentEnd | .streamEnd => true
  | _ => false

/-- Nothing but ends of the document up to the end of the text.  A further document is refused
behind its directives. -/
def finish : Nat → ReadNode Unit
  | 0 => refuse
  | fuel + 1 => do
    if ← dropIf .documentEnd then finish fuel
    else if ← dropIf .streamEnd then return ()
    else
      let _ ← directives fuel false []
      refuse

/-- The only document; without one, a scalar that is left out. -/
def document (fuel : Nat) : ReadNode NodeId := do
  match ← peek with
  | .streamEnd => absent
  | .version _ | .handle _ _ | .reserved | .documentStart => do
    let given ← directives fuel false []
    expect .documentStart
    modify fun r => { r with handles := given ++ usualHandles }
    let root ← nodeUnless fuel maxDepth isVoidDocument .block
    finish fuel
    return root
  | _ => do
    modify fun r => { r with handles := usualHandles }
    let root ← node fuel maxDepth .block
    finish fuel
    return root

end ReadNode

namespace Document

/-- How many nodes may stand on top of each other for each token of a text. -/
def nodesPerToken : Nat := 4

/-- The document that the tokens of a text make up. -/
def ofTokens (ts : Tokens) : Except Fault Document := do
  let (root, r) ← (ReadNode.document (nodesPerToken * (ts.tokens.length + 1))).run
    { tokens := ts.tokens, fault := ts.fault }
  return ⟨r.nodes, root⟩

end Document
end Yaml
end ReleaseNotes
