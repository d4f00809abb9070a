/-
The reading of nodes.

A node without a tag of its own has the one that is usual for it: a collection that of its kind, and
a scalar the one that its text calls for, or that of a text between quotation marks.  And a text is
not told to be nested too deep if its tokens never have too many collections open.  Some collections
have no tokens of their own, a sequence that is not deeper than its mapping and a pair among items,
but each of them stands right inside one that has; so there are at most twice as many.

Main statements:
* `Node.Fits`, `Document.Fits` — nodes that have their usual tags;
* `Token.stayWithin` — tokens that never have more than so many collections open;
* `ReadNode.readsAll` — what the reading of nodes keeps;
* `Document.ends_ofTokens` — the document of a text.
-/
import ReleaseNotes.Proofs.Yaml.Scanning
import ReleaseNotes.Yaml.Node

namespace ReleaseNotes
namespace Yaml

variable {α β : Type} {P : Fault → Prop} {cs : List Char} {most depth depth' room : Nat}

/-- A node has a tag that is usual for it. -/
def Node.Fits : Node → Prop
  | .scalar tag text =>
    (tag = ReadNode.calledFor text ∧ text.getLast? ≠ some (.char '\n')) ∨ tag = .text
  | .sequence tag _ => tag = .sequence
  | .mapping tag _ => tag = .mapping

theorem Node.fits_absent : Node.absent.Fits := .inl ⟨by decide, nofun⟩

/-- All nodes of a document have tags that are usual for them. -/
def Document.Fits (d : Document) : Prop := ∀ i, (d.node i).Fits

/-! ### Open collections -/

namespace Token

/-- How many collections are open behind a token. -/
def depthBehind (depth : Nat) : Token → Nat
  | blockSequenceStart | blockMappingStart | flowSequenceStart | flowMappingStart => depth + 1
  | blockEnd | flowSequenceEnd | flowMappingEnd => depth - 1
  | _ => depth

/-- Whether tokens, behind so many open collections, never have more than the most open. -/
def stayWithin (most : Nat) : Nat → List Token → Bool
  | depth, [] => depth ≤ most
  | depth, t :: rest => depth ≤ most && stayWithin most (t.depthBehind depth) rest

theorem le_of_stayWithin {ts : List Token} (h : stayWithin most depth ts = true) :
    depth ≤ most := by
  cases ts with
  | nil => exact of_decide_eq_true h
  | cons t rest => exact of_decide_eq_true (Bool.and_eq_true_iff.1 h).1

end Token

/-- There is room for twice as many collections as may still be opened by tokens, and for some more,
or texts may be told to be nested too deep. -/
def Spares (P : Fault → Prop) (most room depth more : Nat) : Prop :=
  P tooDeep ∨ 2 * most + more ≤ room + 2 * depth

theorem Spares.of_le {more more' : Nat} (h : Spares P most room depth more) (hle : more' ≤ more) :
    Spares P most room depth more' := h.imp_right fun h => by omega

/-! ### Steps of the reading -/

/-- The nodes that were read fit if there are no tags, the tokens that are left tell of the text and
stay within the room that there is, and what they end with is a fault of such a kind. -/
structure NodeReader.Fits (cs : List Char) (P : Fault → Prop) (most depth : Nat) (r : NodeReader) :
    Prop where
  nodes : '!' ∉ cs → ∀ node ∈ r.nodes, node.Fits
  tokens : ∀ t ∈ r.tokens, t.Tells cs
  fault : ∀ fault, r.fault = some fault → P fault
  room : P tooDeep ∨ Token.stayWithin most depth r.tokens = true

theorem NodeReader.Fits.depth_le {r : NodeReader} (h : r.Fits cs P most depth) :
    P tooDeep ∨ depth ≤ most := h.room.imp_right Token.le_of_stayWithin

namespace ReadNode

/-- The token is the next one. -/
def IsAt (t : Token) (r : NodeReader) : Prop := r.tokens.headD .streamEnd = t

/-- A step of the reading leads from so many open collections to so many, and yields what it should,
or ends with a fault of such a kind. -/
abbrev Reads (cs : List Char) (P : Fault → Prop) (most depth depth' : Nat) (Q : α → Prop)
    (x : ReadNode α) : Prop :=
  Leads (NodeReader.Fits cs P most depth) P (fun a r => Q a ∧ r.Fits cs P most depth') x

variable {Q : α → Prop} {R : β → Prop}

theorem Reads.bind {depth'' : Nat} {x : ReadNode α} {next : α → ReadNode β}
    (hx : Reads cs P most depth depth' Q x)
    (hnext : ∀ a, Q a → Reads cs P most depth' depth'' R (next a)) :
    Reads cs P most depth depth'' R (x >>= next) :=
  Leads.seq hx hnext

theorem leads_peek : Leads (NodeReader.Fits cs P most depth) P
    (fun t r => t.Tells cs ∧ r.Fits cs P most depth ∧ IsAt t r) peek := by
  rintro ⟨tokens, fault, nodes, named, handles⟩ hr
  cases tokens with
  | cons t rest => exact .ok ⟨hr.tokens t List.mem_cons_self, hr, rfl⟩
  | nil => cases fault with
    | some fault => exact .error (hr.fault fault rfl)
    | none => exact .ok ⟨trivial, hr, rfl⟩

theorem reads_peek : Reads cs P most depth depth (fun t => t.Tells cs) peek :=
  leads_peek.mono fun _ _ h => ⟨h.1, h.2.1⟩

theorem leads_drop (t : Token) : Leads (fun r => r.Fits cs P most depth ∧ IsAt t r) P
    (fun _ r => True ∧ r.Fits cs P most (t.depthBehind depth)) drop := by
  rintro ⟨tokens, fault, nodes, named, handles⟩ ⟨hr, hat⟩
  cases tokens with
  | nil =>
    obtain rfl : Token.streamEnd = t := hat
    exact .ok ⟨trivial, hr⟩
  | cons first rest =>
    obtain rfl : first = t := hat
    exact .ok ⟨trivial, hr.nodes, fun t ht => hr.tokens t (List.mem_cons_of_mem _ ht), hr.fault,
      hr.room.imp_right fun h => (Bool.and_eq_true_iff.1 h).2⟩

theorem leads_dropIf (t : Token) : Leads (NodeReader.Fits cs P most depth) P
    (fun given r => r.Fits cs P most (if given = true then t.depthBehind depth else depth))
    (dropIf t) := by
  refine leads_peek.seq fun next _ => ?_
  split
  · next heq =>
    subst heq
    exact (leads_drop next).seq fun _ _ => .pure fun _ => id
  · exact .pure fun _ hr => hr.1

/-- One way is gone behind a token, and the other one if it is not the next. -/
theorem reads_ifNext (t : Token) {x y : ReadNode α}
    (hx : Reads cs P most (t.depthBehind depth) depth' Q x)
    (hy : Reads cs P most depth depth' Q y) :
    Reads cs P most depth depth' Q (do if ← dropIf t then x else y) := by
  refine (leads_dropIf t).bind fun given => ?_
  cases given with
  | true => exact hx
  | false => exact hy

section

variable (hmalformed : P .malformed)
include hmalformed

theorem reads_refuse : Reads cs P most depth depth' Q refuse := Leads.throw hmalformed

theorem reads_expect (t : Token) :
    Reads cs P most depth (t.depthBehind depth) (fun _ => True) (expect t) :=
  reads_ifNext t (Keeps.pure trivial) (reads_refuse hmalformed)

theorem keeps_checkNew {I : NodeReader → Prop} (anchor : Option String) :
    Keeps I P (fun _ => True) (checkNew anchor) := by
  cases anchor with
  | none => exact Keeps.pure trivial
  | some name =>
    refine Keeps.get.bind fun r _ => ?_
    split
    · exact .throw hmalformed
    · exact Keeps.pure trivial

theorem reads_namedNode (name : String) :
    Reads cs P most depth depth (fun _ => True) (namedNode name) := by
  refine Keeps.get.bind fun r _ => ?_
  split
  · exact Keeps.pure trivial
  · exact reads_refuse hmalformed

end

/-! ### What stands before a node -/

theorem reads_anchor? : Reads cs P most depth depth (fun _ => True) anchor? := by
  refine leads_peek.seq fun t _ => ?_
  split
  · exact (leads_drop _).seq fun _ _ => Keeps.pure trivial
  · exact .pure fun _ hr => ⟨trivial, hr.1⟩

/-- A text without an exclamation mark has no tags. -/
theorem reads_tag? : Reads cs P most depth depth (fun tag => '!' ∉ cs → tag = none) tag? := by
  refine leads_peek.seq fun t ht => ?_
  split
  · exact (leads_drop _).seq fun _ _ => Keeps.pure fun hcs => absurd ht hcs
  · exact .pure fun _ hr => ⟨fun _ => rfl, hr.1⟩

theorem reads_marks :
    Reads cs P most depth depth (fun marks => '!' ∉ cs → marks.2 = none) marks := by
  refine reads_anchor?.bind fun anchor _ => ?_
  cases anchor with
  | some name => exact reads_tag?.bind fun tag htag => Keeps.pure htag
  | none =>
    refine reads_tag?.bind fun tag htag => ?_
    cases tag with
    | some tag => exact reads_anchor?.bind fun _ _ => Keeps.pure htag
    | none => exact Keeps.pure fun _ => rfl

section

variable (hmalformed : P .malformed)
include hmalformed

theorem reads_tagName (tag : Option String × String) :
    Reads cs P most depth depth (fun _ => True) (tagName tag) := by
  obtain ⟨_ | handle, suffix⟩ := tag
  · exact Keeps.pure trivial
  · refine Keeps.get.bind fun r _ => ?_
    split
    · exact Keeps.pure trivial
    · exact reads_refuse hmalformed

theorem reads_properties :
    Reads cs P most depth depth (fun given => '!' ∉ cs → given.2 = none) properties := by
  refine reads_marks.bind fun (anchor, tag) htag => ?_
  cases tag with
  | none => exact Keeps.pure fun _ => rfl
  | some tag =>
    have hname : Reads cs P most depth depth (fun _ => True) ((some tag).mapM tagName) := by
      rw [Option.mapM_some]
      exact Keeps.map (reads_tagName hmalformed tag) fun _ _ => trivial
    refine hname.bind fun name _ => Keeps.pure fun hcs => ?_
    cases htag hcs

end

/-! ### Scalars and collections -/

theorem reads_add {anchor : Option String} {node : Node} (hnode : '!' ∉ cs → node.Fits) :
    Reads cs P most depth depth (fun _ => True) (add anchor node) := by
  refine fun r hr => .ok ⟨trivial, fun hcs other hother => ?_, hr.tokens, hr.fault, hr.room⟩
  rcases Array.mem_push.1 hother with hother | rfl
  · exact hr.nodes hcs other hother
  · exact hnode hcs

theorem reads_complete {i : NodeId} {node : Node} (hnode : '!' ∉ cs → node.Fits) :
    Reads cs P most depth depth (fun _ => True) (complete i node) := by
  refine fun r hr => .ok ⟨trivial, fun hcs other hother => ?_, hr.tokens, hr.fault, hr.room⟩
  rcases Array.mem_or_eq_of_mem_setIfInBounds hother with hother | rfl
  · exact hr.nodes hcs other hother
  · exact hnode hcs

theorem reads_absent : Reads cs P most depth depth (fun _ => True) absent :=
  reads_add fun _ => Node.fits_absent

theorem fits_scalarTag {plain : Bool} {text : Text} (h : (Token.scalar text plain).Tells cs) :
    (Node.scalar (scalarTag none plain text) text).Fits := by
  cases plain with
  | true => exact .inl ⟨rfl, h⟩
  | false => exact .inr rfl

theorem reads_emptyScalar (hmalformed : P .malformed) (anchor : Option String)
    {tag : Option String} (htag : '!' ∉ cs → tag = none) :
    Reads cs P most depth depth (fun _ => True) (node.emptyScalar anchor tag) := by
  unfold node.emptyScalar
  split
  · refine reads_add fun hcs => ?_
    rw [htag hcs]
    exact .inl ⟨rfl, nofun⟩
  · exact reads_refuse hmalformed

/-- A collection is read if there is room for one more, as its parts are read. -/
theorem reads_collection {anchor : Option String} {parts : Nat → ReadNode α} {make : α → Node}
    (hroom : ∀ r : NodeReader, r.Fits cs P most depth → room = 0 → P tooDeep)
    (hparts : ∀ less, room = less + 1 →
      Reads cs P most depth depth' (fun _ => True) (parts less))
    (hmake : '!' ∉ cs → ∀ a, (make a).Fits) :
    Reads cs P most depth depth' (fun _ => True) (collection room anchor parts make) := by
  cases room with
  | zero => exact .throw_of fun r hr => hroom r hr rfl
  | succ less =>
    exact (reads_add fun _ => Node.fits_absent).bind fun _ _ =>
      (hparts less rfl).bind fun a _ => reads_complete fun hcs => hmake hcs a

/-- A collection with tokens of its own is read behind the token that opens it; inside it there is
room for one without tokens. -/
theorem leads_opened {anchor : Option String} {parts : Nat → ReadNode α} {make : α → Node}
    {t : Token} (ht : t.depthBehind depth = depth + 1) (hspares : Spares P most room depth 0)
    (hparts : ∀ {less : Nat}, Spares P most less (depth + 1) 1 →
      Reads cs P most (depth + 1) depth (fun _ => True) (parts less))
    (hmake : '!' ∉ cs → ∀ a, (make a).Fits) :
    Leads (fun r => r.Fits cs P most depth ∧ IsAt t r) P
      (fun _ r => True ∧ r.Fits cs P most depth) (do
        drop
        collection room anchor parts make) := by
  refine (leads_drop t).seq fun _ _ => ?_
  rw [ht]
  refine reads_collection (fun r hr hzero => ?_) (fun less hless => hparts ?_) hmake
  · rcases hspares with hspares | hspares
    · exact hspares
    · exact hr.depth_le.elim id fun hle => by omega
  · exact hspares.imp_right fun h => by omega

/-- A collection without tokens of its own is read where there is room for one. -/
theorem reads_unopened {anchor : Option String} {parts : Nat → ReadNode α} {make : α → Node}
    (hspares : Spares P most room depth 1)
    (hparts : ∀ {less : Nat}, Spares P most less depth 0 →
      Reads cs P most depth depth (fun _ => True) (parts less))
    (hmake : '!' ∉ cs → ∀ a, (make a).Fits) :
    Reads cs P most depth depth (fun _ => True) (collection room anchor parts make) := by
  refine reads_collection (fun r hr hzero => ?_) (fun less hless => hparts ?_) hmake
  · rcases hspares with hspares | hspares
    · exact hspares
    · exact hr.depth_le.elim id fun hle => by omega
  · exact hspares.imp_right fun h => by omega

/-! ### Nodes -/

/-- How many collections without tokens of their own there must be room for at a place: a sequence in
a mapping's block need not be deeper. -/
def Place.spare : Place → Nat
  | .entry => 1
  | _ => 0

/-- What the reading of nodes keeps when so many nodes may stand on top of each other.  The parts of
a collection are read up to the token that closes it, if it has tokens. -/
structure ReadsAll (cs : List Char) (P : Fault → Prop) (most fuel : Nat) : Prop where
  node : ∀ {room depth : Nat} (place : Place), Spares P most room depth place.spare →
    Reads cs P most depth depth (fun _ => True) (node fuel room place)
  nodeUnless : ∀ {room depth : Nat} (isAbsent : Token → Bool) (place : Place),
    Spares P most room depth place.spare →
      Reads cs P most depth depth (fun _ => True) (nodeUnless fuel room isAbsent place)
  blockItems : ∀ {room depth : Nat}, Spares P most room depth 0 →
    Reads cs P most depth (depth - 1) (fun _ => True) (blockItems fuel room)
  levelItems : ∀ {room depth : Nat}, Spares P most room depth 0 →
    Reads cs P most depth depth (fun _ => True) (levelItems fuel room)
  blockPairs : ∀ {room depth : Nat}, Spares P most room depth 1 →
    Reads cs P most depth (depth - 1) (fun _ => True) (blockPairs fuel room)
  flowPair : ∀ {room depth : Nat} (close : Token), Spares P most room depth 0 →
    Reads cs P most depth depth (fun _ => True) (flowPair fuel room close)
  flowItems : ∀ {room depth : Nat} (first : Bool), Spares P most room depth 1 →
    Reads cs P most depth (depth - 1) (fun _ => True) (flowItems fuel room first)
  flowPairs : ∀ {room depth : Nat} (first : Bool), Spares P most room depth 0 →
    Reads cs P most depth (depth - 1) (fun _ => True) (flowPairs fuel room first)

namespace ReadsAll

variable {fuel : Nat}

section

variable (hmalformed : P .malformed) (h : ReadsAll cs P most fuel)
include hmalformed h

theorem node_succ (place : Place) (hspares : Spares P most room depth place.spare) :
    Reads cs P most depth depth (fun _ => True) (ReadNode.node (fuel + 1) room place) := by
  have hfree : Spares P most room depth 0 := hspares.of_le (Nat.zero_le _)
  rw [ReadNode.node]
  refine leads_peek.seq fun t _ => ?_
  split
  · exact (leads_drop _).seq fun _ _ => reads_namedNode hmalformed _
  · refine ((reads_properties hmalformed).of_imp fun _ hr => hr.1).seq fun given htag => ?_
    obtain ⟨anchor, tag⟩ := given
    dsimp only at htag ⊢
    refine leads_peek.seq fun t ht => (keeps_checkNew hmalformed anchor).bind fun _ _ => ?_
    have hempty : Leads (fun r => r.Fits cs P most depth ∧ IsAt t r) P
        (fun _ r => True ∧ r.Fits cs P most depth) (node.emptyScalar anchor tag) :=
      (reads_emptyScalar hmalformed anchor htag).of_imp fun _ hr => hr.1
    have hsequence : '!' ∉ cs → ∀ items : List NodeId,
        (Node.sequence (collectionTag tag .sequence) items).Fits := by
      intro hcs items
      rw [htag hcs]
      rfl
    have hmapping : '!' ∉ cs → ∀ pairs : List (NodeId × NodeId),
        (Node.mapping (collectionTag tag .mapping) pairs).Fits := by
      intro hcs pairs
      rw [htag hcs]
      rfl
    split
    · -- without a tag of its own a scalar has the one that its text calls for
      refine (leads_drop _).seq fun _ _ => reads_add fun hcs => ?_
      rw [htag hcs]
      exact fits_scalarTag ht
    · exact leads_opened rfl hfree (h.flowItems true) hsequence
    · exact leads_opened rfl hfree (fun hs => h.flowPairs true (hs.of_le (by decide))) hmapping
    · split
      · exact hempty
      · exact leads_opened rfl hfree (fun hs => h.blockItems (hs.of_le (by decide))) hsequence
    · split
      · exact hempty
      · exact leads_opened rfl hfree h.blockPairs hmapping
    · split
      · next hplace =>
        -- no token opens a sequence that is not deeper than its mapping
        subst hplace
        exact (reads_unopened hspares h.levelItems hsequence).of_imp fun _ hr => hr.1
      · exact hempty
    · exact hempty

end

variable (h : ReadsAll cs P most fuel)
include h

theorem nodeUnless_succ (isAbsent : Token → Bool) (place : Place)
    (hspares : Spares P most room depth place.spare) :
    Reads cs P most depth depth (fun _ => True)
      (ReadNode.nodeUnless (fuel + 1) room isAbsent place) := by
  rw [ReadNode.nodeUnless]
  refine reads_peek.bind fun t _ => ?_
  split
  · exact reads_absent
  · exact h.node place hspares

theorem blockItems_succ (hmalformed : P .malformed) (hspares : Spares P most room depth 0) :
    Reads cs P most depth (depth - 1) (fun _ => True) (ReadNode.blockItems (fuel + 1) room) := by
  rw [ReadNode.blockItems]
  refine reads_ifNext _ ?_ ?_
  · exact (h.nodeUnless _ .block hspares).bind fun _ _ => (h.blockItems hspares).bind fun _ _ =>
      Keeps.pure trivial
  · exact (reads_expect hmalformed .blockEnd).bind fun _ _ => Keeps.pure trivial

theorem levelItems_succ (hspares : Spares P most room depth 0) :
    Reads cs P most depth depth (fun _ => True) (ReadNode.levelItems (fuel + 1) room) := by
  rw [ReadNode.levelItems]
  refine reads_ifNext _ ?_ (Keeps.pure trivial)
  exact (h.nodeUnless _ .block hspares).bind fun _ _ => (h.levelItems hspares).bind fun _ _ =>
    Keeps.pure trivial

theorem blockPairs_succ (hmalformed : P .malformed) (hspares : Spares P most room depth 1) :
    Reads cs P most depth (depth - 1) (fun _ => True) (ReadNode.blockPairs (fuel + 1) room) := by
  have hmore : ∀ pair : NodeId × NodeId, Reads cs P most depth (depth - 1) (fun _ => True) (do
      return pair :: (← ReadNode.blockPairs fuel room)) := fun _ =>
    (h.blockPairs hspares).bind fun _ _ => Keeps.pure trivial
  rw [ReadNode.blockPairs]
  refine reads_ifNext _ ?_ ?_
  · refine (h.nodeUnless _ .entry hspares).bind fun key _ => reads_ifNext _ ?_ ?_
    · exact (h.nodeUnless _ .entry hspares).bind fun value _ => hmore (key, value)
    · exact reads_absent.bind fun value _ => hmore (key, value)
  · exact (reads_expect hmalformed .blockEnd).bind fun _ _ => Keeps.pure trivial

theorem flowPair_succ (close : Token) (hspares : Spares P most room depth 0) :
    Reads cs P most depth depth (fun _ => True) (ReadNode.flowPair (fuel + 1) room close) := by
  rw [ReadNode.flowPair]
  refine (h.nodeUnless _ .flow hspares).bind fun key _ => reads_ifNext _ ?_ ?_
  · exact (h.nodeUnless _ .flow hspares).bind fun _ _ => Keeps.pure trivial
  · exact reads_absent.bind fun _ _ => Keeps.pure trivial

theorem flowItems_succ (hmalformed : P .malformed) (first : Bool)
    (hspares : Spares P most room depth 1) :
    Reads cs P most depth (depth - 1) (fun _ => True)
      (ReadNode.flowItems (fuel + 1) room first) := by
  have hmore : ∀ item : NodeId, Reads cs P most depth (depth - 1) (fun _ => True) (do
      return item :: (← ReadNode.flowItems fuel room false)) := fun _ =>
    (h.flowItems false hspares).bind fun _ _ => Keeps.pure trivial
  have hpair : '!' ∉ cs → ∀ pair, (Node.mapping .mapping [pair]).Fits := fun _ _ => rfl
  rw [ReadNode.flowItems]
  refine reads_ifNext _ (Keeps.pure trivial) ?_
  extract_lets rest
  have hrest : ∀ u, Reads cs P most depth (depth - 1) (fun _ => True) (rest u) := by
    intro u
    refine reads_ifNext _ ?_ (reads_ifNext _ (Keeps.pure trivial) ?_)
    · -- a pair among the items is a collection without a token of its own
      exact (reads_unopened hspares (h.flowPair .flowSequenceEnd) hpair).bind
        fun item _ => hmore item
    · exact (h.node .flow (hspares.of_le (by decide))).bind fun item _ => hmore item
  split
  · exact (reads_expect hmalformed .flowEntry).bind fun u _ => hrest u
  · exact hrest ()

theorem flowPairs_succ (hmalformed : P .malformed) (first : Bool)
    (hspares : Spares P most room depth 0) :
    Reads cs P most depth (depth - 1) (fun _ => True)
      (ReadNode.flowPairs (fuel + 1) room first) := by
  have hmore : ∀ pair : NodeId × NodeId, Reads cs P most depth (depth - 1) (fun _ => True) (do
      return pair :: (← ReadNode.flowPairs fuel room false)) := fun _ =>
    (h.flowPairs false hspares).bind fun _ _ => Keeps.pure trivial
  rw [ReadNode.flowPairs]
  refine reads_ifNext _ (Keeps.pure trivial) ?_
  extract_lets rest
  have hrest : ∀ u, Reads cs P most depth (depth - 1) (fun _ => True) (rest u) := by
    intro u
    refine reads_ifNext _ ?_ (reads_ifNext _ (Keeps.pure trivial) ?_)
    · exact (h.flowPair .flowMappingEnd hspares).bind fun pair _ => hmore pair
    · exact (h.node .flow hspares).bind fun key _ => reads_absent.bind fun value _ =>
        hmore (key, value)
  split
  · exact (reads_expect hmalformed .flowEntry).bind fun u _ => hrest u
  · exact hrest ()

end ReadsAll

/-- By induction on how many nodes may stand on top of each other: each part of the reading keeps
what it should because those on top of it do. -/
theorem readsAll (hmalformed : P .malformed) (fuel : Nat) : ReadsAll cs P most fuel := by
  induction fuel with
  | zero =>
    exact {
      node := fun _ _ => reads_refuse hmalformed
      nodeUnless := fun _ _ _ => reads_refuse hmalformed
      blockItems := fun _ => reads_refuse hmalformed
      levelItems := fun _ => reads_refuse hmalformed
      blockPairs := fun _ => reads_refuse hmalformed
      flowPair := fun _ _ => reads_refuse hmalformed
      flowItems := fun _ _ => reads_refuse hmalformed
      flowPairs := fun _ _ => reads_refuse hmalformed }
  | succ fuel h =>
    exact {
      node := h.node_succ hmalformed
      nodeUnless := h.nodeUnless_succ
      blockItems := h.blockItems_succ hmalformed
      levelItems := h.levelItems_succ
      blockPairs := h.blockPairs_succ hmalformed
      flowPair := h.flowPair_succ
      flowItems := h.flowItems_succ hmalformed
      flowPairs := h.flowPairs_succ hmalformed }

/-! ### Documents -/

section

variable (hmalformed : P .malformed)
include hmalformed

theorem reads_directives (fuel : Nat) (versioned : Bool) (handles : List (String × String)) :
    Reads cs P most depth depth (fun _ => True) (directives fuel versioned handles) := by
  induction fuel generalizing versioned handles with
  | zero => exact reads_refuse hmalformed
  | succ fuel ih =>
    have hrefuse : ∀ t : Token, Leads (fun r => r.Fits cs P most depth ∧ IsAt t r) P
        (fun _ r => True ∧ r.Fits cs P most depth)
        (refuse : ReadNode (List (String × String))) := fun _ => .throw hmalformed
    rw [directives]
    refine leads_peek.seq fun t _ => ?_
    split
    · split
      · exact hrefuse _
      · exact (leads_drop _).seq fun _ _ => ih _ _
    · split
      · exact hrefuse _
      · exact (leads_drop _).seq fun _ _ => ih _ _
    · exact (leads_drop _).seq fun _ _ => ih _ _
    · exact .pure fun _ hr => ⟨trivial, hr.1⟩

theorem reads_finish (fuel : Nat) : Reads cs P most depth depth (fun _ => True) (finish fuel) := by
  induction fuel with
  | zero => exact reads_refuse hmalformed
  | succ fuel ih =>
    rw [finish]
    refine reads_ifNext _ ih (reads_ifNext _ (Keeps.pure trivial) ?_)
    exact (reads_directives hmalformed _ _ _).bind fun _ _ => reads_refuse hmalformed

theorem reads_document (hspares : Spares P most maxDepth depth 0) (fuel : Nat) :
    Reads cs P most depth depth (fun _ => True) (document fuel) := by
  have hall : ReadsAll cs P most fuel := readsAll hmalformed fuel
  have hhandles : ∀ handles : List (String × String), Reads cs P most depth depth (fun _ => True)
      (modify fun r => { r with handles := handles } : ReadNode Unit) := fun handles =>
    Keeps.modify fun r hr => ⟨hr.nodes, hr.tokens, hr.fault, hr.room⟩
  have hfinish : ∀ root : NodeId, Reads cs P most depth depth (fun _ => True) (do
      finish fuel
      return root) := fun _ =>
    (reads_finish hmalformed fuel).bind fun _ _ => Keeps.pure trivial
  have hgiven : Reads cs P most depth depth (fun _ => True) (do
      let given ← directives fuel false []
      expect .documentStart
      modify fun r => { r with handles := given ++ usualHandles }
      let root ← nodeUnless fuel maxDepth isVoidDocument .block
      finish fuel
      return root) :=
    (reads_directives hmalformed _ _ _).bind fun _ _ =>
      (reads_expect hmalformed .documentStart).bind fun _ _ => (hhandles _).bind fun _ _ =>
        (hall.nodeUnless _ .block hspares).bind fun root _ => hfinish root
  refine reads_peek.bind fun t _ => ?_
  split
  · exact reads_absent
  · exact hgiven
  · exact hgiven
  · exact hgiven
  · exact hgiven
  · exact (hhandles _).bind fun _ _ => (hall.node .block hspares).bind fun root _ => hfinish root

end

end ReadNode

/-- So many collections open at once by their tokens are far from too many, whatever else is open. -/
def maxNesting : Nat := maxDepth / 4

/-- A text makes up a document, which has the usual tags if there is no exclamation mark, or it is
refused, but not as nested too deep if its tokens have no more collections open than they may. -/
theorem Document.ends_ofTokens {ts : Tokens} (hmalformed : P .malformed) (htell : ts.Tell cs)
    (hfault : ∀ fault, ts.fault = some fault → P fault)
    (hroom : P tooDeep ∨ Token.stayWithin maxNesting 0 ts.tokens = true) :
    Ends P (fun d => '!' ∉ cs → d.Fits) (ofTokens ts) := by
  have hspares : Spares P maxNesting maxDepth 0 0 := .inr (by decide)
  have hstart : NodeReader.Fits cs P maxNesting 0 { tokens := ts.tokens, fault := ts.fault } :=
    ⟨fun _ => nofun, htell.tokens, hfault, hroom⟩
  refine (ReadNode.reads_document hmalformed hspares _ _ hstart).bind fun (root, r) hr => ?_
  refine .ok fun hcs i => ?_
  -- a place without a node counts as an absent one
  unfold node
  rw [Array.getD_eq_getD_getElem?]
  cases hnode : r.nodes[i]? with
  | none => exact Node.fits_absent
  | some node => exact hr.2.nodes hcs node (Array.mem_of_getElem? hnode)

end Yaml
end ReleaseNotes
