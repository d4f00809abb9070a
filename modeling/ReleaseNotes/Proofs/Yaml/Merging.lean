/-
What merging changes.

Merging changes nothing of a document but the pairs of its mappings, and the tags of the keys that
are mere texts in them.  It takes merging keys out of mappings and puts none in, so no more mappings
are merged inside each other than there are merging keys.

Main statements:
* `Node.Becomes`, `Document.Becomes` — what merging may change;
* `Document.mergings` — how many merging keys there are;
* `Document.Change.spreads` — what the merging of a mapping keeps;
* `Document.ends_spread` — how it ends.
-/
import Mathlib.Algebra.GroupWithZero.Nat
import Mathlib.Algebra.Order.BigOperators.Group.List
import Mathlib.Algebra.Order.Group.Nat
import ReleaseNotes.Proofs.Yaml.Steps
import ReleaseNotes.Yaml.Merge

namespace ReleaseNotes
namespace Yaml

variable {P : Fault → Prop}

/-! ### What may change -/

/-- A tag stays what it is, but that of a value that stands for its mapping may become that of a
text. -/
def Tag.Becomes (tag tag' : Tag) : Prop := tag' = tag ∨ tag = .standIn ∧ tag' = .text

theorem Tag.Becomes.trans {tag tag' tag'' : Tag} (h : tag.Becomes tag') (h' : tag'.Becomes tag'') :
    tag.Becomes tag'' := by
  rcases h with rfl | ⟨hstands, htext⟩
  · exact h'
  · rcases h' with rfl | ⟨hstands', -⟩
    · exact .inr ⟨hstands, htext⟩
    · cases htext.symm.trans hstands'

/-- A node becomes another one: its tag may change as tags may, and a mapping may get other pairs. -/
inductive Node.Becomes : Node → Node → Prop where
  | scalar {tag tag' : Tag} (text : Text) (h : tag.Becomes tag') :
      Becomes (.scalar tag text) (.scalar tag' text)
  | sequence {tag tag' : Tag} (items : List NodeId) (h : tag.Becomes tag') :
      Becomes (.sequence tag items) (.sequence tag' items)
  | mapping {tag tag' : Tag} (pairs pairs' : List (NodeId × NodeId)) (h : tag.Becomes tag') :
      Becomes (.mapping tag pairs) (.mapping tag' pairs')

namespace Node.Becomes

variable {node node' node'' : Node}

theorem refl (node : Node) : node.Becomes node := by
  cases node with
  | scalar tag text => exact .scalar text (.inl rfl)
  | sequence tag items => exact .sequence items (.inl rfl)
  | mapping tag pairs => exact .mapping pairs pairs (.inl rfl)

theorem trans (h : node.Becomes node') (h' : node'.Becomes node'') : node.Becomes node'' := by
  cases h with
  | scalar text h => cases h' with
    | scalar _ h' => exact .scalar text (h.trans h')
  | sequence items h => cases h' with
    | sequence _ h' => exact .sequence items (h.trans h')
  | mapping pairs pairs' h => cases h' with
    | mapping _ pairs'' h' => exact .mapping pairs pairs'' (h.trans h')

theorem tag (h : node.Becomes node') : node.tag.Becomes node'.tag := by
  cases h <;> assumption

theorem withTag (h : node.tag.Becomes tag') : node.Becomes (node.withTag tag') := by
  cases node with
  | scalar tag text => exact .scalar text h
  | sequence tag items => exact .sequence items h
  | mapping tag pairs => exact .mapping pairs pairs h

end Node.Becomes

theorem Node.pairs?_withTag (tag : Tag) (node : Node) : (node.withTag tag).pairs? = node.pairs? := by
  cases node <;> rfl

namespace Document

variable {d d' d'' : Document} {i : NodeId} {pairs others : List (NodeId × NodeId)}

/-- How many merging keys the mappings of a document have. -/
def mergings (d : Document) : Nat := ((List.range d.nodes.size).map d.mergingsAt).sum

/-- A document becomes another one: its nodes become others, and no mapping gets more merging keys. -/
structure Becomes (d d' : Document) : Prop where
  size : d'.nodes.size = d.nodes.size
  nodes : ∀ i, (d.node i).Becomes (d'.node i)
  mergingsAt : ∀ i, d'.mergingsAt i ≤ d.mergingsAt i

namespace Becomes

theorem refl (d : Document) : d.Becomes d := ⟨rfl, fun _ => .refl _, fun _ => Nat.le_refl _⟩

theorem trans (h : d.Becomes d') (h' : d'.Becomes d'') : d.Becomes d'' where
  size := h'.size.trans h.size
  nodes i := (h.nodes i).trans (h'.nodes i)
  mergingsAt i := (h'.mergingsAt i).trans (h.mergingsAt i)

end Becomes

theorem isMerging_congr (h : ∀ i, (d.node i).Becomes (d'.node i)) : d'.isMerging = d.isMerging := by
  funext pair
  rcases (h pair.1).tag with hsame | ⟨hstands, htext⟩
  · simp [isMerging, hsame]
  · simp [isMerging, hstands, htext]

theorem Becomes.mergings_le (h : d.Becomes d') : d'.mergings ≤ d.mergings := by
  unfold mergings
  rw [h.size]
  exact List.sum_le_sum fun i _ => h.mergingsAt i

/-- If a mapping loses a merging key, there are fewer. -/
theorem Becomes.mergings_lt (h : d.Becomes d') (hless : d'.mergingsAt i < d.mergingsAt i) :
    d'.mergings < d.mergings := by
  have hsize : i < d.nodes.size := by
    by_contra hi
    have hnone : d.pairs? i = none := by
      simp [pairs?, Document.node, Node.absent, Node.pairs?, Array.getD_eq_getD_getElem?,
        Array.getElem?_eq_none (Nat.le_of_not_lt hi)]
    simp [Document.mergingsAt, hnone] at hless
  unfold mergings
  rw [h.size]
  exact List.sum_lt_sum _ _ (fun i _ => h.mergingsAt i) ⟨i, List.mem_range.2 hsize, hless⟩

/-! ### Changes -/

theorem mergingsAt_of_pairs? (h : d.pairs? i = some pairs) :
    d.mergingsAt i = pairs.countP d.isMerging := by
  rw [mergingsAt, h, Option.getD_some]

theorem node_withNode (d : Document) (i : NodeId) (node : Node) (j : NodeId) :
    (d.withNode i node).node j = if i = j ∧ j < d.nodes.size then node else d.node j := by
  unfold withNode Document.node
  rw [Array.getD_eq_getD_getElem?, Array.getD_eq_getD_getElem?, Array.getElem?_setIfInBounds]
  by_cases hij : i = j
  · subst hij
    by_cases hi : i < d.nodes.size <;> simp [hi]
  · simp [hij]

theorem becomes_withNode {node : Node} (h : (d.node i).Becomes node) (j : NodeId) :
    (d.node j).Becomes ((d.withNode i node).node j) := by
  rw [node_withNode]
  split
  · next hij => exact hij.1 ▸ h
  · exact .refl _

theorem exists_of_pairs? (h : d.pairs? i = some pairs) : ∃ tag, d.node i = .mapping tag pairs := by
  unfold pairs? Node.pairs? at h
  cases heq : d.node i with
  | mapping tag others =>
    rw [heq] at h
    cases h
    exact ⟨tag, rfl⟩
  | _ =>
    rw [heq] at h
    cases h

theorem lt_size_of_pairs? (h : d.pairs? i = some pairs) : i < d.nodes.size := by
  by_contra hi
  obtain ⟨tag, hnode⟩ := exists_of_pairs? h
  rw [Document.node, Array.getD_eq_getD_getElem?, Array.getElem?_eq_none (Nat.le_of_not_lt hi)]
    at hnode
  cases hnode

theorem pairs?_withPairs (h : d.pairs? i = some others) (j : NodeId) :
    (d.withPairs i pairs).pairs? j = if i = j then some pairs else d.pairs? j := by
  rw [pairs?, withPairs, node_withNode]
  by_cases hij : i = j
  · subst hij
    simp [lt_size_of_pairs? h, Node.pairs?]
  · simp [hij, pairs?]

theorem nodes_withPairs (h : d.pairs? i = some others) (j : NodeId) :
    (d.node j).Becomes ((d.withPairs i pairs).node j) := by
  obtain ⟨tag, hnode⟩ := exists_of_pairs? h
  refine becomes_withNode ?_ j
  rw [hnode]
  exact .mapping others pairs (.inl rfl)

theorem mergingsAt_withPairs (h : d.pairs? i = some others) (j : NodeId) :
    (d.withPairs i pairs).mergingsAt j =
      if i = j then pairs.countP d.isMerging else d.mergingsAt j := by
  rw [mergingsAt, isMerging_congr (nodes_withPairs h), pairs?_withPairs h]
  split
  · rfl
  · rfl

/-- A mapping may get pairs with no more merging keys than it has. -/
theorem becomes_withPairs (h : d.pairs? i = some others)
    (hcount : pairs.countP d.isMerging ≤ others.countP d.isMerging) :
    d.Becomes (d.withPairs i pairs) where
  size := Array.size_setIfInBounds
  nodes := nodes_withPairs h
  mergingsAt j := by
    rw [mergingsAt_withPairs h]
    split
    · next hij =>
      subst hij
      rwa [mergingsAt_of_pairs? h]
    · exact Nat.le_refl _

theorem becomes_withName (d : Document) (key : NodeId) : d.Becomes (d.withName key) := by
  unfold withName
  dsimp only
  split
  · next hstands =>
    have hnodes := becomes_withNode (d := d) (.withTag (.inr ⟨hstands, rfl⟩) : (d.node key).Becomes _)
    refine ⟨Array.size_setIfInBounds, hnodes, fun j => le_of_eq ?_⟩
    have hpairs : (d.withNode key ((d.node key).withTag .text)).pairs? j = d.pairs? j := by
      rw [pairs?, pairs?, node_withNode]
      split
      · next hkey => rw [← hkey.1, Node.pairs?_withTag]
      · rfl
    rw [mergingsAt, mergingsAt, hpairs, isMerging_congr hnodes]
  · exact .refl d

theorem becomes_withNames (d : Document) (keys : List NodeId) :
    d.Becomes (keys.foldl Document.withName d) := by
  induction keys generalizing d with
  | nil => exact .refl d
  | cons key keys ih => exact (d.becomes_withName key).trans (ih _)

theorem countP_of_takeMerging_eq_none (h : d.takeMerging pairs = none) :
    pairs.countP d.isMerging = 0 := by
  induction pairs with
  | nil => rfl
  | cons pair pairs ih =>
    rw [takeMerging] at h
    split at h
    · cases h
    · next hpair => rw [List.countP_cons_of_neg hpair, ih (Option.map_eq_none_iff.1 h)]

theorem countP_of_takeMerging {value : NodeId} (h : d.takeMerging pairs = some (value, others)) :
    others.countP d.isMerging + 1 = pairs.countP d.isMerging := by
  induction pairs generalizing others with
  | nil => cases h
  | cons pair pairs ih =>
    rw [takeMerging] at h
    split at h
    · next hpair =>
      cases h
      rw [List.countP_cons_of_pos hpair]
    · next hpair =>
      obtain ⟨⟨merged, rest⟩, hrest, heq⟩ := Option.map_eq_some_iff.1 h
      cases heq
      rw [List.countP_cons_of_neg hpair, List.countP_cons_of_neg hpair, ih hrest]

theorem countP_reverse_flatten {parts : List (List (NodeId × NodeId))}
    (h : ∀ part ∈ parts, part.countP d.isMerging = 0) :
    parts.reverse.flatten.countP d.isMerging = 0 := by
  refine List.countP_eq_zero.2 fun pair hpair => ?_
  obtain ⟨part, hpart, hmem⟩ := List.mem_flatten.1 hpair
  exact List.countP_eq_zero.1 (h part (List.mem_reverse.1 hpart)) pair hmem

/-- A mapping that loses its first merging key has one less. -/
theorem becomes_taken {value : NodeId} (hown : d.pairs? i = some pairs)
    (htaken : d.takeMerging pairs = some (value, others)) :
    d.Becomes (d.withPairs i others) ∧
      (d.withPairs i others).mergingsAt i + 1 = d.mergingsAt i := by
  have hcount := countP_of_takeMerging htaken
  refine ⟨becomes_withPairs hown (by omega), ?_⟩
  rw [mergingsAt_withPairs hown, if_pos rfl, mergingsAt_of_pairs? hown, hcount]

/-! ### Merging -/

namespace Change

/-- The merging of a mapping takes all its merging keys out, if there is room for one more than there
are in the document, or the document may be told to be too deep. -/
def Spreads (P : Fault → Prop) (room : Nat) (spread : NodeId → Change Unit) : Prop :=
  ∀ (i : NodeId) (d : Document), (P tooDeep ∨ d.mergings < room) →
    Leads (d.Becomes ·) P (fun _ d' => d.Becomes d' ∧ d'.mergingsAt i = 0) (spread i)

variable {room : Nat} {spread : NodeId → Change Unit} {I : Document → Prop}

/-- Whatever is brought behind the loss of a merging key, the mapping has one less than it had. -/
theorem leads_of_taken {d e : Document} {i : NodeId} {x : Change (List (NodeId × NodeId))}
    (hbecomes : d.Becomes e) (hless : e.mergingsAt i + 1 = d.mergingsAt i)
    (hx : Keeps (e.Becomes ·) P (fun pairs => pairs.countP e.isMerging = 0) x) :
    Leads (· = e) P (fun pairs d' => pairs.countP d.isMerging = 0 ∧
      d.Becomes d' ∧ d'.mergingsAt i ≤ d.mergingsAt i - 1) x := by
  refine (hx.of_imp ?_).mono fun pairs d' ⟨hpairs, hd'⟩ => ?_
  · rintro _ rfl
    exact .refl _
  · rw [isMerging_congr hbecomes.nodes] at hpairs
    have := hd'.mergingsAt i
    exact ⟨hpairs, hbecomes.trans hd', by omega⟩

section

variable (hmalformed : P .malformed)
include hmalformed

theorem leads_pairs (i : NodeId) :
    Leads I P (fun pairs d => d.pairs? i = some pairs ∧ I d) (Change.pairs i) := by
  refine Leads.of_each fun d hd => Keeps.get.bind fun e he => ?_
  subst he
  split
  · next pairs hpairs =>
    refine .pure ?_
    rintro _ rfl
    exact ⟨hpairs, hd⟩
  · exact .throw hmalformed

/-- What a mapping brings has no merging keys left. -/
theorem keeps_brought (hspread : Spreads P room spread) {d : Document}
    (hroom : P tooDeep ∨ d.mergings < room) (i : NodeId) :
    Keeps (d.Becomes ·) P (fun pairs => pairs.countP d.isMerging = 0) (brought spread i) := by
  refine Leads.bind (leads_pairs hmalformed i) fun _ => ?_
  refine ((hspread i d hroom).of_imp fun _ h => h.2).bind fun _ => ?_
  refine (leads_pairs hmalformed i).mono fun pairs d' ⟨hpairs, hd', hnone⟩ => ⟨?_, hd'⟩
  show pairs.countP d.isMerging = 0
  rw [← isMerging_congr hd'.nodes, ← mergingsAt_of_pairs? hpairs, hnone]

/-- Each time a mapping loses a merging key and is brought pairs without any. -/
theorem leads_takeOver (hspread : Spreads P room spread) {d : Document} {i : NodeId}
    (hroom : P tooDeep ∨ d.mergings < room + 1) :
    Leads (· = d) P (fun pairs d' => pairs.countP d.isMerging = 0 ∧
      d.Becomes d' ∧ d'.mergingsAt i ≤ d.mergingsAt i - 1) (takeOver spread i) := by
  refine Keeps.get.bind fun given hgiven => ?_
  subst hgiven
  refine (leads_pairs hmalformed i).bind fun own => Leads.of_each fun e ⟨hown, he⟩ => ?_
  subst he
  split
  · next hnone =>
    have hzero := countP_of_takeMerging_eq_none hnone
    refine .pure ?_
    rintro _ rfl
    refine ⟨rfl, .refl _, ?_⟩
    rw [mergingsAt_of_pairs? hown, hzero]
  · next value rest hsome =>
    obtain ⟨hbecomes, hless⟩ := becomes_taken hown hsome
    have hroom' : P tooDeep ∨ (e.withPairs i rest).mergings < room := hroom.imp_right fun h => by
      have := hbecomes.mergings_lt (i := i) (by omega)
      omega
    have htaken : ∀ {x : Change (List (NodeId × NodeId))},
        Keeps ((e.withPairs i rest).Becomes ·) P
          (fun pairs => pairs.countP (e.withPairs i rest).isMerging = 0) x →
        Leads (· = e.withPairs i rest) P (fun pairs d' => pairs.countP e.isMerging = 0 ∧
          e.Becomes d' ∧ d'.mergingsAt i ≤ e.mergingsAt i - 1) x :=
      leads_of_taken hbecomes hless
    refine (Leads.modify (J := (· = e.withPairs i rest)) ?_).bind fun _ => ?_
    · rintro _ rfl
      rfl
    · refine Keeps.get.bind fun d' hd' => ?_
      subst hd'
      split
      · exact htaken (keeps_brought hmalformed hspread hroom' value)
      · exact htaken (Keeps.map (Keeps.mapM (keeps_brought hmalformed hspread hroom'))
          fun _ => countP_reverse_flatten)
      · exact .throw hmalformed

theorem leads_takeAll (hspread : Spreads P room spread) {i : NodeId} (n : Nat) {d : Document}
    (hroom : P tooDeep ∨ d.mergings < room + 1) :
    Leads (· = d) P (fun pairs d' => pairs.countP d.isMerging = 0 ∧
      d.Becomes d' ∧ d'.mergingsAt i ≤ d.mergingsAt i - n) (takeAll spread i n) := by
  induction n generalizing d with
  | zero =>
    refine .pure ?_
    rintro _ rfl
    exact ⟨rfl, .refl _, Nat.le_refl _⟩
  | succ n ih =>
    rw [takeAll]
    refine (leads_takeOver hmalformed hspread hroom).bind fun first => Leads.of_each fun e he => ?_
    obtain ⟨hfirst, hbecomes, hless⟩ := he
    have hroom' : P tooDeep ∨ e.mergings < room + 1 :=
      hroom.imp_right fun h => hbecomes.mergings_le.trans_lt h
    refine (ih hroom').bind fun others => .pure fun d' ⟨hothers, hd', hrest⟩ => ?_
    rw [isMerging_congr hbecomes.nodes] at hothers
    refine ⟨?_, hbecomes.trans hd', by omega⟩
    rw [List.countP_append, hfirst, hothers]

/-- By induction on the room: the mappings that a mapping merges have one merging key less to meet. -/
theorem spreads (room : Nat) : Spreads P room (Change.spread room) := by
  induction room with
  | zero => exact fun i d hroom => .throw (hroom.resolve_right (Nat.not_lt_zero _))
  | succ room ih =>
    intro i d hroom
    refine Leads.of_each fun e he => ?_
    have hroom' : P tooDeep ∨ e.mergings < room + 1 :=
      hroom.imp_right fun h => he.mergings_le.trans_lt h
    rw [Change.spread]
    refine Keeps.get.bind fun e' he' => ?_
    subst he'
    refine (leads_takeAll hmalformed ih _ hroom').bind fun merged => ?_
    refine (leads_pairs hmalformed i).bind fun own => .modify fun d' hd' => ?_
    obtain ⟨hown, hmerged, hbecomes, hnone⟩ := hd'
    have hcount : (merged ++ own).countP d'.isMerging = 0 := by
      rw [List.countP_append, ← mergingsAt_of_pairs? hown, isMerging_congr hbecomes.nodes]
      omega
    have hpairs : d'.Becomes (d'.withPairs i (merged ++ own)) := becomes_withPairs hown (by omega)
    have hnames := becomes_withNames (d'.withPairs i (merged ++ own)) (own.map Prod.fst)
    refine ⟨he.trans (hbecomes.trans (hpairs.trans hnames)), ?_⟩
    have hleft := hnames.mergingsAt i
    rw [mergingsAt_withPairs hown, if_pos rfl, hcount] at hleft
    omega

end

end Change

/-- A mapping is merged, and if there are fewer merging keys than may be merged inside each other, it
is not told to be too deep. -/
theorem ends_spread (hmalformed : P .malformed) (hroom : P tooDeep ∨ d.mergings < maxCalls) :
    Ends P d.Becomes (d.spread i) :=
  (Change.spreads hmalformed maxCalls i d hroom d (.refl d)).map fun _ h => h.1

end Document
end Yaml
end ReleaseNotes
