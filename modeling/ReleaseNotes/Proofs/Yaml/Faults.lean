/-
What the values of a text are refused for.

The steps of the building are gone through once, for whatever a document keeps when its mappings are
merged.  Then they are put together with the reading before them: for any text, and for a text
without tags and escapes that is neither nested nor merged too deep and has no number of too many
parts.

Main statements:
* `Document.ends_build` — a document, by its scalars;
* `isShallow` — texts that are far from what the program has no room for;
* `ends_built`, `ends_built_untagged` — a text, and a shallow one without tags and escapes.
-/
import ReleaseNotes.Proofs.Yaml.Merging
import ReleaseNotes.Proofs.Yaml.Scalars
import ReleaseNotes.Yaml.Value

namespace ReleaseNotes
namespace Yaml

variable {P : Fault → Prop}

/-! ### Usual documents -/

/-- How many colons there are in a scalar. -/
def Node.colons : Node → Nat
  | .scalar _ text => text.count (.char ':')
  | _ => 0

namespace Node.Becomes

variable {node node' : Node}

theorem colons (h : node.Becomes node') : node'.colons = node.colons := by
  cases h <;> rfl

/-- Only a scalar can have the tag of a value that stands for its mapping. -/
theorem fits (h : node.Becomes node') (hfits : node.Fits) : node'.Fits := by
  cases h with
  | scalar text h =>
    rcases h with rfl | ⟨-, rfl⟩
    · exact hfits
    · exact .inr rfl
  | sequence items h =>
    rcases h with rfl | ⟨hstands, -⟩
    · exact hfits
    · cases hstands.symm.trans hfits
  | mapping pairs pairs' h =>
    rcases h with rfl | ⟨hstands, -⟩
    · exact hfits
    · cases hstands.symm.trans hfits

end Node.Becomes

namespace Document

variable {d d' : Document}

/-- A document has few merging keys, and no scalar of it has many colons. -/
def isModest (d : Document) : Bool :=
  d.mergings ≤ maxNesting && d.nodes.all fun node => node.colons ≤ Scalar.maxColons

theorem colons_le_of_isModest (h : d.isModest = true) (i : NodeId) :
    (d.node i).colons ≤ Scalar.maxColons := by
  unfold Document.node
  rw [Array.getD_eq_getD_getElem?]
  cases hnode : d.nodes[i]? with
  | none => exact Nat.zero_le _
  | some node =>
    have hall := Array.all_eq_true_iff_forall_mem.1 (Bool.and_eq_true_iff.1 h).2
    exact of_decide_eq_true (hall node (Array.mem_of_getElem? hnode))

/-- The nodes of a document have their usual tags, its mappings can be merged, and its numbers have
few parts. -/
structure IsUsual (d : Document) : Prop where
  fits : d.Fits
  mergings : d.mergings < maxCalls
  colons : ∀ i, (d.node i).colons ≤ Scalar.maxColons

theorem isUsual_of_isModest (hfits : d.Fits) (h : d.isModest = true) : d.IsUsual where
  fits := hfits
  mergings := (of_decide_eq_true (Bool.and_eq_true_iff.1 h).1).trans_lt (by decide)
  colons := colons_le_of_isModest h

theorem IsUsual.becomes (h : d.IsUsual) (hbecomes : d.Becomes d') : d'.IsUsual where
  fits i := (hbecomes.nodes i).fits (h.fits i)
  mergings := hbecomes.mergings_le.trans_lt h.mergings
  colons i := (hbecomes.nodes i).colons ▸ h.colons i

/-! ### Scalars of a document -/

/-- In a usual document no collection is built as a scalar. -/
theorem IsUsual.ends_scalarValue {i : NodeId} (h : d.IsUsual)
    (hi : (d.node i).tag.isCollection = false) :
    Ends Fault.IsValue (fun _ => True) (d.scalarValue i) := by
  have hfits := h.fits i
  have hcolons := h.colons i
  unfold scalarValue
  rw [maxCalls, standInText]
  revert hi hfits hcolons
  cases d.node i with
  | scalar tag text => exact fun _ => Scalar.ends_value_of_fits
  | sequence tag items =>
    rintro hi rfl
    cases hi
  | mapping tag pairs =>
    rintro hi rfl
    cases hi

theorem ends_standInText (d : Document) (room : Nat) (i : NodeId) :
    Ends Fault.IsKnown (fun _ => True) (d.standInText room i) := by
  induction room generalizing i with
  | zero => exact .error (.inr (by decide))
  | succ room ih =>
    rw [standInText]
    split
    · exact .ok trivial
    · exact .error trivial
    · split
      · exact ih _
      · exact .error trivial

theorem ends_scalarValue (d : Document) (i : NodeId) :
    Ends Fault.IsKnown (fun _ => True) (d.scalarValue i) := by
  refine (d.ends_standInText _ i).bind fun text _ => ?_
  split
  · exact .error (.inr (by decide))
  · exact Scalar.ends_value _ _

end Document

/-! ### Building -/

namespace Build

/-- A step of the building keeps its document as it should be. -/
abbrev Holds {α : Type} (I : Document → Prop) (P : Fault → Prop) (x : Build α) : Prop :=
  Keeps (fun b : Building => I b.document) P (fun _ => True) x

variable {I : Document → Prop} (hmalformed : P .malformed)
  (hspread : ∀ d i, I d → Ends P I (Document.spread d i))
  (hscalar : ∀ d i, I d → (d.node i).tag.isCollection = false →
    Ends P (fun _ => True) (d.scalarValue i))

theorem holds_put (i : NodeId) (part : Part) : Holds I P (put i part) := Keeps.modify fun _ => id

include hscalar in
theorem holds_start (i : NodeId) : Holds I P (start i) := by
  refine Keeps.get.bind fun b hb => ?_
  split
  · exact Keeps.pure trivial
  · split
    · exact (holds_put _ _).bind fun _ _ => Keeps.modify fun _ => id
    · next hcollection =>
      exact (Keeps.lift (hscalar _ _ hb (by simpa using hcollection))).bind fun _ _ =>
        holds_put _ _

include hmalformed hscalar in
theorem holds_couple (i : NodeId) : Holds I P (couple i) := by
  refine Keeps.get.bind fun b _ => ?_
  split
  · exact (holds_start hscalar _).bind fun _ _ => (holds_start hscalar _).bind fun _ _ =>
      Keeps.pure trivial
  · exact .throw hmalformed

include hmalformed hscalar in
theorem holds_entry (pair : NodeId × NodeId) : Holds I P (entry pair) := by
  refine (holds_start hscalar _).bind fun _ _ => Keeps.get.bind fun b _ => ?_
  extract_lets rest
  have hrest : ∀ u, Holds I P (rest u) := fun _ => holds_start hscalar _
  split
  · exact Leads.bind (Q := fun _ _ => False) (.throw hmalformed) fun _ _ => False.elim
  · exact hrest ()

include hmalformed hspread hscalar in
theorem holds_entries (i : NodeId) : Holds I P (entries i) := by
  refine Keeps.get.bind fun b hb => (Keeps.lift (hspread _ i hb)).bind fun document hdocument => ?_
  have hset : Holds I P (set { b with document } : Build Unit) := fun _ _ => .ok ⟨trivial, hdocument⟩
  exact hset.bind fun _ _ => (Keeps.forM (holds_entry hmalformed hscalar)).bind fun _ _ =>
    Keeps.pure trivial

include hmalformed hspread hscalar in
theorem holds_part (i : NodeId) : Holds I P (part i) := by
  have hcouples : ∀ items : List NodeId, Holds I P (Part.couples <$> items.mapM couple) := fun _ =>
    (Keeps.mapM (holds_couple hmalformed hscalar)).map fun _ _ => trivial
  have hentries : ∀ make : List (NodeId × NodeId) → Part, Holds I P (make <$> entries i) := fun _ =>
    (holds_entries hmalformed hspread hscalar i).map fun _ _ => trivial
  refine Keeps.get.bind fun b _ => ?_
  split
  · exact (Keeps.forM (holds_start hscalar)).bind fun _ _ => Keeps.pure trivial
  · exact hcouples _
  · exact hcouples _
  · exact hentries _
  · exact hentries _
  · exact .throw hmalformed

include hmalformed hspread hscalar in
/-- By induction on how many collections are still to be completed. -/
theorem holds_completeFrom (fuel k : Nat) : Holds I P (completeFrom fuel k) := by
  induction fuel generalizing k with
  | zero => exact Keeps.pure trivial
  | succ fuel ih =>
    rw [completeFrom]
    refine Keeps.get.bind fun b _ => ?_
    split
    · exact Keeps.pure trivial
    · exact (holds_part hmalformed hspread hscalar _).bind fun _ _ =>
        (holds_put _ _).bind fun _ _ => ih _

end Build

/-- A document makes its values, or is refused for what its scalars or its mappings are refused for,
if merging leaves it as it should be. -/
theorem Document.ends_build {I : Document → Prop} (hmalformed : P .malformed)
    (hspread : ∀ d i, I d → Ends P I (Document.spread d i))
    (hscalar : ∀ d i, I d → (d.node i).tag.isCollection = false →
      Ends P (fun _ => True) (d.scalarValue i)) {d : Document} (hd : I d) :
    Ends P (fun _ => True) d.build := by
  have hsteps : Build.Holds I P (do
      Build.start d.root
      Build.completeFrom d.nodes.size 0) :=
    (Build.holds_start hscalar _).bind fun _ _ =>
      Build.holds_completeFrom hmalformed hspread hscalar _ _
  exact (hsteps { document := d, parts := d.nodes.map fun _ => none } hd).bind fun _ _ =>
    .ok trivial

/-! ### Texts -/

theorem Fault.LiesIn.isKnown {cs : List Char} {fault : Fault} (h : fault.LiesIn cs) :
    fault.IsKnown := by
  cases fault with
  | malformed => trivial
  | unbuildable f =>
    rcases h with hvalue | ⟨-, hoverflow⟩
    · exact .inl hvalue
    · exact .inr (hoverflow ▸ by decide)

theorem Fault.LiesIn.isValue {cs : List Char} {fault : Fault} (h : fault.LiesIn cs)
    (hescape : '\\' ∉ cs) : fault.IsValue := by
  cases fault with
  | malformed => trivial
  | unbuildable f => exact h.resolve_right fun hmarked => hescape hmarked.1

/-- Whatever a text is refused for is known. -/
theorem ends_built (cs : List Char) : Ends Fault.IsKnown (fun _ => True) (built cs) := by
  have hdeep : tooDeep.IsKnown := .inr (by decide)
  have htell := tell_tokens cs
  refine (Document.ends_ofTokens trivial htell (fun fault h => (htell.fault fault h).isKnown)
    (.inl hdeep)).bind fun d _ => ?_
  refine Document.ends_build (I := fun _ => True) trivial (fun d i _ => ?_)
    (fun d i _ _ => d.ends_scalarValue i) trivial
  exact (Document.ends_spread trivial (.inl hdeep)).mono (fun _ => id) fun _ _ => trivial

/-- The collections of a text do not stand too deep in each other, it has few merging keys, and no
scalar of it has many colons. -/
def isShallow (cs : List Char) : Bool :=
  Token.stayWithin maxNesting 0 (tokens cs).tokens &&
    match Document.ofTokens (tokens cs) with
    | .ok d => d.isModest
    | .error _ => true

/-- A text without an exclamation mark and without a backslash that is shallow is malformed or has a
wrong value, if it is refused. -/
theorem ends_built_untagged {cs : List Char} (htag : '!' ∉ cs) (hescape : '\\' ∉ cs)
    (hshallow : isShallow cs = true) : Ends Fault.IsValue (fun _ => True) (built cs) := by
  have htell := tell_tokens cs
  obtain ⟨hwithin, hmodest⟩ := Bool.and_eq_true_iff.1 hshallow
  have hdocument := Document.ends_ofTokens (P := Fault.IsValue) trivial htell
    (fun fault h => (htell.fault fault h).isValue hescape) (.inr hwithin)
  unfold built
  revert hdocument hmodest
  generalize Document.ofTokens (tokens cs) = document
  rintro hmodest (hfits | hfault)
  · refine Document.ends_build trivial (fun d i hd => ?_) (fun _ _ hd => hd.ends_scalarValue)
      (Document.isUsual_of_isModest (hfits htag) hmodest)
    exact (Document.ends_spread trivial (.inr hd.mergings)).mono (fun _ => id) fun _ => hd.becomes
  · exact .error hfault

end Yaml
end ReleaseNotes
