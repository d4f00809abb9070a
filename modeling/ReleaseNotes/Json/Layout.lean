/-
Layouts of documents.

A document has one item a line, or it stands on one line with no blanks between its parts.  What can
be written does not depend on the layout.

Main statements:
* `Json.Layout` — the two layouts;
* `Json.documentIn` — the document of a value in a layout, unless a text of it cannot be encoded.
-/
import ReleaseNotes.Json.Sendable

namespace ReleaseNotes
namespace Json

/-- Documents on one line have no blanks between their parts. -/
def Style.documentLine : Style := ⟨false, .document, false⟩

/-- The layouts of a document. -/
inductive Layout where
  /-- One item a line. -/
  | indented
  /-- Everything on one line. -/
  | line
  deriving DecidableEq, Repr

/-- The text of a value in a layout. -/
def Layout.text : Layout → Json → Text
  | indented, j => Json.indented .document j
  | line, j => Json.compact .documentLine j

/-- The document of a value in a layout, unless one of its texts cannot be encoded. -/
def documentIn (layout : Layout) (j : Json) : Except EncodingFault Text :=
  match j.texts.findSome? Encoding.utf8.fault? with
  | some fault => .error fault
  | none => .ok (layout.text j.presentable)

theorem documentIn_indented (j : Json) : j.documentIn .indented = j.document := rfl

end Json
end ReleaseNotes
