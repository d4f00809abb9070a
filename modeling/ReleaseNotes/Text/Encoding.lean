/-
Encoding of text.

Text that leaves the program is encoded.  A lone half has no encoding at all, and a character beyond
ASCII none where only ASCII may stand.  What is told of a text that cannot be encoded is the first
unit without an encoding, and the run of such units that it begins.

Main statements:
* `Encoding.fault?` — what keeps a text from being encoded;
* `EncodingFault.message` — how it is told;
* `Encoding.fault?_utf8_ofString` — nothing keeps a string from being encoded.
-/
import ReleaseNotes.Decimal.Numeral
import ReleaseNotes.Text.Quoted

namespace ReleaseNotes

/-- The encodings in use. -/
inductive Encoding where
  | utf8
  | ascii
  deriving DecidableEq, Repr

/-- The units of a text, the first at a place and more right behind it, that have no encoding. -/
structure EncodingFault where
  encoding : Encoding
  place : Nat
  first : TextUnit
  more : Nat
  deriving DecidableEq, Repr

namespace Encoding

/-- The name of an encoding. -/
def name : Encoding → String
  | utf8 => "utf-8"
  | ascii => "ascii"

/-- Why a unit has no encoding. -/
def reason : Encoding → String
  | utf8 => "surrogates not allowed"
  | ascii => "ordinal not in range(128)"

/-- Whether a unit has an encoding. -/
def covers : Encoding → TextUnit → Bool
  | utf8, u => u.char?.isSome
  | ascii, u => u.passes fun c => c.toNat < 0x80

/-- What keeps a text from being encoded. -/
def fault? (e : Encoding) (t : Text) : Option EncodingFault :=
  match t.dropWhile e.covers with
  | [] => none
  | u :: rest =>
    some ⟨e, (t.takeWhile e.covers).length, u, (rest.takeWhile fun v => !e.covers v).length⟩

theorem dropWhile_covers_ofChars (cs : List Char) :
    (Text.ofChars cs).dropWhile utf8.covers = [] := by
  induction cs with
  | nil => rfl
  | cons _ _ ih => exact ih

theorem fault?_utf8_ofString (s : String) : utf8.fault? (Text.ofString s) = none := by
  simp [fault?, Text.ofString, dropWhile_covers_ofChars]

end Encoding

/-- The message on units that have no encoding. -/
def EncodingFault.message (f : EncodingFault) : String :=
  quoted f.encoding.name ++ " codec can't encode character" ++
    (if f.more = 0 then
      " '" ++ String.ofList (Quoted.escape f.first.code) ++ "' in position " ++
        Numeral.print f.place
    else "s in position " ++ Numeral.print f.place ++ "-" ++ Numeral.print (f.place + f.more)) ++
    ": " ++ f.encoding.reason

end ReleaseNotes
