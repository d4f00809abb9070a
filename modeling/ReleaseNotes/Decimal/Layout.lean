/-
Layout of decimals.

How the shortest decimal of a float is set out: where positional notation ends, how an exponent is
written, and the texts of what is no number.

Main statements:
* `DecimalLayout` — the decisions of one format;
* `DecimalLayout.print` — the text of a float under them;
* `DecimalLayout.json`, `DecimalLayout.display`, `DecimalLayout.document` — the formats in use.
-/
import ReleaseNotes.Decimal.Shortest

namespace ReleaseNotes

/-- The decisions of a float format. -/
structure DecimalLayout where
  /-- The least exponent of the leading digit that is written positionally. -/
  least : Int
  /-- The greatest exponent of the leading digit that is written positionally. -/
  greatest : Int
  /-- The least number of digits of an exponent. -/
  exponentWidth : Nat
  nan : String
  infinity : String
  negativeInfinity : String

namespace DecimalLayout

/-- Values inside JSON text: positional from `0.0001` to below `10 ^ 16`, an exponent has a sign and
two digits. -/
def json : DecimalLayout := ⟨-4, 15, 2, "NaN", "Infinity", "-Infinity"⟩

/-- Values inside messages: as in JSON text, with the short names of what is no number. -/
def display : DecimalLayout := ⟨-4, 15, 2, "nan", "inf", "-inf"⟩

/-- Values inside printed documents: positional from `0.00001`, an exponent is not padded, and what
is no number is null. -/
def document : DecimalLayout := ⟨-5, 15, 1, "null", "null", "null"⟩

/-- The sign and the digits of an exponent. -/
def exponent (layout : DecimalLayout) (e : Int) : List Char :=
  let ds := Numeral.digits e.natAbs
  (if e < 0 then '-' else '+') :: (List.replicate (layout.exponentWidth - ds.length) '0' ++ ds)

/-- The text of a decimal magnitude. -/
def magnitude (layout : DecimalLayout) (d : Decimal) : List Char :=
  let ds := Numeral.digits d.digits
  let lead : Int := d.exponent + ds.length - 1
  if layout.least ≤ lead ∧ lead ≤ layout.greatest then
    match lead with
    | .negSucc k => '0' :: '.' :: (List.replicate k '0' ++ ds)
    | .ofNat k =>
      let whole := ds.take (k + 1)
      let fraction := ds.drop (k + 1)
      whole ++ List.replicate (k + 1 - whole.length) '0' ++ '.' ::
        (if fraction.isEmpty then ['0'] else fraction)
  else
    match ds with
    | [] => []
    | [c] => c :: 'e' :: layout.exponent lead
    | c :: rest => c :: '.' :: (rest ++ 'e' :: layout.exponent lead)

/-- The text of a float. -/
def print (layout : DecimalLayout) (x : Float) : String :=
  let negative := x.toBits >>> 63 == 1
  match Binary.ofFloat? x with
  | none =>
    if x.isNaN then layout.nan
    else if negative then layout.negativeInfinity else layout.infinity
  | some b =>
    let text := layout.magnitude b.shortest
    String.ofList (if negative then '-' :: text else text)

end DecimalLayout
end ReleaseNotes
