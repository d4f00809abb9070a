/-
Semantic versions.

A version has three numbers, identifiers of a prerelease, and identifiers of a build.

Main statements:
* `Version` — the parts of a version;
* `Version.print` — the text of a version, without a leading `v`;
* `Version.text` — the text, unless a number is too long to be written.
-/
import ReleaseNotes.Failure

namespace ReleaseNotes

/-- A semantic version. -/
structure Version where
  major : Nat
  minor : Nat
  patch : Nat
  prerelease : List String := []
  build : List String := []
  deriving DecidableEq, Repr

namespace Version

/-- The three numbers of a version. -/
def core (v : Version) : List Nat := [v.major, v.minor, v.patch]

/-- Identifiers joined by points. -/
def dotted (identifiers : List String) : List Char :=
  List.intercalate ['.'] (identifiers.map String.toList)

/-- The characters of a version. -/
def chars (v : Version) : List Char :=
  List.intercalate ['.'] (v.core.map Numeral.digits) ++
    (if v.prerelease = [] then [] else '-' :: dotted v.prerelease) ++
    (if v.build = [] then [] else '+' :: dotted v.build)

/-- The text of a version. -/
def print (v : Version) : String := String.ofList v.chars

/-- Whether the numbers of a version are short enough to be written. -/
def isWritable (v : Version) : Bool :=
  v.core.all fun n => decide ((Numeral.digits n).length ≤ Numeral.maxDigits)

/-- The text of a version, unless one of its numbers is too long. -/
def text (v : Version) : Except NumeralLimit String :=
  if v.isWritable then .ok v.print else .error .writing

end Version
end ReleaseNotes
