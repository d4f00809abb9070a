/-
The order of versions.

Versions are compared by their numbers; a prerelease comes before its release; prereleases are
compared identifier by identifier, numbers by value and before words, words by their characters.
Builds do not count.

Main statements:
* `Version.compareIdentifiers`, `Version.comparePrereleases` — the order below the numbers;
* `Version.order` — the order of versions, unless a numeral is too long to be compared;
* `Version.sorted` — versions in ascending order.
-/
import ReleaseNotes.Version.Parse

namespace ReleaseNotes
namespace Version

/-- Whether an identifier is a number. -/
def isNumeric (identifier : String) : Bool :=
  !identifier.isEmpty && identifier.toList.all Char.isDigit

/-- The order of two identifiers. -/
def compareIdentifiers (a b : String) : Except NumeralLimit Ordering :=
  match isNumeric a, isNumeric b with
  | true, true => do
    let m ← number a.toList
    let n ← number b.toList
    return compare m n
  | true, false => return .lt
  | false, true => return .gt
  | false, false => return compare a.toList b.toList

/-- The order of two lists of identifiers: the first difference decides, then the length. -/
def comparePrereleases : List String → List String → Except NumeralLimit Ordering
  | [], [] => return .eq
  | [], _ :: _ => return .lt
  | _ :: _, [] => return .gt
  | a :: as, b :: bs => do
    match ← compareIdentifiers a b with
    | .eq => comparePrereleases as bs
    | o => return o

/-- The order of two versions. -/
def order (a b : Version) : Except NumeralLimit Ordering :=
  match compare a.core b.core with
  | .eq =>
    match a.prerelease, b.prerelease with
    | [], [] => return .eq
    | [], _ :: _ => return .gt
    | _ :: _, [] => return .lt
    | p, q => comparePrereleases p q
  | o => return o

/-- The sign of an order. -/
def sign : Ordering → Int
  | .lt => -1
  | .eq => 0
  | .gt => 1

/-- The order of two values that stand for versions; the first is read first. -/
def compareGiven (a b : Json) : Except Failure Ordering := do
  let v ← read a
  let w ← read b
  (order v w).mapError .numeral

/-- A value put into its place among values in ascending order, behind those that are equal. -/
def insertSorted (t : Json) : List Json → Except Failure (List Json)
  | [] => return [t]
  | u :: rest => do
    match ← compareGiven t u with
    | .lt => return t :: u :: rest
    | _ => return u :: (← insertSorted t rest)

/-- Values in ascending order; equal ones keep their order. -/
def sorted (ts : List Json) : Except Failure (List Json) := do
  let _ ← ts.mapM read
  ts.foldlM (fun done t => insertSorted t done) []

/-- The order of each value and the next. -/
def neighbours : List Json → Except Failure (List Ordering)
  | t :: u :: rest => return (← compareGiven t u) :: (← neighbours (u :: rest))
  | _ => return []

end Version
end ReleaseNotes
