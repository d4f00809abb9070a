/-
Request targets.

From a relative address to the path and the query that are sent: what may not stand in a target is
percent-encoded, a fragment is dropped, and steps to the same or to the upper level are resolved.

Main statements:
* `Target.of` — the target of an address, unless the address is refused;
* `Target.resolve` — the resolution of steps;
* `Target.percentEncode` — the encoding of what may not stand in a target.
-/
import ReleaseNotes.Failure

namespace ReleaseNotes

/-- A path and a query. -/
structure Target where
  path : String
  query : Option String
  deriving DecidableEq, Repr

/-- Why an address is refused. -/
inductive AddressProblem where
  | tooLong
  | partTooLong (part : String)
  | unprintable (c : Char) (position : Nat)
  | unencodable (fault : EncodingFault)
  deriving DecidableEq, Repr

/-- The message of a refusal. -/
def AddressProblem.message : AddressProblem → String
  | tooLong => "URL too long"
  | partTooLong part => "URL component " ++ quoted part ++ " too long"
  | unprintable c position =>
    "Invalid non-printable ASCII character in URL, " ++ quoted (String.singleton c) ++
      " at position " ++ Numeral.print position ++ "."
  | unencodable fault => fault.message

/-- The refusal as a failure. -/
def AddressProblem.failure : AddressProblem → Failure
  | unencodable fault => .unencodable fault
  | p => .outside (.other "InvalidURL") p.message

namespace Target

/-- The greatest length of an address and of its parts. -/
def maxLength : Nat := 65536

/-- Whether a character is an ASCII character that does not print. -/
def isUnprintable (c : Char) : Bool := c.toNat < 0x20 || c.toNat == 0x7F

/-- The characters that may not stand in a path. -/
def unsafeInPath : List Char := [' ', '"', '#', '<', '>', '?', '\x60', '\x7b', '\x7d']

/-- The characters that may not stand in a query. -/
def unsafeInQuery : List Char := [' ', '"', '#', '<', '>']

/-- A byte as a percent sign and two digits. -/
def encodeByte (b : UInt8) : List Char := '%' :: (hexPadded 2 b.toNat).map Char.toUpper

/-- The text with every character percent-encoded that is not ASCII or may not stand in it. -/
def percentEncode (bad : List Char) (cs : List Char) : List Char :=
  cs.flatMap fun c =>
    if 0x20 ≤ c.toNat ∧ c.toNat < 0x7F ∧ !bad.contains c then [c]
    else (String.singleton c).toUTF8.toList.flatMap encodeByte

/-- One step after the steps so far, last first. -/
def step (done : List (List Char)) (s : List Char) : List (List Char) :=
  if s = ['.'] then done
  else if s = ['.', '.'] then (if done = [[]] then done else done.drop 1)
  else s :: done

/-- The path with the steps to the same and to the upper level resolved. -/
def resolve (cs : List Char) : List Char :=
  List.intercalate ['/'] ((cs.splitOn '/').foldl step []).reverse

/-- Why an address is refused before it is split: its length, a character that does not print, or a
unit that has no encoding, which is told as a text of its own. -/
def problem? (t : Text) : Option AddressProblem :=
  let bad := fun u : TextUnit => u.passes isUnprintable
  if maxLength < t.length then some .tooLong
  else match (t.find? bad).bind TextUnit.char? with
    | some c => some (.unprintable c (t.takeWhile fun u => !bad u).length)
    | none => (t.find? fun u => u.char?.isNone).map fun u => .unencodable ⟨.utf8, 0, u, 0⟩

/-- Path and query of an address, without its fragment. -/
def split (cs : List Char) : List Char × Option (List Char) :=
  let address := cs.takeWhile (· != '#')
  (address.takeWhile (· != '?'), match address.dropWhile (· != '?') with
    | _ :: query => some query
    | [] => none)

/-- The target of an address relative to the root, unless the address is refused. -/
def of (address : Text) : Except AddressProblem Target :=
  match problem? address with
  | some p => .error p
  | none =>
    let (path, query) := split (address.filterMap TextUnit.char?)
    let encoded := '/' :: (percentEncode unsafeInPath path).dropWhile (· == '/')
    let query := query.map (percentEncode unsafeInQuery)
    if maxLength < encoded.length then .error (.partTooLong "path")
    else if query.any fun q => maxLength < q.length then .error (.partTooLong "query")
    else .ok ⟨String.ofList (resolve encoded), query.map String.ofList⟩

/-- The query with its question mark. -/
def querySuffix (t : Target) : String := t.query.elim "" fun q => "?" ++ q

/-- The target as it is sent. -/
def sent (t : Target) : String := (if t.path = "" then "/" else t.path) ++ t.querySuffix

/-- The target as a part of an address. -/
def shown (t : Target) : String := t.path ++ t.querySuffix

end Target

/-- The address of a host and what follows it. -/
def secureAddress (rest : String) : String := "https:/" ++ "/" ++ rest

end ReleaseNotes
