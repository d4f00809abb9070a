/-
Times in YAML.

A day, or a day with a time of day and a time zone, as a text writes them.

Main statements:
* `Yaml.WrittenTime.ofChars?` — the time that a text stands for;
* `Yaml.WrittenTime.problem?` — what is wrong with a time that does not exist.
-/
import ReleaseNotes.Decimal.Numeral

namespace ReleaseNotes
namespace Yaml

/-- A day with a time or without, as it is written. -/
structure WrittenTime where
  year : Nat
  month : Nat
  day : Nat
  clock : Option (Nat × Nat × Nat)
  /-- The minutes that the clock is ahead. -/
  zone : Option Int
  /-- Whether month and day have two digits each. -/
  isPadded : Bool

namespace WrittenTime

/-- So many digits at the front, at least and at most, and what follows them. -/
def digitsBetween? (least most : Nat) (cs : List Char) : Option (List Char × List Char) :=
  let ds := (cs.take most).takeWhile Char.isDigit
  if ds.length < least then none else some (ds, cs.drop ds.length)

/-- What follows a character. -/
def after? (ch : Char) : List Char → Option (List Char)
  | c :: cs => if c = ch then some cs else none
  | [] => none

/-- The time zone at the end of a text. -/
def zone? (cs : List Char) : Option (Option Int) :=
  match cs.dropWhile fun c => c == ' ' || c == '\t' with
  | [] => if cs.isEmpty then some none else none
  | ['Z'] => some (some 0)
  | sign :: rest =>
    if sign != '+' && sign != '-' then none
    else do
      let (hours, rest) ← digitsBetween? 1 2 rest
      let minutes ← if rest.isEmpty then some [] else do
        let (minutes, rest) ← digitsBetween? 2 2 (← after? ':' rest)
        if rest.isEmpty then some minutes else none
      let ahead : Int := 60 * Numeral.value hours + Numeral.value minutes
      return some (if sign == '-' then -ahead else ahead)

/-- The day and the time that a text stands for. -/
def ofChars? (cs : List Char) : Option WrittenTime := do
  let (year, rest) ← digitsBetween? 4 4 cs
  let (month, rest) ← digitsBetween? 1 2 (← after? '-' rest)
  let (day, rest) ← digitsBetween? 1 2 (← after? '-' rest)
  let date : WrittenTime := ⟨Numeral.value year, Numeral.value month, Numeral.value day, none, none,
    month.length == 2 && day.length == 2⟩
  match rest with
  | [] => return date
  | mark :: behind =>
    let rest ←
      if mark == 'T' || mark == 't' then some behind
      else if mark == ' ' || mark == '\t' then
        some (behind.dropWhile fun c => c == ' ' || c == '\t')
      else none
    let (hour, rest) ← digitsBetween? 1 2 rest
    let (minute, rest) ← digitsBetween? 2 2 (← after? ':' rest)
    let (second, rest) ← digitsBetween? 2 2 (← after? ':' rest)
    let rest := match rest with
      | '.' :: fraction => fraction.dropWhile Char.isDigit
      | _ => rest
    let zone ← zone? rest
    return { date with
      clock := some (Numeral.value hour, Numeral.value minute, Numeral.value second), zone }

/-! ### The calendar -/

/-- Whether a year has a day more. -/
def isLeapYear (year : Nat) : Bool := year % 4 == 0 && (year % 100 != 0 || year % 400 == 0)

/-- How many days a month has. -/
def daysOfMonth (year month : Nat) : Nat :=
  if month = 2 then (if isLeapYear year then 29 else 28)
  else if [4, 6, 9, 11].contains month then 30 else 31

/-- How many minutes a day has. -/
def minutesOfDay : Nat := 24 * 60

/-- How much time a clock is ahead, in days and seconds. -/
def shownZone (ahead : Int) : String :=
  let days := Int.fdiv ahead minutesOfDay
  let seconds := 60 * Int.fmod ahead minutesOfDay
  "datetime.timedelta(days=" ++ Numeral.printInt days ++
    (if seconds = 0 then "" else ", seconds=" ++ Numeral.printInt seconds) ++ ")"

/-- What is wrong with the day, if it does not exist. -/
def dayProblem? (t : WrittenTime) : Option String :=
  if t.year = 0 then some "year 0 is out of range"
  else if t.month < 1 ∨ 12 < t.month then some "month must be in 1..12"
  else if t.day < 1 ∨ daysOfMonth t.year t.month < t.day then
    some "day is out of range for month"
  else none

/-- What is wrong with the clock, if it cannot show the time. -/
def clockProblem? : Nat × Nat × Nat → Option String
  | (hour, minute, second) =>
    if 24 ≤ hour then some "hour must be in 0..23"
    else if 60 ≤ minute then some "minute must be in 0..59"
    else if 60 ≤ second then some "second must be in 0..59"
    else none

/-- What is wrong with the time zone, if it is a day or more away. -/
def zoneProblem? (ahead : Int) : Option String :=
  if minutesOfDay ≤ ahead.natAbs then
    some ("offset must be a timedelta strictly between -timedelta(hours=24) and " ++
      "timedelta(hours=24), not " ++ shownZone ahead ++ ".")
  else none

/-- What is wrong with the time, if it does not exist. -/
def problem? (t : WrittenTime) : Option String :=
  (t.zone.bind zoneProblem?) <|> t.dayProblem? <|> (t.clock.bind clockProblem?)

end WrittenTime

end Yaml
end ReleaseNotes
