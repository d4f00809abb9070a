/-
Raising versions.

The next version on the line of a kind.  A prerelease that sits on that line is promoted, not
skipped.

Main statements:
* `Version.bump` — the next version of a kind;
* `Version.initial` — the first version of a kind;
* `Version.next` — the text of the version that follows another.
-/
import ReleaseNotes.Release.Kind
import ReleaseNotes.Version.Order

namespace ReleaseNotes
namespace Version

/-- Whether a version is a prerelease. -/
def isPrerelease (v : Version) : Bool := !v.prerelease.isEmpty

/-- The next version on the line of a kind. -/
def bump (v : Version) : ReleaseKind → Version
  | .major =>
    if v.isPrerelease ∧ v.minor = 0 ∧ v.patch = 0 then ⟨v.major, 0, 0, [], []⟩
    else ⟨v.major + 1, 0, 0, [], []⟩
  | .minor =>
    if v.isPrerelease ∧ v.patch = 0 then ⟨v.major, v.minor, 0, [], []⟩
    else ⟨v.major, v.minor + 1, 0, [], []⟩
  | .patch =>
    if v.isPrerelease then ⟨v.major, v.minor, v.patch, [], []⟩
    else ⟨v.major, v.minor, v.patch + 1, [], []⟩

/-- The first version of a kind. -/
def initial : ReleaseKind → Version
  | .major => ⟨1, 0, 0, [], []⟩
  | .minor => ⟨0, 1, 0, [], []⟩
  | .patch => ⟨0, 0, 1, [], []⟩

/-- The text of the version that follows another, or of the first version. -/
def next (previous : Option Json) (kind : ReleaseKind) : Except Failure String :=
  match previous with
  | none => .ok (initial kind).print
  | some given => do
    let v ← read given
    (v.bump kind).text.mapError .numeral

end Version
end ReleaseNotes
