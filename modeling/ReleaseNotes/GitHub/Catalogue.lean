/-
A catalogue of commits.

Commits known beforehand, by repository and hash.  A commit is found by any text that its hash
begins with, or that begins with its hash.

Main statements:
* `CommitCatalogue.find?` — the first commit that a hash stands for;
* `CommitCatalogue.source` — the catalogue as a source of commits.
-/
import ReleaseNotes.Tool.CommitTools

namespace ReleaseNotes

/-- Commits by repository and hash, in order. -/
structure CommitCatalogue where
  repositories : List (Text × List (Text × Json))

namespace CommitCatalogue

variable {ω β : Type}

/-- The entry of a key set, at its old place if it has one. -/
def put (key : Text) (value : β) : List (Text × β) → List (Text × β)
  | [] => [(key, value)]
  | (k, v) :: rest => if k = key then (k, value) :: rest else (k, v) :: put key value rest

/-- Whether one hash begins with the other. -/
def agree (known sha : Text) : Bool :=
  sha.isPrefixOf known || known.isPrefixOf sha

/-- The first commit of a repository that a hash stands for. -/
def find? (c : CommitCatalogue) (repository sha : Text) : Option (Text × Json) :=
  ((c.repositories.lookup repository).getD []).find? fun (known, _) => agree known sha

/-- A commit as the catalogue tells it. -/
def read (known : Text) (data : Json) : Except Failure CommitDiff :=
  match data with
  | .obj fields =>
    let all := fields.foldl (fun done f => Json.put f.1 f.2 done)
      [(Text.ofString "sha", Json.str known)]
    (CommitDiff.check (.obj all)).orFail CommitDiff.model
  | j => .error (.misuse (.notMapping j.kindName))

/-- The commit that a hash stands for. -/
def get (c : CommitCatalogue) (repository sha : Text) : Except Failure CommitDiff :=
  match c.find? repository sha with
  | some (known, data) => read known data
  | none => .error (.missingKey (.str ("No mock commit " ++ sha ++ " in " ++ repository)))

/-- The catalogue as a source of commits. -/
def source (c : CommitCatalogue) : CommitSource ω := fun repository sha =>
  Act.of (c.get repository sha)

end CommitCatalogue
end ReleaseNotes
