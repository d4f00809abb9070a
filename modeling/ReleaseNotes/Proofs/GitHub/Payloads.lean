/-
Commits and the payloads that tell them.

A payload tells a commit in many spellings.  Members stand in any order and among others, a member
may be left out where the commit has the usual value there, and the author may be named by the
account or by the commit itself.  Whatever the spelling, the commit that is read is the one that is
told.

Main statements:
* `CommitDiff.isFreeOfBytes_of_check` — the texts of a commit that was checked;
* `Payload.Holds`, `Payload.Inner` — members that may be left out, and objects that may;
* `Payload.TellsAuthor`, `Payload.TellsFile`, `Payload.Tells` — the payloads that tell a commit;
* `Payload.author_of_tells`, `Payload.file_of_tells`, `Payload.files_of_tells` — the parts that are
  read;
* `Payload.tells_full` — the payload that leaves nothing out;
* `Payload.ofPayload_of_tells` — the commit that is read is the one that is told.
-/
import ReleaseNotes.GitHub.Payload
import ReleaseNotes.Proofs.Json.Bytes
import ReleaseNotes.Proofs.Validation.Rereading

namespace ReleaseNotes

/-! ### Commits that were checked -/

theorem Check.hasByte_of_required {fields : Json.Fields} {name : String} {t : Text}
    (h : required fields name text = .ok t) : t.hasByte = false := by
  obtain ⟨j, -, hj⟩ := required_eq_ok_iff.1 h
  exact (text_eq_ok_iff.1 hj).2

theorem Check.hasByte_of_optional {fields : Json.Fields} {name : String} {default t : Text}
    (hdefault : default.hasByte = false) (h : optional fields name default text = .ok t) :
    t.hasByte = false := by
  rcases optional_eq_ok_iff.1 h with ⟨-, rfl⟩ | ⟨j, -, hj⟩
  · exact hdefault
  · exact (text_eq_ok_iff.1 hj).2

theorem ChangedFile.isFreeOfBytes_iff {f : ChangedFile} : f.toJson.IsFreeOfBytes ↔
    f.path.hasByte = false ∧ f.status.hasByte = false ∧ f.patch.hasByte = false := by
  show (∀ t ∈ [f.path, f.status, f.patch], t.hasByte = false) ↔ _
  simp

theorem CommitDiff.isFreeOfBytes_iff {d : CommitDiff} : d.toJson.IsFreeOfBytes ↔
    d.sha.hasByte = false ∧ d.message.hasByte = false ∧ d.author.hasByte = false ∧
      ∀ f ∈ d.files, f.toJson.IsFreeOfBytes := by
  have htexts : d.toJson.texts = d.sha :: d.message :: d.author ::
      (Json.textsOfItems (d.files.map ChangedFile.toJson) ++ []) := rfl
  have hfiles : (∀ t ∈ Json.textsOfItems (d.files.map ChangedFile.toJson), t.hasByte = false) ↔
      ∀ f ∈ d.files, f.toJson.IsFreeOfBytes := by
    simp only [Json.mem_textsOfItems, List.mem_map, exists_exists_and_eq_and]
    exact ⟨fun h f hf t ht => h t ⟨f, hf, ht⟩, fun h t ⟨f, hf, ht⟩ => h f hf t ht⟩
  rw [Json.IsFreeOfBytes, htexts, List.append_nil, List.forall_mem_cons, List.forall_mem_cons,
    List.forall_mem_cons, hfiles]

theorem ChangedFile.isFreeOfBytes_of_check {j : Json} {f : ChangedFile} (h : check j = .ok f) :
    f.toJson.IsFreeOfBytes := by
  obtain ⟨fields, -, h⟩ := Check.object_eq_ok_iff.1 h
  simp only [Validated.ap_eq_ok_iff, Validated.map_eq_ok_iff] at h
  obtain ⟨_, patch, ⟨_, _, ⟨_, _, ⟨_, status, ⟨path, hpath, rfl⟩, hstatus, rfl⟩, -, rfl⟩, -, rfl⟩,
    hpatch, rfl⟩ := h
  exact isFreeOfBytes_iff.2 ⟨Check.hasByte_of_required hpath,
    Check.hasByte_of_optional (Text.hasByte_ofString _) hstatus,
    Check.hasByte_of_optional (Text.hasByte_ofString _) hpatch⟩

/-- No text of a commit that was checked has a byte that could not be decoded. -/
theorem CommitDiff.isFreeOfBytes_of_check {j : Json} {d : CommitDiff} (h : check j = .ok d) :
    d.toJson.IsFreeOfBytes := by
  obtain ⟨fields, -, h⟩ := Check.object_eq_ok_iff.1 h
  simp only [Validated.ap_eq_ok_iff, Validated.map_eq_ok_iff] at h
  obtain ⟨_, files, ⟨_, author, ⟨_, message, ⟨sha, hsha, rfl⟩, hmessage, rfl⟩, hauthor, rfl⟩,
    hfiles, rfl⟩ := h
  refine isFreeOfBytes_iff.2 ⟨Check.hasByte_of_required hsha,
    Check.hasByte_of_optional (Text.hasByte_ofString _) hmessage,
    Check.hasByte_of_optional (Text.hasByte_ofString _) hauthor, fun f hf => ?_⟩
  rcases Check.optional_eq_ok_iff.1 hfiles with ⟨-, rfl⟩ | ⟨list, -, hlist⟩
  · cases hf
  · obtain ⟨items, -, hitems⟩ := Check.list_eq_ok_iff.1 hlist
    obtain ⟨k, hk, rfl⟩ := List.mem_iff_getElem.1 hf
    exact ChangedFile.isFreeOfBytes_of_check (hitems.get (hitems.length_eq ▸ hk) hk)

theorem Check.natural_nat (n : Nat) : natural (.nat n) = .ok n := by
  rw [natural, map, naturalFrom_nat ⟨n, Nat.zero_le n⟩]
  rfl

namespace Payload

/-! ### Spellings -/

/-- A member holds a value; it may be left out if that is the usual one. -/
def Holds (name : String) (fields : Json.Fields) (value usual : Json) : Prop :=
  Json.lookup name fields = some value ∨ Json.lookup name fields = none ∧ value = usual

/-- A member is an object with these members; it may be left out or null if there are none. -/
inductive Inner (name : String) (fields : Json.Fields) : Json.Fields → Prop
  | object {members : Json.Fields} (found : Json.lookup name fields = some (.obj members)) :
      Inner name fields members
  | nothing (missing : Json.TellsText name fields none) : Inner name fields []

/-- The author of a commit is told by the login of the account; or, if there is no account or it has
no login, by the name in the commit. -/
inductive TellsAuthor (author : Text) (data commit : Json.Fields) : Prop
  | login {account : Json.Fields} (inner : Inner "author" data account)
      (told : Json.lookup (Text.ofString "login") account = some (.str author))
      (named : author ≠ [])
  | name {account signature : Json.Fields} (inner : Inner "author" data account)
      (unnamed : Json.TellsText "login" account none ∨ Json.TellsText "login" account (some []))
      (signed : Inner "author" commit signature)
      (told : Holds "name" signature (.str author) (.text ""))

/-- A file of a commit is told by an object with these members, among others. -/
structure TellsFile (f : ChangedFile) (fields : Json.Fields) : Prop where
  path : Json.lookup (Text.ofString "filename") fields = some (.str f.path)
  status : Holds "status" fields (.str f.status) (.text "modified")
  additions : Holds "additions" fields (.nat f.additions) (.int 0)
  deletions : Holds "deletions" fields (.nat f.deletions) (.int 0)
  patch : Json.TellsText "patch" fields (some f.patch) ∨
    Json.TellsText "patch" fields none ∧ f.patch = []

/-- The files of a commit are told by a list of objects, one for each, in order; the list may be left
out or null if there are none. -/
def TellsFiles (files : List ChangedFile) (data : Json.Fields) : Prop :=
  (∃ items : List Json.Fields,
    Json.lookup (Text.ofString "files") data = some (.arr (items.map .obj)) ∧
      List.Forall₂ TellsFile files items) ∨
    Json.TellsText "files" data none ∧ files = []

/-- A commit is told by an object with these members, among others. -/
structure Tells (d : CommitDiff) (data : Json.Fields) : Prop where
  sha : Json.lookup (Text.ofString "sha") data = some (.str d.sha)
  commit : ∃ commit, Inner "commit" data commit ∧
    Holds "message" commit (.str d.message) (.text "") ∧ TellsAuthor d.author data commit
  files : TellsFiles d.files data

/-! ### Members that are read -/

theorem getD_of_holds {name : String} {fields : Json.Fields} {value usual : Json}
    (h : Holds name fields value usual) : (Json.lookup name fields).getD usual = value := by
  rcases h with h | ⟨h, rfl⟩
  · rw [h]
    rfl
  · rw [h]
    rfl

theorem get_of_holds {name : String} {fields : Json.Fields} {value usual : Json}
    (h : Holds name fields value usual) : get (.obj fields) name usual = .ok value :=
  congrArg Except.ok (getD_of_holds h)

/-- A member that is left out or null stands for nothing. -/
theorem getD_of_tells_none {name : String} {fields : Json.Fields}
    (h : Json.TellsText name fields none) : (Json.lookup name fields).getD .null = .null := by
  rcases h with h | h <;> rw [h] <;> rfl

theorem orElse_nothing (members : Json.Fields) : orElse (.obj members) nothing = .obj members := by
  cases members <;> rfl

/-- What is read of an object that may be left out is an object all the same. -/
theorem orElse_of_inner {name : String} {fields members : Json.Fields}
    (h : Inner name fields members) :
    orElse ((Json.lookup name fields).getD .null) nothing = .obj members := by
  cases h with
  | object found =>
    rw [found]
    exact orElse_nothing members
  | nothing missing =>
    rw [getD_of_tells_none missing]
    rfl

theorem author_of_tells {author : Text} {data commit : Json.Fields}
    (h : TellsAuthor author data commit) :
    Payload.author (.obj data) (.obj commit) = .ok (.str author) := by
  cases h with
  | login inner told named =>
    have hlogin : (Json.str author).isVoid = false := by
      rw [Json.isVoid, List.isEmpty_eq_false_iff]
      exact named
    simp only [Payload.author, get, bind, Except.bind, orElse_of_inner inner, told,
      Option.getD_some, hlogin]
    rfl
  | @name account signature inner unnamed signed told =>
    have hlogin : ((Json.lookup (Text.ofString "login") account).getD .null).isVoid = true := by
      rcases unnamed with h | h
      · rw [getD_of_tells_none h]
        rfl
      · rw [show Json.lookup (Text.ofString "login") account = some (.str []) from h]
        rfl
    simp only [Payload.author, get, bind, Except.bind, orElse_of_inner inner, hlogin, if_true,
      orElse_of_inner signed, getD_of_holds told]

theorem file_of_tells {f : ChangedFile} {fields : Json.Fields} (h : TellsFile f fields)
    (hfree : f.toJson.IsFreeOfBytes) : file (.obj fields) = .ok f := by
  obtain ⟨hpath, hstatus, hpatch⟩ := ChangedFile.isFreeOfBytes_iff.1 hfree
  have hgiven : orElse ((Json.lookup (Text.ofString "patch") fields).getD .null) (.text "") =
      .str f.patch := by
    rcases h.patch with htold | ⟨hmissing, hempty⟩
    · rw [show Json.lookup (Text.ofString "patch") fields = some (.str f.patch) from htold]
      cases f.patch <;> rfl
    · rw [getD_of_tells_none hmissing, hempty]
      rfl
  have hcheck : ChangedFile.check (.record [("path", .str f.path), ("status", .str f.status),
      ("additions", .nat f.additions), ("deletions", .nat f.deletions),
      ("patch", .str f.patch)]) = .ok f := by
    refine Check.object_eq_ok_iff.2 ⟨_, rfl, ?_⟩
    rw [Check.required_eq_ok rfl (Check.text_eq_ok_iff.2 ⟨rfl, hpath⟩),
      Check.optional_eq_ok rfl (Check.text_eq_ok_iff.2 ⟨rfl, hstatus⟩),
      Check.optional_eq_ok rfl (Check.natural_nat f.additions),
      Check.optional_eq_ok rfl (Check.natural_nat f.deletions),
      Check.optional_eq_ok rfl (Check.text_eq_ok_iff.2 ⟨rfl, hpatch⟩)]
    rfl
  simp only [file, need, h.path, get, bind, Except.bind, getD_of_holds h.status,
    getD_of_holds h.additions, getD_of_holds h.deletions, hgiven, hcheck]
  rfl

theorem mapM_file_of_tells {files : List ChangedFile} {items : List Json.Fields}
    (h : List.Forall₂ TellsFile files items) (hfree : ∀ f ∈ files, f.toJson.IsFreeOfBytes) :
    (items.map Json.obj).mapM file = .ok files := by
  induction h with
  | nil => rfl
  | cons hfile _ ih =>
    have hrest := ih fun f hf => hfree f (List.mem_cons_of_mem _ hf)
    rw [List.map_cons, List.mapM_cons, file_of_tells hfile (hfree _ List.mem_cons_self), hrest]
    rfl

theorem files_of_tells {l : List ChangedFile} {data : Json.Fields} (h : TellsFiles l data)
    (hfree : ∀ f ∈ l, f.toJson.IsFreeOfBytes) : files (.obj data) = .ok l := by
  rcases h with ⟨list, hlist, htells⟩ | ⟨hmissing, rfl⟩
  · have hitems : orElse (.arr (list.map .obj)) (.arr []) = .arr (list.map .obj) := by
      cases list <;> rfl
    simp only [files, get, bind, Except.bind, hlist, Option.getD_some, hitems, items]
    exact mapM_file_of_tells htells hfree
  · simp only [files, get, bind, Except.bind, getD_of_tells_none hmissing]
    rfl

/-! ### The payload that leaves nothing out -/

/-- A file with all its members. -/
def fullFile (f : ChangedFile) : Json.Fields :=
  [(Text.ofString "filename", .str f.path), (Text.ofString "status", .str f.status),
    (Text.ofString "additions", .nat f.additions), (Text.ofString "deletions", .nat f.deletions),
    (Text.ofString "patch", .str f.patch)]

/-- A commit with all its members, its author named by the commit. -/
def full (d : CommitDiff) : Json.Fields :=
  [(Text.ofString "sha", .str d.sha),
    (Text.ofString "commit", .record [("author", .record [("name", .str d.author)]),
      ("message", .str d.message)]),
    (Text.ofString "author", .null),
    (Text.ofString "files", .arr ((d.files.map fullFile).map .obj))]

theorem tells_full (d : CommitDiff) : Tells d (full d) := by
  refine ⟨rfl, ⟨_, .object rfl, .inl rfl, ?_⟩, .inl ⟨_, rfl, ?_⟩⟩
  · exact .name (.nothing (.inr rfl)) (.inl (.inl rfl)) (.object rfl) (.inl rfl)
  · rw [List.forall₂_map_right_iff]
    exact List.forall₂_same.2 fun f _ => ⟨rfl, .inl rfl, .inl rfl, .inl rfl, .inl rfl⟩

/-! ### The commit that is read -/

/-- Every commit, as a check yields it, is told by some payload, and every payload that tells it is
read as the commit itself: with its message and its author, and with its files in their order. -/
theorem ofPayload_of_tells {given : Json} {d : CommitDiff} (checked : CommitDiff.check given = .ok d) :
    (∃ data, Tells d data) ∧ ∀ data, Tells d data → CommitDiff.ofPayload (.obj data) = .ok d := by
  obtain ⟨hsha, hmessage, hauthor, hfiles⟩ :=
    CommitDiff.isFreeOfBytes_iff.1 (CommitDiff.isFreeOfBytes_of_check checked)
  refine ⟨⟨full d, tells_full d⟩, fun data h => ?_⟩
  obtain ⟨commit, hinner, hsaid, hnamed⟩ := h.commit
  have hcommit : get (.obj data) "commit" .null =
      .ok ((Json.lookup (Text.ofString "commit") data).getD .null) := rfl
  have hneeded : need (.obj data) "sha" = .ok (.str d.sha) := by rw [need, h.sha]
  simp only [CommitDiff.ofPayload, bind, Except.bind, hcommit, orElse_of_inner hinner,
    author_of_tells hnamed, hneeded, get_of_holds hsaid, files_of_tells h.files hfiles]
  rw [Check.required_eq_ok rfl (Check.text_eq_ok_iff.2 ⟨rfl, hsha⟩),
    Check.required_eq_ok rfl (Check.text_eq_ok_iff.2 ⟨rfl, hmessage⟩),
    Check.required_eq_ok rfl (Check.text_eq_ok_iff.2 ⟨rfl, hauthor⟩)]
  rfl

/-- A commit whose author has no login, of three files: one with a member of its own and no patch,
one whose patch is null, and one that leaves out whatever it can. -/
theorem ofPayload_of_tells_sparse :
    let d : CommitDiff := ⟨"abcd", [], "Ada", [⟨"a.py", "added", 2, 0, []⟩,
      ⟨"b.png", "renamed", 0, 0, []⟩, ⟨"c.md", "modified", 0, 0, []⟩]⟩
    let data : Json.Fields :=
      [(Text.ofString "files", .arr
          [.record [("raw", .arr []), ("additions", .nat 2), ("status", .text "added"),
            ("filename", .text "a.py")],
          .record [("filename", .text "b.png"), ("patch", .null), ("status", .text "renamed")],
          .record [("filename", .text "c.md")]]),
        (Text.ofString "author", .record [("id", .nat 7), ("login", .text "")]),
        (Text.ofString "commit", .record [("author", .record [("name", .text "Ada")])]),
        (Text.ofString "sha", .text "abcd")]
    CommitDiff.check d.toJson = .ok d ∧ Tells d data ∧ CommitDiff.ofPayload (.obj data) = .ok d := by
  intro d data
  have hchecked : CommitDiff.check d.toJson = .ok d := rfl
  have htells : Tells d data := by
    refine ⟨rfl, ⟨_, .object rfl, .inr ⟨rfl, rfl⟩, ?_⟩, .inl ⟨[_, _, _], rfl, ?_⟩⟩
    · exact .name (.object rfl) (.inr rfl) (.object rfl) (.inl rfl)
    · refine .cons ⟨rfl, .inl rfl, .inl rfl, .inr ⟨rfl, rfl⟩, .inr ⟨.inl rfl, rfl⟩⟩ (.cons ?_ ?_)
      · exact ⟨rfl, .inl rfl, .inr ⟨rfl, rfl⟩, .inr ⟨rfl, rfl⟩, .inr ⟨.inr rfl, rfl⟩⟩
      · refine .cons ?_ .nil
        exact ⟨rfl, .inr ⟨rfl, rfl⟩, .inr ⟨rfl, rfl⟩, .inr ⟨rfl, rfl⟩, .inr ⟨.inl rfl, rfl⟩⟩
  exact ⟨hchecked, htells, (ofPayload_of_tells hchecked).2 data htells⟩

end Payload
end ReleaseNotes
