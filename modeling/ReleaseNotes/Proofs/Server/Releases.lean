/-
Answers on releases.

The server is asked which version follows another, and for the changelog of a release.  What is wrong
with the versions or with the commits is told as bad input; but a number that is too long to be
converted, and a directive that is not spelled in ASCII, break the answer.

Main statements:
* `VersionQuery.check_eq_ok_iff` — the question which version follows another;
* `Server.answerOf_nextVersion`, `Server.answerOf_changelog` — what the routes make of a request;
* `Server.version_outcomes` — versions that are told, raised, compared and asked for;
* `Server.plan_answered` — plans, and requests for changelogs that are not planned.
-/
import Mathlib.Data.List.Nodup
import ReleaseNotes.Proofs.Json.RoundTrip
import ReleaseNotes.Proofs.Release.Forward
import ReleaseNotes.Proofs.Release.Planning
import ReleaseNotes.Proofs.Server.Answering
import ReleaseNotes.Rehearsal.Basic

namespace ReleaseNotes

open Version

/-- A record is read back from its text if its names are distinct and its values are read back. -/
theorem Json.Plain.record {depth : Nat} {fields : List (String × Json)}
    (distinct : (fields.map Prod.fst).Nodup) (h : ∀ f ∈ fields, Plain depth f.2) :
    Plain (depth + 1) (.record fields) := by
  refine .obj ?_ ?_ ?_
  · rw [List.map_map]
    show (fields.map (Text.ofString ∘ Prod.fst)).Nodup
    rw [← List.map_map]
    exact List.Nodup.map (fun a b => Text.ofString_inj.1) distinct
  · intro f hf
    obtain ⟨g, -, rfl⟩ := List.mem_map.1 hf
    exact ⟨g.1, rfl⟩
  · intro f hf
    obtain ⟨g, hg, rfl⟩ := List.mem_map.1 hf
    exact h g hg

/-! ### Questions -/

theorem VersionQuery.check_eq_ok_iff {j : Json} {q : VersionQuery} :
    check j = .ok q ↔
      ∃ fields, j = .obj fields ∧
        (Json.TellsText "previous" fields q.previous ∧
          ∀ t, q.previous = some t → t.hasByte = false) ∧
        Json.lookup "release_type" fields = some (.text q.kind.word) := by
  have hkind : ∀ {v : Json} {k : ReleaseKind}, Release.kindCheck v = .ok k ↔ v = .text k.word :=
    VersionStep.kindCheck_eq_ok_iff
  rw [check, Check.object_eq_ok_iff]
  refine exists_congr fun fields => and_congr_right fun _ => ?_
  simp only [Validated.ap_eq_ok_iff, Validated.map_eq_ok_iff, Check.optional_text_eq_ok_iff,
    Check.required_eq_ok_iff, hkind]
  constructor
  · rintro ⟨f, k, ⟨p, hp, rfl⟩, ⟨j, hj, rfl⟩, rfl⟩
    exact ⟨hp, hj⟩
  · rintro ⟨hp, hk⟩
    exact ⟨_, q.kind, ⟨q.previous, hp, rfl⟩, ⟨_, hk, rfl⟩, rfl⟩

namespace Server

variable {ω : Type}

/-- A body that tells a version before, or none, and a kind asks for the version of this kind. -/
theorem Body.check_query {r : Request} {fields : Json.Fields} {previous : Option Text}
    {k : ReleaseKind} (hread : Body.read r = .ok (.obj fields))
    (hprevious : Json.TellsText "previous" fields previous)
    (hkind : Json.lookup "release_type" fields = some (.text k.word)) :
    Body.check VersionQuery.check r = .ok ⟨previous, k⟩ := by
  refine Body.check_of_read hread (VersionQuery.check_eq_ok_iff.2
    ⟨fields, rfl, ⟨hprevious, ?_⟩, hkind⟩)
  rintro t rfl
  have hfree : Json.IsFreeOfBytes (.str t) :=
    Json.isFreeOfBytes_of_lookup (Body.read_isFreeOfBytes hread) hprevious
  exact hfree t List.mem_cons_self

/-! ### What is told of failures -/

theorem statusOfFailure_of_broken {f : Failure} (hinput : f.isInput = false)
    (htransient : f.isTransient = false) : statusOfFailure f = 500 := by
  unfold statusOfFailure
  rw [hinput, htransient]
  split <;> rfl

theorem statusOfFailure_of_input {f : Failure} {s : String} (hmessage : f.message = Text.ofString s)
    (hinput : f.isInput = true) : statusOfFailure f = 422 := by
  have hchars : (Text.ofString s).toChars? = some s.toList := Text.toChars?_map_char _
  unfold statusOfFailure
  rw [hmessage, hchars, hinput]
  rfl

theorem statusOfFailure_invalidVersion (given : Json) :
    statusOfFailure (.invalidVersion given) = 422 := by
  refine statusOfFailure_of_input (s := "Invalid semantic version: " ++ given.literal) ?_ rfl
  simp only [Failure.message, Text.ofString_append]

theorem statusOfFailure_noDirective (commits : Nat) :
    statusOfFailure (.noDirective commits) = 422 := by
  refine statusOfFailure_of_input (s := "None of the " ++ Numeral.print commits ++
    " commits contains a release directive (!release: major|minor|patch) or a " ++
      "breaking-change marker.") ?_ rfl
  simp only [Failure.message, Text.ofString_append]

/-! ### The routes -/

theorem fault?_of_parse {t : Text} {v : Version} (h : parse t = .ok v) :
    Encoding.utf8.fault? t = none := by
  have hchars : ∀ cs : List Char, Encoding.utf8.fault? (Text.ofChars cs) = none := by
    intro cs
    rw [Encoding.fault?, Encoding.dropWhile_covers_ofChars]
  obtain ⟨p, ⟨-, rfl | rfl⟩, -, -⟩ := parse_eq_ok_iff_spells.1 h
  · exact hchars _
  · exact hchars _

/-- The texts of a step can be encoded, for its versions can be read. -/
theorem fault?_of_mem_texts (step : VersionStep) {t : Text} (ht : t ∈ step.toJson.texts) :
    Encoding.utf8.fault? t = none := by
  obtain ⟨⟨v, hv⟩, hprevious, -⟩ := step.isForward
  have htexts : step.toJson.texts = step.previous.toList ++ [step.current, step.kind.word] := by
    unfold VersionStep.toJson
    cases step.previous <;> rfl
  rw [htexts, List.mem_append, Option.mem_toList, List.mem_pair] at ht
  rcases ht with ht | rfl | rfl
  · obtain ⟨u, hu⟩ := hprevious t ht
    exact fault?_of_parse hu
  · exact fault?_of_parse hv
  · exact Encoding.fault?_utf8_ofString _

theorem answerWith_step (step : VersionStep) (w : ω) :
    ((answerWith step.toJson : Act ω Answer).run w).result =
      .ok (Answer.ofJson 200 step.toJson.presentable) :=
  answerWith_result (fun _ => fault?_of_mem_texts step) w

/-- The question which version follows another is answered by the step to it. -/
theorem answerOf_nextVersion (s : Server ω) {r : Request} {q : VersionQuery}
    (hcheck : Body.check VersionQuery.check r = .ok q) (w : ω) :
    ((s.answerOf r .nextVersion).run w).result =
      q.answer.map fun step => Answer.ofJson 200 step.toJson.presentable := by
  show ((answerTo VersionQuery.check r fun q => do
    answerWith (← Act.of q.answer).toJson).run w).result = _
  rw [answerTo_of_check hcheck, Act.bind_result, Act.of_run]
  cases q.answer with
  | ok step => exact answerWith_step step w
  | error f => rfl

/-- A changelog that is not planned is not written. -/
theorem answerOf_changelog (s : Server ω) {r : Request} {release : Release} {f : Failure}
    (hcheck : Body.check Release.check r = .ok release) (hplan : release.plan = .error f) (w : ω) :
    ((s.answerOf r .changelog).run w).result = .error f := by
  have hwrite : ∀ w, ((s.writer.write release).run w).result = .error f := by
    intro w
    unfold Writer.write Writer.converse
    rw [hplan]
    rfl
  show ((answerTo Release.check r fun release => do
    answerWith (← s.writer.write release).toJson).run w).result = _
  rw [answerTo_of_check hcheck, Act.bind_result, hwrite]

/-! ### Versions -/

/-- The status of the answer to the question which version follows another. -/
theorem nextVersion_status (s : Server ω) (w : ω) {r : Request} {fields : Json.Fields}
    {previous : Option Text} {k : ReleaseKind}
    (hroute : Route.ofPath? r.path = some .nextVersion) (hmethod : r.method = "POST")
    (hread : Body.read r = .ok (.obj fields))
    (hprevious : Json.TellsText "previous" fields previous)
    (hkind : Json.lookup "release_type" fields = some (.text k.word)) :
    ∃ a, ((s.serve r).run w).result = .ok a ∧
      (a.status = 200 ↔ ∀ t, previous = some t → isValid (.str t) = .ok true ∧ ¬ Outgrown t k) ∧
      (a.status = 422 ↔ ∃ t, previous = some t ∧ isValid (.str t) = .ok false) ∧
      (a.status = 500 ↔ ∃ t, previous = some t ∧ (IsOverlong t ∨ Outgrown t k)) := by
  obtain ⟨a, ha, hstatus⟩ := s.serve_status hroute hmethod.symm w
  rw [answerOf_nextVersion s (Body.check_query hread hprevious hkind) w] at hstatus
  refine ⟨a, ha, ?_⟩
  have hanswered : ∀ {text : String}, Version.next (previous.map .str) k = .ok text →
      a.status = 200 := by
    intro text hnext
    obtain ⟨step, hstep, -⟩ := VersionStep.create_of_next hnext
    rw [hstatus, VersionQuery.answer, hstep]
    rfl
  have hfailed : ∀ {f : Failure}, Version.next (previous.map .str) k = .error f →
      a.status = statusOfFailure f := by
    intro f hnext
    rw [hstatus, VersionQuery.answer, VersionStep.create_of_next_error hnext]
    rfl
  cases previous with
  | none =>
    have hok : a.status = 200 := hanswered rfl
    simp [hok]
  | some t =>
    obtain ⟨hok, hinvalid, hlimit⟩ := next_outcomes t k
    -- one of the three conditions holds, and each of them decides on the status
    have hcases : (isValid (.str t) = .ok true ∧ ¬ Outgrown t k) ∨ isValid (.str t) = .ok false ∨
        IsOverlong t ∨ Outgrown t k := by
      by_cases houtgrown : Outgrown t k
      · exact .inr (.inr (.inr houtgrown))
      · cases standing t with
        | read parsed => exact .inl ⟨isValid_of_parse parsed, houtgrown⟩
        | foreign parsed => exact .inr (.inl (isValid_of_foreign parsed))
        | overlong _ long => exact .inr (.inr (.inl long))
    have hgood : isValid (.str t) = .ok true ∧ ¬ Outgrown t k → a.status = 200 := by
      intro h
      obtain ⟨text, htext, -⟩ := hok.2 h
      exact hanswered htext
    have hrefused : isValid (.str t) = .ok false → a.status = 422 := fun h =>
      (hfailed (hinvalid.2 h)).trans (statusOfFailure_invalidVersion _)
    have hbroken : IsOverlong t ∨ Outgrown t k → a.status = 500 := by
      intro h
      obtain ⟨limit, hnext⟩ := hlimit.2 h
      exact (hfailed hnext).trans (statusOfFailure_of_broken rfl rfl)
    simp only [Option.some.injEq, forall_eq', exists_eq_left']
    rcases hcases with h | h | h
    · have := hgood h
      refine ⟨⟨fun _ => h, hgood⟩, ⟨fun h' => by omega, hrefused⟩, fun h' => by omega, hbroken⟩
    · have := hrefused h
      refine ⟨⟨fun h' => by omega, hgood⟩, ⟨fun _ => h, hrefused⟩, fun h' => by omega, hbroken⟩
    · have := hbroken h
      refine ⟨⟨fun h' => by omega, hgood⟩, ⟨fun h' => by omega, hrefused⟩, fun _ => h, hbroken⟩

/-- What becomes of versions.  Whether a text is one is told, unless a number of it is too long to be
read.  If it is one, every kind leads from it to another version, unless that is too long to be
written, and two of them are compared, unless that stalls at a numeral that is too long; what is no
version is refused as such.  The question which version follows is answered, or refused as bad
input, in the same cases, and in the others the answer breaks. -/
theorem version_outcomes (s : Server ω) (w : ω) (a b : Text) (k : ReleaseKind) :
    ((isValid (.str a) = .ok true ↔ ∃ p, Spells a p ∧ p.IsShort) ∧
      (isValid (.str a) = .ok false ↔ ¬ ∃ p, Spells a p) ∧
      ((∃ limit, isValid (.str a) = .error (.numeral limit)) ↔ IsOverlong a)) ∧
    ((∃ text : String, Version.next (some (.str a)) k = .ok text ∧
        isValid (.str text) = .ok true) ↔ isValid (.str a) = .ok true ∧ ¬ Outgrown a k) ∧
    (Version.next (some (.str a)) k = .error (.invalidVersion (.str a)) ↔
      isValid (.str a) = .ok false) ∧
    ((∃ limit, Version.next (some (.str a)) k = .error (.numeral limit)) ↔
      IsOverlong a ∨ Outgrown a k) ∧
    ((∃ n : Int, (compareGiven (.str a) (.str b)).map sign = .ok n ∧ (n = -1 ∨ n = 0 ∨ n = 1)) ↔
      isValid (.str a) = .ok true ∧ isValid (.str b) = .ok true ∧ ¬ StalledTexts a b) ∧
    ((∃ given, compareGiven (.str a) (.str b) = .error (.invalidVersion given)) ↔
      isValid (.str a) = .ok false ∨ isValid (.str a) = .ok true ∧ isValid (.str b) = .ok false) ∧
    ((∃ limit, compareGiven (.str a) (.str b) = .error (.numeral limit)) ↔
      IsOverlong a ∨ isValid (.str a) = .ok true ∧ (IsOverlong b ∨ StalledTexts a b)) ∧
    ∀ (r : Request) (fields : Json.Fields) (previous : Option Text),
      Route.ofPath? r.path = some .nextVersion → r.method = "POST" →
      Body.read r = .ok (.obj fields) → Json.TellsText "previous" fields previous →
      Json.lookup "release_type" fields = some (.text k.word) →
      ∃ answer, ((s.serve r).run w).result = .ok answer ∧
        (answer.status = 200 ↔
          ∀ t, previous = some t → isValid (.str t) = .ok true ∧ ¬ Outgrown t k) ∧
        (answer.status = 422 ↔ ∃ t, previous = some t ∧ isValid (.str t) = .ok false) ∧
        (answer.status = 500 ↔ ∃ t, previous = some t ∧ (IsOverlong t ∨ Outgrown t k)) := by
  obtain ⟨hnext, hinvalid, hlimit⟩ := next_outcomes a k
  obtain ⟨hcompared, hrefused, hstalled⟩ := compareGiven_outcomes a b
  have hsign : (∃ n : Int, (compareGiven (.str a) (.str b)).map sign = .ok n ∧
      (n = -1 ∨ n = 0 ∨ n = 1)) ↔ ∃ o, compareGiven (.str a) (.str b) = .ok o := by
    cases compareGiven (.str a) (.str b) with
    | error f => simp [Except.map]
    | ok o => simpa [Except.map] using sign_cases o
  refine ⟨isValid_outcomes a, hnext, hinvalid, hlimit, hsign.trans hcompared, hrefused, hstalled, ?_⟩
  intro r fields previous hroute hmethod hread hprevious hkind
  exact s.nextVersion_status w hroute hmethod hread hprevious hkind

/-- At each of the three places a text fails that is told to be a version, or whose numbers are too
long to tell. -/
theorem version_outcomes_long :
    (∃ limit, isValid (.str (ofMajor 4301 '1')) = .error (.numeral limit)) ∧
      (isValid (.str (ofMajor 4300 '9')) = .ok true ∧
        ∃ limit, Version.next (some (.str (ofMajor 4300 '9'))) .major =
          .error (.numeral limit)) ∧
      isValid (.str (ofCandidate 4301)) = .ok true ∧
        ∃ limit, compareGiven (.str (ofCandidate 4301)) (.str (ofCandidate 4301)) =
          .error (.numeral limit) := by
  have hmany : Numeral.maxDigits < 4301 := by decide
  have houtgrown : Outgrown (ofMajor 4300 '9') .major := outgrown_ofMajor rfl
  have hstalled := stalledTexts_ofCandidate hmany
  have hread := parse_ofCandidate (n := 4301) (by decide)
  refine ⟨(isValid_outcomes _).2.2.2 (isOverlong_ofMajor hmany), ⟨?_, ?_⟩, isValid_of_parse hread, ?_⟩
  · obtain ⟨v, hv, -⟩ := houtgrown
    exact isValid_of_parse hv
  · exact (next_outcomes _ _).2.2.2 (.inr houtgrown)
  · exact (compareGiven_outcomes _ _).2.2.2 (.inr ⟨isValid_of_parse hread, .inr hstalled⟩)

/-- A server without commits that nobody talks to. -/
def silent : Server Rehearsal :=
  ⟨⟨.standard, Rehearsal.service, fun _ _ => Act.fail .missingItem⟩⟩

/-- A request with a value. -/
def posted (path body : String) : Request :=
  ⟨"POST", ⟨path, none⟩, [("content-type", "application/json")], body⟩

theorem isJson_posted (path body : String) : (posted path body).isJson = true := by
  have hheader : (posted path body).header? "content-type" = some "application/json" := rfl
  have htype : Request.mediaType "application/json" = some ("application", "json") := by
    decide +kernel
  unfold Request.isJson
  rw [hheader, Option.bind_some, htype]
  rfl

/-- A body with the indented text of a value has this value. -/
theorem read_posted {path body : String} {j : Json} (hplain : j.Plain Json.maxDepth)
    (hbody : Text.ofString body = Json.indentedUnits .document 0 j)
    (hmark : (Text.ofString body).head? ≠ some (.char '\uFEFF')) :
    Body.read (posted path body) = .ok j := by
  refine Body.read_of_reads (isJson_posted path body) ?_ hmark
  show Json.Reader.Reads _ (Text.ofString body) j
  rw [hbody]
  exact Json.reads_indented hplain .document 0

/-- The question which version follows one that lacks a number. -/
def question : String :=
  "\x7b\n  \"previous\": \"1.4.\",\n  \"release_type\": \"minor\"\n\x7d"

theorem version_outcomes_question :
    ∃ answer, ((silent.serve (posted "/version/next" question)).run {}).result = .ok answer ∧
      answer.status = 422 := by
  have hplain : Json.Plain Json.maxDepth
      (.record [("previous", .text "1.4."), ("release_type", .text "minor")]) :=
    .record (by decide) fun f hf => by
      rcases List.mem_pair.1 hf with rfl | rfl <;> exact .str _
  have hmatch : match? "1.4." = none := by decide +kernel
  have hrefused : isValid (.str "1.4.") = .ok false :=
    isValid_of_foreign (parse_of_not_spells fun ⟨p, hp⟩ => by
      rw [spells_iff, hmatch] at hp
      cases hp)
  obtain ⟨-, -, -, -, -, -, -, hserve⟩ := version_outcomes silent {} "1.4." "1.4." .minor
  obtain ⟨answer, hanswer, -, hstatus, -⟩ := hserve (posted "/version/next" question) _
    (some "1.4.") (by decide +kernel) rfl (read_posted hplain (by decide) (by decide)) rfl rfl
  exact ⟨answer, hanswer, hstatus.2 ⟨_, rfl, hrefused⟩⟩

/-! ### Plans -/

/-- A release of one commit. -/
def releaseOf (subject : Text) : Release :=
  ⟨"octo/tool", none, none, ⟨[⟨"a1", subject, "", "ada", "other", false⟩], by simp⟩, "en"⟩

/-- What is told of a plan that fails. -/
theorem status_of_plan {release : Release} {f : Failure}
    (hroom : ∀ t, release.previousVersion = some t → HasRoom t) (hf : release.plan = .error f) :
    (release.IsMisread ∧ f.isInput = false ∧ statusOfFailure f = 500) ∨
      (¬ release.IsMisread ∧ f.isInput = true ∧ statusOfFailure f = 422) := by
  obtain ⟨hmisread, hread⟩ := Release.plan_outcomes hroom
  by_cases h : release.IsMisread
  · obtain ⟨given, hgiven⟩ := hmisread h
    rw [hgiven] at hf
    cases hf
    exact .inl ⟨h, rfl, statusOfFailure_of_broken rfl rfl⟩
  · obtain ⟨step, hstep⟩ | ⟨given, hgiven⟩ | hnone := hread h
    · rw [hstep] at hf
      cases hf
    · rw [hgiven] at hf
      cases hf
      exact .inr ⟨h, rfl, statusOfFailure_invalidVersion given⟩
    · rw [hnone] at hf
      cases hf
      exact .inr ⟨h, rfl, statusOfFailure_noDirective _⟩

/-- What becomes of a plan, if the numbers of the version before have room.  A message is understood
unless its leftmost directive is not spelled in ASCII.  Unless the kind is searched for in such a
message, the plan is made or bad input is told, and then a request for the changelog is refused as
such; otherwise the failure is another one, and it breaks the answer. -/
theorem plan_answered (s : Server ω) (w : ω) (release : Release)
    (hroom : ∀ t, release.previousVersion = some t → HasRoom t) :
    (∀ m, (∃ k?, ReleaseKind.ofMessage m = .ok k?) ↔ ¬ Directive.IsForeign m) ∧
    (((∃ step, release.plan = .ok step) ∨
        (∃ given, release.plan = .error (.invalidVersion given)) ∨
        release.plan = .error (.noDirective release.commits.val.length)) ↔ ¬ release.IsMisread) ∧
    (∀ f, release.plan = .error f → (f.isInput = true ↔ ¬ release.IsMisread)) ∧
    (release.IsMisread → ∃ given, release.plan = .error (.notReleaseKind given)) ∧
    ∀ (r : Request) (f : Failure), Route.ofPath? r.path = some .changelog → r.method = "POST" →
      Body.check Release.check r = .ok release → release.plan = .error f →
      ∃ answer, ((s.serve r).run w).result = .ok answer ∧
        (answer.status = 422 ↔ ¬ release.IsMisread) ∧
        (answer.status = 500 ↔ release.IsMisread) := by
  obtain ⟨hmisread, hread⟩ := Release.plan_outcomes hroom
  refine ⟨fun m => ReleaseKind.ofMessage_eq_ok_iff, ⟨fun hplan h => ?_, hread⟩, fun f hf => ?_,
    hmisread, ?_⟩
  · -- a word that is no kind is none of the three
    obtain ⟨given, hgiven⟩ := hmisread h
    rw [hgiven] at hplan
    rcases hplan with ⟨step, hstep⟩ | ⟨given, hgiven⟩ | hnone
    · cases hstep
    · cases hgiven
    · cases hnone
  · rcases status_of_plan hroom hf with ⟨h, hinput, -⟩ | ⟨h, hinput, -⟩ <;> simp [h, hinput]
  · intro r f hroute hmethod hcheck hf
    obtain ⟨answer, hanswer, hcode⟩ := s.serve_status hroute hmethod.symm w
    rw [answerOf_changelog s hcheck hf w, statusOf] at hcode
    refine ⟨answer, hanswer, ?_⟩
    rcases status_of_plan hroom hf with ⟨h, -, hbroken⟩ | ⟨h, -, hrefused⟩
    · simp [hcode, hbroken, h]
    · simp [hcode, hrefused, h]

/-- A request for the changelog of this release. -/
def undirected : String :=
  "\x7b\n  \"repo\": \"octo/tool\",\n  \"commits\": [\n    \x7b\n      \"hash\": \"a1\",\n" ++
    "      \"subject\": \"fix: typo\",\n      \"author\": \"ada\"\n    \x7d\n  ]\n\x7d"

theorem plan_answered_undirected :
    ∃ answer, ((silent.serve (posted "/changelog" undirected)).run {}).result = .ok answer ∧
      answer.status = 422 := by
  have hcommit : ∀ depth, Json.Plain (depth + 1)
      (.record [("hash", .text "a1"), ("subject", .text "fix: typo"), ("author", .text "ada")]) :=
    fun depth => .record (by decide) fun f hf => by
      simp only [List.mem_cons, List.not_mem_nil, or_false] at hf
      rcases hf with rfl | rfl | rfl <;> exact .str _
  have hplain : Json.Plain Json.maxDepth (.record [("repo", .text "octo/tool"),
      ("commits", .arr [.record [("hash", .text "a1"), ("subject", .text "fix: typo"),
        ("author", .text "ada")]])]) :=
    .record (by decide) fun f hf => by
      rcases List.mem_pair.1 hf with rfl | rfl
      · exact .str _
      · exact .arr fun v hv => List.mem_singleton.1 hv ▸ hcommit _
  have hcheck : Body.check Release.check (posted "/changelog" undirected) =
      .ok (releaseOf "fix: typo") :=
    Body.check_of_read (read_posted hplain (by decide +kernel) (by decide +kernel)) rfl
  have hplan : (releaseOf "fix: typo").plan = .error (.noDirective 1) := rfl
  obtain ⟨-, hread, -, -, hserve⟩ := plan_answered silent {} (releaseOf "fix: typo") nofun
  obtain ⟨answer, hanswer, hstatus, -⟩ := hserve (posted "/changelog" undirected) _
    (by decide +kernel) rfl hcheck hplan
  exact ⟨answer, hanswer, hstatus.2 (hread.1 (.inr (.inr hplan)))⟩

/-- A directive with a dotless letter is found, but it is told to be no kind of release. -/
theorem plan_answered_dotless :
    ReleaseKind.ofMessage "!release: m\u0131nor" = .error (.notReleaseKind (.text "m\u0131nor")) ∧
      ∃ f, (releaseOf "!release: m\u0131nor").plan = .error f ∧ f.isInput = false ∧
        f.kind = .value :=
  ⟨rfl, _, rfl, rfl, rfl⟩

end Server
end ReleaseNotes
