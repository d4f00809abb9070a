/-
Answers with changelogs.

A request for a changelog is refused if its body is not good or if its release cannot be planned for
bad input, and then nothing is asked of the world outside.  Otherwise the dialogue on the release
decides: its result is the answer, a call that fails to the last is told as a service that keeps
failing, and everything else breaks the answer.  So does a result or a failure that holds what
cannot be encoded, although the server means to tell it.

Main statements:
* `Server.statusOfFailure_eq_iff` — the status of a failure that is no bad input;
* `Server.answerOf_changelog_planned` — what becomes of a release that is planned;
* `Server.serve_kept` — what the answer adds to the world and to the events of a route;
* `Server.Reflects` — what the answer tells of a dialogue;
* `Server.changelog_answered` — requests for changelogs.
-/
import ReleaseNotes.Proofs.GitHub.Commits
import ReleaseNotes.Proofs.Validation.Sending
import ReleaseNotes.Proofs.Writer.Encodable

namespace ReleaseNotes

open Dialogue

variable {ω : Type}

/-- Nothing is asked of the world outside: it stays as it is, and only notices are left behind. -/
def Outcome.IsQuiet {α : Type} (o : Outcome ω α) (w : ω) : Prop :=
  o.world = w ∧ ∃ notices : List Notice, o.events = notices.map .noticed

namespace Server

/-! ### The statuses of failures -/

/-- A failure that is no bad input is told as a service that keeps failing, or it breaks the
answer. -/
theorem statusOfFailure_eq_iff {f : Failure} (hinput : f.isInput = false) :
    (statusOfFailure f = 503 ↔ f.isTransient = true ∧ f.message.IsEncodable) ∧
      (statusOfFailure f = 503 ∨ statusOfFailure f = 500) := by
  unfold statusOfFailure
  rw [hinput, Text.isEncodable_iff_toChars?]
  cases f.message.toChars? <;> cases f.isTransient <;> simp

/-- A plan that fails is told as bad input, or it breaks the answer. -/
theorem statusOfFailure_of_plan {release : Release} {f : Failure}
    (hplan : release.plan = .error f) :
    (f.isInput = true → statusOfFailure f = 422) ∧
      (f.isInput = false → statusOfFailure f = 500) := by
  obtain ⟨given, rfl⟩ | rfl | ⟨given, rfl⟩ | ⟨limit, rfl⟩ := Release.plan_failures hplan
  · exact ⟨nofun, fun h => statusOfFailure_of_broken h rfl⟩
  · exact ⟨fun _ => statusOfFailure_noDirective _, nofun⟩
  · exact ⟨fun _ => statusOfFailure_invalidVersion given, nofun⟩
  · exact ⟨nofun, fun h => statusOfFailure_of_broken h rfl⟩

/-! ### The route of changelogs -/

/-- The answer with the fields of a result, unless they cannot be encoded. -/
def sent (j : Json) : Except Failure Answer :=
  match j.texts.findSome? Encoding.utf8.fault? with
  | some fault => .error (.unencodable fault)
  | none => .ok (Answer.ofJson 200 j.presentable)

theorem answerWith_eq (j : Json) : (answerWith j : Act ω Answer) = Act.of (sent j) := by
  unfold answerWith sent
  cases j.texts.findSome? Encoding.utf8.fault? <;> rfl

theorem sent_of_isEncodable {j : Json} (h : ∀ t ∈ j.texts, t.IsEncodable) :
    sent j = .ok (Answer.ofJson 200 j.presentable) := by
  have hfault : j.texts.findSome? Encoding.utf8.fault? = none :=
    List.findSome?_eq_none_iff.2 fun t ht => Text.isEncodable_iff_fault?.1 (h t ht)
  rw [sent, hfault]

theorem sent_of_not_isEncodable {j : Json} (h : ¬ ∀ t ∈ j.texts, t.IsEncodable) :
    ∃ fault, sent j = .error (.unencodable fault) := by
  cases hfault : j.texts.findSome? Encoding.utf8.fault? with
  | some fault => exact ⟨fault, by rw [sent, hfault]⟩
  | none =>
    refine absurd (fun t ht => ?_) h
    exact Text.isEncodable_iff_fault?.2 (List.findSome?_eq_none_iff.1 hfault t ht)

section

variable (s : Server ω) {r : Request} {release : Release}

/-- A body that is not good is answered at once. -/
theorem answerOf_changelog_refused {answer : Except Failure Answer}
    (hcheck : Body.check Release.check r = .error answer) (w : ω) :
    (s.answerOf r .changelog).run w = ⟨answer, w, []⟩ := by
  show (answerTo Release.check r _).run w = _
  unfold answerTo
  rw [hcheck]
  rfl

/-- A release that is not planned is given up before anything is asked of the world outside. -/
theorem answerOf_changelog_unplanned (hcheck : Body.check Release.check r = .ok release)
    {f : Failure} (hplan : release.plan = .error f) (w : ω) :
    (s.answerOf r .changelog).run w =
      ⟨.error f, w, [Writer.start release, .noticed (.broke release.repository f)]⟩ := by
  show (answerTo Release.check r fun release => do
    answerWith (← s.writer.write release).toJson).run w = _
  rw [answerTo_of_check hcheck, Act.bind_run, s.writer.write_run_of_plan_error hplan]

/-- The dialogue on a release that is planned decides on the answer. -/
theorem answerOf_changelog_planned (hcheck : Body.check Release.check r = .ok release)
    {step : VersionStep} (hplan : release.plan = .ok step) (w : ω) :
    let t := (s.writer.talk release step).run w
    ∃ last, (s.answerOf r .changelog).run w =
      ⟨t.result.bind fun result => sent (Changelog.ofResult step result).toJson, t.world,
        Writer.start release :: t.events ++ [.noticed last]⟩ := by
  intro t
  have hanswer : (s.answerOf r .changelog).run w =
      (s.writer.write release >>= fun c => Act.of (sent c.toJson)).run w := by
    show (answerTo Release.check r fun release => do
      answerWith (← s.writer.write release).toJson).run w = _
    rw [answerTo_of_check hcheck]
    simp only [answerWith_eq]
  rw [hanswer, Act.bind_run, s.writer.write_run hplan]
  have ht : t = (s.writer.talk release step).run w := rfl
  rw [← ht]
  rcases t with ⟨f | result, w', events⟩
  · exact ⟨_, rfl⟩
  · exact ⟨_, by simp [Except.map, Except.bind, Act.of_run]; rfl⟩

/-- Following a route and answering changes the world as the route alone does, and leaves nothing
but notices behind the events of the route. -/
theorem serve_kept {route : Route} (hroute : Route.ofPath? r.path = some route)
    (hmethod : route.method = r.method) (w : ω) :
    let o := (s.answerOf r route).run w
    ((s.serve r).run w).world = o.world ∧
      ∃ notices : List Notice,
        ((s.serve r).run w).events = o.events ++ notices.map Event.noticed := by
  intro o
  have hserve := s.serve_run hroute hmethod w
  dsimp only at hserve
  rw [hserve]
  cases replied o.result with
  | ok b => exact ⟨rfl, [_], rfl⟩
  | error f => exact ⟨rfl, [], (List.append_nil _).symm⟩

end

/-! ### Requests for changelogs -/

/-- What the answer tells of the dialogue on a release that is planned, and of the calls that
account for it.  The result is told if it can be encoded, and a call that fails to the last if its
message can be encoded; if all that the dialogue hears can be encoded, these are no conditions. -/
structure Reflects (d : Dialogue ω) (step : VersionStep) (t : Outcome ω DialogueResult)
    (calls : List Call) (a : Answer) : Prop where
  blames : BlamesLast d t calls
  done : a.status = 200 ↔
    ∃ result, t.result = .ok result ∧ (Changelog.ofResult step result).IsEncodable
  shown : ∀ result, t.result = .ok result → a.status = 200 →
    a.content = .json (Changelog.ofResult step result).toJson.presentable
  down : a.status = 503 ↔
    ∃ call ∈ calls, ∃ f, Exhausts d.settings.retry call f ∧ f.message.IsEncodable
  otherwise : a.status = 200 ∨ a.status = 503 ∨ a.status = 500
  clean : t.IsClean →
    (a.status = 200 ↔ ∃ result, t.result = .ok result) ∧
      (a.status = 503 ↔ ∃ call ∈ calls, ∃ f, Exhausts d.settings.retry call f)

/-- The failure of a call that ends a clean dialogue can be told. -/
theorem isEncodable_of_exhausts {α : Type} {p : RetryPolicy} {call : Call} {f : Failure}
    {t : Outcome ω α} (h : Exhausts p call f) (hclean : t.IsClean)
    (hlast : t.events.getLast? = some call.ending) : f.message.IsEncodable := by
  have hmem := List.mem_of_getLast? hlast
  cases h.1 with
  | refused permanent => exact hclean.answered f hmem
  | unanswered _ _ => exact hclean.answered f hmem
  | unexecuted _ _ => exact hclean.called _ f hmem

/-- The failures of a dialogue that another attempt may mend are those of the calls that fail to the
last. -/
theorem exists_error_iff {d : Dialogue ω} {α : Type} {t : Outcome ω α} {calls : List Call}
    (h : BlamesLast d t calls) {P : Failure → Prop} :
    (∃ f, t.result = .error f ∧ f.isTransient = true ∧ P f) ↔
      ∃ call ∈ calls, ∃ f, Exhausts d.settings.retry call f ∧ P f := by
  constructor
  · rintro ⟨f, hf, htransient, hp⟩
    obtain ⟨call, hcall, hexhausts⟩ := h.exhausted f hf htransient
    exact ⟨call, hcall, f, hexhausts, hp⟩
  · rintro ⟨call, hcall, f, hf, hp⟩
    exact ⟨f, (h.ends call hcall f hf).1, hf.2, hp⟩

/-- The status of what comes of a dialogue that does not fail for bad input. -/
theorem statusOf_sent {x : Except Failure DialogueResult} (step : VersionStep)
    (hinput : ∀ f, x = .error f → f.isInput = false) :
    let n := statusOf (x.bind fun result => sent (Changelog.ofResult step result).toJson)
    (n = 200 ↔ ∃ result, x = .ok result ∧ (Changelog.ofResult step result).IsEncodable) ∧
      (n = 503 ↔ ∃ f, x = .error f ∧ f.isTransient = true ∧ f.message.IsEncodable) ∧
      (n = 200 ∨ n = 503 ∨ n = 500) := by
  intro n
  cases x with
  | ok result =>
    by_cases h : (Changelog.ofResult step result).IsEncodable
    · have hn : n = 200 := congrArg statusOf (sent_of_isEncodable h)
      simp [hn, h]
    · obtain ⟨fault, hfault⟩ := sent_of_not_isEncodable h
      have hn : n = 500 :=
        (congrArg statusOf hfault).trans (statusOfFailure_of_broken rfl rfl)
      simp [hn, h]
  | error f =>
    obtain ⟨hdown, hother⟩ := statusOfFailure_eq_iff (hinput f rfl)
    have hn : n = statusOfFailure f := rfl
    rw [← hn] at hdown hother
    have hne : n ≠ 200 := by omega
    exact ⟨by simp [hne], by simp [hdown], .inr hother⟩

theorem reflects {d : Dialogue ω} {step : VersionStep} {t : Outcome ω DialogueResult}
    {calls : List Call} {a : Answer} (hcalls : BlamesLast d t calls)
    (hinput : ∀ f, t.result = .error f → f.isInput = false)
    (hencodable : ∀ result, t.result = .ok result → t.IsClean →
      (Changelog.ofResult step result).IsEncodable)
    (hstatus : a.status = statusOf (t.result.bind fun result =>
      sent (Changelog.ofResult step result).toJson))
    (hshown : ∀ result, t.result = .ok result → (Changelog.ofResult step result).IsEncodable →
      a.content = .json (Changelog.ofResult step result).toJson.presentable) :
    Reflects d step t calls a := by
  obtain ⟨hdone, hdown, hother⟩ := statusOf_sent step hinput
  rw [← hstatus] at hdone hdown hother
  refine ⟨hcalls, hdone, ?_, hdown.trans (exists_error_iff hcalls), hother, ?_⟩
  · intro result hresult hok
    obtain ⟨result', hresult', hencodable⟩ := hdone.1 hok
    obtain rfl : result = result' := Except.ok.inj (hresult.symm.trans hresult')
    exact hshown result hresult hencodable
  · intro hclean
    refine ⟨hdone.trans (exists_congr fun result => ?_), ?_⟩
    · exact and_iff_left_of_imp fun hresult => hencodable result hresult hclean
    · rw [hdown, exists_error_iff hcalls]
      refine exists_congr fun call => and_congr_right fun hcall => exists_congr fun f => ?_
      exact and_iff_left_of_imp fun hf =>
        isEncodable_of_exhausts hf hclean (hcalls.ends call hcall f hf).2.2

section

variable (s : Server ω) {r : Request} {release : Release} {w : ω}

/-- A request whose body is not good is refused, if the body keeps to the limits of the reader and
holds only what can be sent. -/
theorem serve_changelog_refused (hroute : Route.ofPath? r.path = some .changelog)
    (hmethod : r.method = "POST") (hreadable : Body.read r ≠ .error .unreadable)
    (hbody : ∀ j, Body.read r = .ok j → j.isSendable = true) {answer : Except Failure Answer}
    (hcheck : Body.check Release.check r = .error answer) :
    ∃ a, ((s.serve r).run w).result = .ok a ∧ a.status = 422 ∧ ((s.serve r).run w).IsQuiet w := by
  obtain ⟨a, ha, hstatus⟩ := s.serve_status hroute hmethod.symm w
  obtain ⟨hworld, notices, hevents⟩ := s.serve_kept hroute hmethod.symm w
  obtain ⟨b, rfl, hb⟩ := Body.exists_refusal Release.isSending_check hreadable hbody hcheck
  rw [s.answerOf_changelog_refused hcheck w] at hstatus hworld hevents
  exact ⟨a, ha, hstatus.trans hb, hworld, notices, hevents⟩

/-- A request for a release that is not planned. -/
theorem serve_changelog_unplanned (hroute : Route.ofPath? r.path = some .changelog)
    (hmethod : r.method = "POST") (hcheck : Body.check Release.check r = .ok release) {f : Failure}
    (hplan : release.plan = .error f) :
    ∃ a, ((s.serve r).run w).result = .ok a ∧ (f.isInput = true → a.status = 422) ∧
      (f.isInput = false → a.status = 500) ∧ ((s.serve r).run w).IsQuiet w := by
  obtain ⟨a, ha, hstatus⟩ := s.serve_status hroute hmethod.symm w
  obtain ⟨hworld, notices, hevents⟩ := s.serve_kept hroute hmethod.symm w
  rw [s.answerOf_changelog_unplanned hcheck hplan w] at hstatus hworld hevents
  have hstatus : a.status = statusOfFailure f := hstatus
  obtain ⟨hinput, hbroken⟩ := statusOfFailure_of_plan hplan
  rw [← hstatus] at hinput hbroken
  exact ⟨a, ha, hinput, hbroken, hworld, _ :: _ :: notices, hevents⟩

/-- While a request for a release that is planned is served, the dialogue on it deals with the world
outside, and nothing else does. -/
theorem serve_changelog_events (hroute : Route.ofPath? r.path = some .changelog)
    (hmethod : r.method = "POST") (hcheck : Body.check Release.check r = .ok release)
    {step : VersionStep} (hplan : release.plan = .ok step) :
    let t := (s.writer.talk release step).run w
    ((s.serve r).run w).world = t.world ∧
      ∃ notices : List Notice, ((s.serve r).run w).events =
        Writer.start release :: t.events ++ notices.map .noticed := by
  intro t
  obtain ⟨hworld, notices, hevents⟩ := s.serve_kept hroute hmethod.symm w
  obtain ⟨last, hanswer⟩ := s.answerOf_changelog_planned hcheck hplan w
  rw [hanswer] at hworld hevents
  exact ⟨hworld, last :: notices, hevents.trans (List.append_cons _ _ _).symm⟩

/-- A request for a release that is planned, if the model reports no bad input. -/
theorem serve_changelog_planned (hroute : Route.ofPath? r.path = some .changelog)
    (hmethod : r.method = "POST") (hcheck : Body.check Release.check r = .ok release)
    {step : VersionStep} (hplan : release.plan = .ok step)
    (hservice : ∀ f, .answered (.error f) ∈ ((s.writer.talk release step).run w).events →
      f.isInput = false) :
    let t := (s.writer.talk release step).run w
    ∃ a calls, ((s.serve r).run w).result = .ok a ∧
      Reflects (s.writer.dialogue release) step t calls a := by
  intro t
  obtain ⟨a, ha, hstatus⟩ := s.serve_status hroute hmethod.symm w
  obtain ⟨last, hanswer⟩ := s.answerOf_changelog_planned hcheck hplan w
  rw [hanswer] at hstatus
  have hcourse := (s.writer.dialogue release).course_run
    (Prompt.system (s.writer.registry release).describe) (Prompt.user release step) w
  obtain ⟨calls, hcalls⟩ := hcourse.exists_blamesLast
  refine ⟨a, calls, ha, reflects hcalls ?_ ?_ hstatus ?_⟩
  · intro f hf
    exact hcourse.isInput_of_error (reporting_of_registry _ _ _) hservice hf
  · intro result hresult hclean
    exact Writer.isEncodable_of_isClean hresult hclean
  · intro result hresult hencodable
    have hsent : ((s.answerOf r .changelog).run w).result =
        .ok (Answer.ofJson 200 (Changelog.ofResult step result).toJson.presentable) := by
      rw [hanswer, ← sent_of_isEncodable hencodable]
      show t.result.bind _ = _
      rw [show t.result = .ok result from hresult]
      rfl
    rw [s.serve_of_ok hroute hmethod.symm hsent] at ha
    cases ha
    rfl

/-- Requests for changelogs, if their bodies keep to the limits of the reader and hold only what can
be sent, and if the model reports no bad input.  A request is refused exactly if its body is not
good or its release is not planned for bad input.  Then, and whenever a plan fails, nothing is asked
of the world outside.  Otherwise the answer reflects the dialogue on the release. -/
theorem changelog_answered (hroute : Route.ofPath? r.path = some .changelog)
    (hmethod : r.method = "POST") (hreadable : Body.read r ≠ .error .unreadable)
    (hbody : ∀ j, Body.read r = .ok j → j.isSendable = true)
    (hservice : ∀ f, .answered (.error f) ∈ ((s.serve r).run w).events → f.isInput = false) :
    ∃ a, ((s.serve r).run w).result = .ok a ∧
      (a.status = 422 ↔ (∀ release, Body.check Release.check r ≠ .ok release) ∨
        ∃ release f, Body.check Release.check r = .ok release ∧ release.plan = .error f ∧
          f.isInput = true) ∧
      (a.status = 422 → ((s.serve r).run w).IsQuiet w) ∧
      (∀ release f, Body.check Release.check r = .ok release → release.plan = .error f →
        f.isInput = false → a.status = 500 ∧ ((s.serve r).run w).IsQuiet w) ∧
      ∀ release step, Body.check Release.check r = .ok release → release.plan = .ok step →
        let t := (s.writer.talk release step).run w
        (∃ calls, Reflects (s.writer.dialogue release) step t calls a) ∧
          ((s.serve r).run w).world = t.world ∧
          ∃ notices : List Notice, ((s.serve r).run w).events =
            Writer.start release :: t.events ++ notices.map .noticed := by
  cases hcheck : Body.check Release.check r with
  | error answer =>
    obtain ⟨a, ha, hstatus, hquiet⟩ :=
      s.serve_changelog_refused (w := w) hroute hmethod hreadable hbody hcheck
    refine ⟨a, ha, ⟨fun _ => .inl fun _ h => ?_, fun _ => hstatus⟩, fun _ => hquiet, ?_, ?_⟩
    · cases h
    · rintro _ _ ⟨⟩
    · rintro _ _ ⟨⟩
  | ok release =>
    cases hplan : release.plan with
    | error f =>
      obtain ⟨a, ha, hrefused, hbroken, hquiet⟩ :=
        s.serve_changelog_unplanned (w := w) hroute hmethod hcheck hplan
      refine ⟨a, ha, ⟨fun h => ?_, ?_⟩, fun _ => hquiet, ?_, ?_⟩
      · refine .inr ⟨release, f, rfl, hplan, ?_⟩
        by_contra hf
        have hstatus := hbroken (Bool.eq_false_iff.2 hf)
        omega
      · rintro (hnone | ⟨_, g, ⟨⟩, hg, hinput⟩)
        · exact absurd rfl (hnone release)
        · cases hplan.symm.trans hg
          exact hrefused hinput
      · rintro _ g ⟨⟩ hg hinput
        cases hplan.symm.trans hg
        exact ⟨hbroken hinput, hquiet⟩
      · rintro _ step ⟨⟩ hstep
        cases hplan.symm.trans hstep
    | ok step =>
      obtain ⟨hworld, notices, hevents⟩ :=
        s.serve_changelog_events (w := w) hroute hmethod hcheck hplan
      -- what the model reports in the dialogue it reports while the request is served
      have htalk : ∀ f, .answered (.error f) ∈ ((s.writer.talk release step).run w).events →
          f.isInput = false := by
        intro f hf
        refine hservice f ?_
        rw [hevents]
        exact List.mem_append_left _ (List.mem_cons_of_mem _ hf)
      obtain ⟨a, calls, ha, hreflects⟩ :=
        s.serve_changelog_planned hroute hmethod hcheck hplan htalk
      have hother : a.status ≠ 422 := by
        have := hreflects.otherwise
        omega
      refine ⟨a, ha, ⟨fun h => absurd h hother, ?_⟩, fun h => absurd h hother, ?_, ?_⟩
      · rintro (hnone | ⟨_, f, ⟨⟩, hf, -⟩)
        · exact absurd rfl (hnone release)
        · cases hplan.symm.trans hf
      · rintro _ f ⟨⟩ hf
        cases hplan.symm.trans hf
      · rintro _ step' ⟨⟩ hstep
        cases hplan.symm.trans hstep
        exact ⟨⟨calls, hreflects⟩, hworld, notices, hevents⟩

end

/-- The body of a request for the changelog of a minor release. -/
def directedBody : String :=
  "\x7b\n  \"repo\": \"octo/tool\",\n  \"commits\": [\n    \x7b\n      \"hash\": \"a1\",\n" ++
    "      \"subject\": \"!release: minor\",\n      \"author\": \"ada\"\n    \x7d\n  ]\n\x7d"

theorem read_directedBody : Body.read (posted "/changelog" directedBody) = .ok directed :=
  read_posted directed_plain (by decide +kernel) (by decide +kernel)

theorem check_directedBody :
    Body.check Release.check (posted "/changelog" directedBody) =
      .ok (releaseOf "!release: minor") :=
  Body.check_of_read read_directedBody rfl

/-- A service that is down. -/
def down : Failure := .transient "down" none

/-- Whether an event tells no bad input that the model reports. -/
def reportsNone : Event → Bool
  | .answered (.error f) => !f.isInput
  | _ => true

theorem isInput_of_reportsNone {events : List Event} (h : events.all reportsNone = true)
    {f : Failure} (hf : .answered (.error f) ∈ events) : f.isInput = false := by
  have hnone := List.all_eq_true.1 h _ hf
  simpa [reportsNone] using hnone

/-- A good reply is answered with the changelog, and a model that is down in all attempts is told as
a service that keeps failing. -/
theorem changelog_answered_directed :
    (∃ a, ((silent.serve (posted "/changelog" directedBody)).run
        { replies := [.ok (.text "- A tool.")] }).result = .ok a ∧ a.status = 200) ∧
      ∃ a, ((silent.serve (posted "/changelog" directedBody)).run
        { replies := [.error down] }).result = .ok a ∧ a.status = 503 := by
  have hreadable : Body.read (posted "/changelog" directedBody) ≠ .error .unreadable := by
    rw [read_directedBody]
    nofun
  have hbody : ∀ j, Body.read (posted "/changelog" directedBody) = .ok j →
      j.isSendable = true := by
    intro j hj
    cases read_directedBody.symm.trans hj
    decide +kernel
  obtain ⟨step, hplan⟩ := exists_plan
  have hroute : Route.ofPath? (posted "/changelog" directedBody).path = some .changelog := by
    decide +kernel
  have hservice : ∀ w : Rehearsal,
      ((silent.writer.talk (releaseOf "!release: minor") step).run w).events.all
        reportsNone = true →
      ∀ f, .answered (.error f) ∈
        ((silent.serve (posted "/changelog" directedBody)).run w).events → f.isInput = false := by
    intro w hall f hf
    obtain ⟨-, notices, hevents⟩ :=
      silent.serve_changelog_events (w := w) hroute rfl check_directedBody hplan
    rw [hevents] at hf
    simp only [List.cons_append, List.mem_cons, List.mem_append, List.mem_map, reduceCtorEq,
      and_false, exists_false, or_false, Writer.start, false_or] at hf
    exact isInput_of_reportsNone hall hf
  constructor
  · obtain ⟨a, ha, -, -, -, htalk⟩ := silent.changelog_answered hroute rfl hreadable hbody
      (hservice { replies := [.ok (.text "- A tool.")] } rfl)
    obtain ⟨⟨calls, hreflects⟩, -⟩ := htalk _ step check_directedBody hplan
    refine ⟨a, ha, hreflects.done.2 ⟨_, rfl, fun t ht => ?_⟩⟩
    rw [Changelog.texts_ofResult, List.mem_append, List.mem_cons] at ht
    rcases ht with ht | rfl | ht
    · exact Text.isEncodable_iff_fault?.2 (fault?_of_mem_texts step ht)
    · exact Text.isEncodable_ofString _
    · cases ht
  · obtain ⟨a, ha, -, -, -, htalk⟩ := silent.changelog_answered hroute rfl hreadable hbody
      (hservice { replies := [.error down] } rfl)
    obtain ⟨⟨calls, hreflects⟩, -⟩ := htalk _ step check_directedBody hplan
    obtain ⟨call, hcall, hexhausts⟩ := hreflects.blames.exhausted down rfl rfl
    exact ⟨a, ha, hreflects.down.2 ⟨call, hcall, down, hexhausts, Text.isEncodable_ofString _⟩⟩

/-- A failure on the way to the commits, with half a surrogate pair in its message. -/
def garbled : Failure :=
  .transient (Text.ofString "GitHub request failed: " ++ [.half 0x4e9]) none

/-- A server whose model asks for a commit, and that is cut off from the commits. -/
def cutOff : Server Unit :=
  ⟨⟨.standard, fun _ _ => pure (.str (ToolCall.reply [] [(CommitTool.fetching "abcd", [])])),
    fun _ _ => Act.fail garbled⟩⟩

/-- The calls of a dialogue end with one that fails to the last, but the answer breaks, for the
message of the failure cannot be encoded. -/
theorem changelog_answered_garbled :
    let reply := ToolCall.reply [] [(CommitTool.fetching "abcd", [])]
    let release := releaseOf "!release: minor"
    reply.IsEncodable ∧ directed.isSendable = true ∧
      Body.read (posted "/changelog" directedBody) = .ok directed ∧
      Body.check Release.check (posted "/changelog" directedBody) = .ok release ∧
      ∃ step a calls, release.plan = .ok step ∧
        ((cutOff.serve (posted "/changelog" directedBody)).run ()).result = .ok a ∧
        a.status = 500 ∧
        Accounts (cutOff.writer.dialogue release)
          ((cutOff.writer.talk release step).run ()).events calls ∧
        ∃ call ∈ calls, Exhausts cutOff.writer.settings.dialogue.retry call garbled := by
  intro reply release
  have hreply : reply.IsEncodable := Text.isEncodable_iff_toChars?.2 (by decide +kernel)
  have hclean : reply.hasByte = false := by decide +kernel
  have hbody : directed.isSendable = true := by decide +kernel
  refine ⟨hreply, hbody, read_directedBody, check_directedBody, ?_⟩
  obtain ⟨step, hplan⟩ := exists_plan
  -- the first reply asks for the commit, and no attempt gets through to it
  have htried : ((cutOff.writer.dialogue release).attempt ((cutOff.writer.dialogue release).trial
      (CommitTool.fetching "abcd"))).run () = ⟨.error garbled, (), _⟩ := rfl
  have hcourse : Course (cutOff.writer.dialogue release)
      (Prompt.system (cutOff.writer.registry release).describe) (3 + 1)
      (.start (Prompt.user release step)) () ⟨.error garbled, (), _⟩ :=
    .broken (.read rfl (replyTurn_text_iff.2 hclean) CommitTool.all_fetching) (by simp)
      (.broken (.broken htried rfl))
  have htalk : (cutOff.writer.talk release step).run () = _ := hcourse.converse_run
  have hresult : ((cutOff.writer.talk release step).run ()).result = .error garbled :=
    congrArg Outcome.result htalk
  have hservice : ((cutOff.writer.talk release step).run ()).events.all reportsNone = true := by
    rw [htalk]
    rfl
  obtain ⟨a, calls, ha, hreflects⟩ := cutOff.serve_changelog_planned
    (show Route.ofPath? (posted "/changelog" directedBody).path = _ by decide +kernel) rfl
    check_directedBody hplan fun f => isInput_of_reportsNone hservice
  obtain ⟨call, hcall, hexhausts⟩ := hreflects.blames.exhausted garbled hresult rfl
  have hundone : a.status ≠ 200 := by
    intro h
    obtain ⟨result, hok, -⟩ := hreflects.done.1 h
    cases hresult.symm.trans hok
  have huntold : a.status ≠ 503 := by
    intro h
    obtain ⟨call', hcall', f, hf, hmessage⟩ := hreflects.down.1 h
    obtain ⟨hfails, -⟩ := hreflects.blames.ends call' hcall' f hf
    cases hresult.symm.trans hfails
    exact absurd (Text.isEncodable_iff_toChars?.1 hmessage) (by decide +kernel)
  have hstatus : a.status = 500 := by
    have := hreflects.otherwise
    omega
  exact ⟨step, a, calls, hplan, ha, hstatus, hreflects.blames.accounts, call, hcall, hexhausts⟩

end Server
end ReleaseNotes
