/-
Questions to the language model.

A question over the client of the language model sends one request at each of its attempts, which
holds the system prompt and the turns so far.  A dialogue whose attempts all meet answers that pass
is given up; the first other answer is the last one, and it either is a reply, from which the
dialogue goes on, or ends the dialogue at once.

Main statements:
* `WebAnswer.completion?` — the text of a well-formed answer;
* `LanguageModel.messages_request` — what a request says;
* `LanguageModel.read_of_completion?` — how a well-formed answer is read;
* `LanguageModel.sends` — one attempt of a question;
* `LanguageModel.run_asking` — a question in the whole of its dialogue.
-/
import ReleaseNotes.Proofs.Dialogue.Moments
import ReleaseNotes.Proofs.Json.Bytes
import ReleaseNotes.Proofs.Web.Lasting
import ReleaseNotes.Proofs.Web.Wire

namespace ReleaseNotes

open Dialogue

/-! ### Well-formed answers -/

/-- The first item of an array. -/
def Json.first? : Json → Option Json
  | .arr (j :: _) => some j
  | _ => none

/-- The text of a well-formed answer of success: its first choice has a message, whose content is
the text, or null where the text is empty. -/
def WebAnswer.completion? : WebAnswer → Option Text
  | .response 200 _ body =>
    match Json.decodeMarked body with
    | .error _ => none
    | .ok answer => do
      let choice ← (← answer.field? "choices").first?
      let message ← choice.field? "message"
      match ← message.field? "content" with
      | .str text => some text
      | .null => some []
      | _ => none
  | _ => none

/-- What stands where in a well-formed answer. -/
theorem WebAnswer.exists_of_completion? {x : WebAnswer} {text : Text}
    (h : x.completion? = some text) :
    ∃ headers body answer choice more message,
      x = .response 200 headers body ∧ Json.decodeMarked body = .ok answer ∧
        answer.field? "choices" = some (.arr (choice :: more)) ∧
        choice.field? "message" = some message ∧
        (message.field? "content" = some (.str text) ∨
          message.field? "content" = some .null ∧ text = []) := by
  unfold completion? at h
  split at h
  · next headers body =>
    split at h
    · cases h
    · next answer hdecode =>
      simp only [Option.bind_eq_bind, Option.bind_eq_some_iff] at h
      obtain ⟨choices, hchoices, choice, hfirst, message, hmessage, content, hcontent, h⟩ := h
      obtain ⟨more, rfl⟩ : ∃ more, choices = .arr (choice :: more) := by
        unfold Json.first? at hfirst
        split at hfirst
        · cases hfirst
          exact ⟨_, rfl⟩
        · cases hfirst
      refine ⟨headers, body, answer, choice, more, message, rfl, hdecode, hchoices, hmessage, ?_⟩
      split at h
      · cases h
        exact .inl hcontent
      · cases h
        exact .inr ⟨hcontent, rfl⟩
      · cases h
  · cases h

theorem Json.isFreeOfBytes_of_field? {j v : Json} {name : String} (h : j.IsFreeOfBytes)
    (hv : j.field? name = some v) : v.IsFreeOfBytes := by
  cases j with
  | obj fields => exact isFreeOfBytes_of_lookup h hv
  | _ => cases hv

/-- The text of a well-formed answer has no byte that could not be decoded. -/
theorem WebAnswer.hasByte_of_completion? {x : WebAnswer} {text : Text}
    (h : x.completion? = some text) : text.hasByte = false := by
  obtain ⟨headers, body, answer, choice, more, message, -, hdecode, hchoices, hmessage, hcontent⟩ :=
    exists_of_completion? h
  have hanswer : answer.IsFreeOfBytes :=
    Json.isFreeOfBytes_of_decodeMarked (Text.hasByte_ofString body) hdecode
  have hchoice : choice.IsFreeOfBytes := by
    intro t ht
    exact Json.isFreeOfBytes_of_field? hanswer hchoices t (List.mem_append_left _ ht)
  have hmessage := Json.isFreeOfBytes_of_field? hchoice hmessage
  rcases hcontent with hcontent | ⟨-, rfl⟩
  · exact Json.isFreeOfBytes_of_field? hmessage hcontent text List.mem_cons_self
  · rfl

namespace LanguageModel

variable {ω : Type}

theorem member_of_field? {j v : Json} {name : String} (h : j.field? name = some v) :
    member j name = .ok v := by
  cases j with
  | obj fields => rw [member, h, Option.getD_some]
  | _ => cases h

/-- A well-formed answer is read as its text. -/
theorem read_of_completion? {x : WebAnswer} {text : Text} (h : x.completion? = some text) :
    read x = .ok (.str text, text.length) := by
  obtain ⟨headers, body, answer, choice, more, message, rfl, hdecode, hchoices, hmessage,
    hcontent⟩ := WebAnswer.exists_of_completion? h
  have hvalue : valueOf headers body = .ok answer := by rw [valueOf, hdecode]
  have htext : content answer = .ok (.str text) := by
    have hfirst : first (.arr (choice :: more)) = .ok choice := rfl
    simp only [content, member_of_field? hchoices, hfirst, member_of_field? hmessage, bind,
      Except.bind, pure, Except.pure]
    rcases hcontent with hcontent | ⟨hcontent, rfl⟩
    · rw [member_of_field? hcontent]
      cases text <;> rfl
    · rw [member_of_field? hcontent]
      rfl
  have hsuccess : Status.isSuccess 200 = true := rfl
  rw [read, if_pos hsuccess, hvalue]
  simp only [bind, Except.bind, htext]
  rfl

/-- An answer whose status is that of an error, and does not pass, is told as such. -/
theorem read_of_error {status : Nat} (headers : List (String × String)) (body : String)
    (herror : 400 ≤ status) (hpasses : (WebAnswer.response status headers body).passes = false) :
    read (.response status headers body) =
      .error (.outside (.other (statusName status)) (statusText status body)) := by
  have hsuccess : ¬ Status.isSuccess status = true := by
    simp only [Status.isSuccess, Bool.and_eq_true, decide_eq_true_eq]
    omega
  have hstatus : ¬ (status = 429 ∨ 500 ≤ status) := by
    have hpassing : GitHubClient.isPassing status = false := hpasses
    simpa [GitHubClient.isPassing] using hpassing
  rw [read, if_neg hsuccess, statusFailure, if_neg hstatus]

/-! ### One attempt of a question -/

/-- A request says the system prompt as a turn of the system, and then the turns so far. -/
theorem messages_request (m : LanguageModel) (system : Text) (turns : List Turn) :
    (m.request system turns).body.bind (Json.field? · "messages") =
      some (.arr (message "system" system :: turns.map Turn.toJson)) := rfl

theorem service_run {m : LanguageModel} {system : Text} {turns : List Turn}
    (hobstacle : m.obstacle? system turns = none) (wire : Wire ω) (w : ω) :
    (m.service wire.transport system turns).run w =
      match read (wire (m.request system turns) w).1 with
      | .ok (text, characters) =>
        ⟨.ok text, (wire (m.request system turns) w).2,
          [.requested (m.request system turns),
            .noticed (.replied m.settings.name turns.length characters)]⟩
      | .error f =>
        ⟨.error f, (wire (m.request system turns) w).2, [.requested (m.request system turns)]⟩ := by
  simp only [service, hobstacle, Act.bind_run, Act.leave_run, Wire.transport_run, Act.of_run]
  cases read (wire (m.request system turns) w).1 with
  | ok reply => rfl
  | error f => rfl

/-- What an attempt of a question makes of an answer. -/
def tell (x : WebAnswer) : Except Failure Json := (read x).map Prod.fst

theorem lasting_tell {x : WebAnswer} (h : x.passes = false) : Lasting (tell x) := by
  intro f hf
  cases hread : read x with
  | ok reply =>
    rw [tell, hread] at hf
    cases hf
  | error g =>
    rw [tell, hread] at hf
    cases hf
    exact lasting_read h _ hread

/-- A dialogue over the client of the language model. -/
def dialogue (m : LanguageModel) (wire : Wire ω) (tools : Toolbox ω)
    (settings : DialogueSettings) : Dialogue ω :=
  ⟨m.service wire.transport, tools, settings⟩

section

variable {m : LanguageModel} {wire : Wire ω} {settings : DialogueSettings} {system : Text}
  {turns : List Turn}

/-- One attempt of a question sends one request, and tells what is answered. -/
theorem sends (tools : Toolbox ω) (hobstacle : m.obstacle? system turns = none) :
    Sends ((m.dialogue wire tools settings).question system turns) wire (m.request system turns)
      tell := by
  have hrun := service_run hobstacle wire
  refine ⟨fun w => ?_, fun w => ?_, fun w => ?_, fun w => ?_⟩
  · rw [question_run]
    show ((m.service wire.transport system turns).run w).result = _
    rw [hrun, tell]
    cases read (wire (m.request system turns) w).1 <;> rfl
  · rw [question_run]
    show ((m.service wire.transport system turns).run w).world = _
    rw [hrun]
    cases read (wire (m.request system turns) w).1 <;> rfl
  · have hrequests : ((m.service wire.transport system turns).run w).events.filterMap
        (Event.request? ∘ .inside) = [m.request system turns] := by
      rw [hrun]
      cases read (wire (m.request system turns) w).1 <;> rfl
    rw [Outcome.requests, question_run]
    simp only [List.cons_append, Event.filterMap_cons_eq, List.filterMap_append,
      List.filterMap_map]
    show [] ++ (((m.service wire.transport system turns).run w).events.filterMap _ ++ []) = _
    rw [hrequests]
    rfl
  · rw [Outcome.sleeps, question_run]
    simp [Event.filterMap_cons_eq, Event.sleep?, List.filterMap_map, Function.comp_def]

/-- What keeps a request from being sent does so at every attempt. -/
theorem isTransient_of_obstacle {f : Failure} (h : m.obstacle? system turns = some f) :
    f.isTransient = false := by
  unfold obstacle? at h
  split at h
  · cases h
    rfl
  · split at h
    · cases h
      rfl
    · split at h
      · cases h
        rfl
      · obtain ⟨fault, -, rfl⟩ := Option.map_eq_some_iff.1 h
        rfl

/-- A question whose request is not sent fails at once. -/
theorem ask_run_of_obstacle (tools : Toolbox ω) {f : Failure}
    (hobstacle : m.obstacle? system turns = some f) (w : ω) :
    ((m.dialogue wire tools settings).ask system turns).run w =
      ⟨.error f, w, [.asked system turns, .answered (.error f)]⟩ := by
  have hservice : (m.service wire.transport system turns).run w = ⟨.error f, w, []⟩ := by
    simp [service, hobstacle]
  have hquestion : ((m.dialogue wire tools settings).question system turns).run w =
      ⟨.error f, w, [.asked system turns, .answered (.error f)]⟩ := by
    rw [question_run]
    simp [dialogue, hservice]
  rw [← hquestion]
  refine RetryPolicy.run_of_settled fun g hg => ?_
  rw [hquestion] at hg
  cases hg
  exact isTransient_of_obstacle hobstacle

/-! ### A question -/

/-- A question all whose attempts are answered by passing answers: the same request is sent at each
of them, and the failure is that of the last. -/
theorem ask_passing (tools : Toolbox ω) (hobstacle : m.obstacle? system turns = none) (w : ω)
    (hpasses : ∀ i < settings.retry.attempts.val,
      (wire.answer (m.request system turns) w i).passes = true) :
    let o := ((m.dialogue wire tools settings).ask system turns).run w
    o.requests = List.replicate settings.retry.attempts (m.request system turns) ∧
      o.sleeps = settings.retry.waits (settings.retry.attempts - 1) ∧
      ∃ message cause, o.result = .error (.transient message cause) ∧
        read (wire.answer (m.request system turns) w (settings.retry.attempts - 1)) =
          .error (.transient message cause) := by
  have hone : 1 ≤ settings.retry.attempts.val := settings.retry.attempts.property
  have hsends : Sends ((m.dialogue wire tools settings).question system turns) wire
      (m.request system turns) tell := sends tools hobstacle
  have htell : ∀ i < settings.retry.attempts.val, ∃ message cause,
      read (wire.answer (m.request system turns) w i) = .error (.transient message cause) ∧
        tell (wire.answer (m.request system turns) w i) = .error (.transient message cause) := by
    intro i hi
    obtain ⟨message, cause, hread⟩ := read_of_passes (hpasses i hi)
    exact ⟨message, cause, hread, by rw [tell, hread]; rfl⟩
  obtain ⟨hresult, hrequests, hsleeps⟩ := hsends.run_passing settings.retry retryable w
    fun i hi => by
      obtain ⟨message, cause, -, h⟩ := htell i hi
      exact ⟨_, h, rfl⟩
  obtain ⟨message, cause, hread, h⟩ := htell (settings.retry.attempts - 1) (by omega)
  exact ⟨hrequests, hsleeps, message, cause, hresult.trans h, hread⟩

/-- A question that is answered by something else before its attempts are used up: that answer is
the last one. -/
theorem ask_answered (tools : Toolbox ω) (hobstacle : m.obstacle? system turns = none) (w : ω)
    {k : Nat} (hk : k < settings.retry.attempts)
    (hpasses : ∀ i < k, (wire.answer (m.request system turns) w i).passes = true)
    (hanswer : (wire.answer (m.request system turns) w k).passes = false) :
    let o := ((m.dialogue wire tools settings).ask system turns).run w
    o.requests = List.replicate (k + 1) (m.request system turns) ∧
      o.sleeps = settings.retry.waits k ∧
      o.result = tell (wire.answer (m.request system turns) w k) := by
  have hsends : Sends ((m.dialogue wire tools settings).question system turns) wire
      (m.request system turns) tell := sends tools hobstacle
  obtain ⟨hresult, hrequests, hsleeps⟩ := hsends.run_settled settings.retry retryable hk w
    (fun i hi => by
      obtain ⟨message, cause, hread⟩ := read_of_passes (hpasses i hi)
      exact ⟨_, by rw [tell, hread]; rfl, rfl⟩)
    (lasting_tell hanswer)
  exact ⟨hrequests, hsleeps, hresult⟩

end

/-- A client with a key. -/
def keyed : LanguageModel := ⟨.standard, "key"⟩

/-- A well-formed answer without content. -/
def speechless : WebAnswer :=
  .response 200 [] "\x7b\"choices\": [\x7b\"message\": \x7b\"content\": null\x7d\x7d]\x7d"

theorem completion?_speechless : speechless.completion? = some [] := by decide +kernel

end LanguageModel

end ReleaseNotes
