/-
How a dialogue ends.

The last event of a dialogue without a result tells what ended it: the model, a tool, a value that
cannot be written, or a reply whose blocks overrun a limit of the reader.  Nothing else in a reply
ends a dialogue.

Main statements:
* `EndedBy` — an event that ends a dialogue with a failure;
* `OverrunBy` — a reply whose blocks overrun a limit of the reader;
* `Course.endedBy_of_error` — a dialogue without a result, from a position on;
* `Course.ends_of_overrun` — a reply that ends a dialogue;
* `Dialogue.run_reading` — what is found in a reply, and when a reply ends a dialogue.
-/
import ReleaseNotes.Proofs.Dialogue.Reports

namespace ReleaseNotes

open Dialogue

variable {ω : Type} {d : Dialogue ω} {system : Text}

/-- A reply is a text, and the first of its blocks that overrun a limit of the reader overruns this
one. -/
def OverrunBy (reply : Text) (e : Json.DecodeError) : Prop :=
  reply.hasByte = false ∧ (Fence.bodies reply).findSome? Fence.overrun? = some e

/-- An event that ends a dialogue with a failure, when these replies were received. -/
inductive EndedBy (replies : List Text) : Event → Failure → Prop
  /-- The model does not answer. -/
  | unanswered {f : Failure} : EndedBy replies (.answered (.error f)) f
  /-- The model answers with a value that is no text. -/
  | untold {reply : Json} {f : Failure} (turn : replyTurn reply = .error f) :
      EndedBy replies (.answered (.ok reply)) f
  /-- A tool fails in a way that the model is not told of. -/
  | broken {call : ToolCall} {f : Failure} (untold : isTold f = false) :
      EndedBy replies (.called call (.error f)) f
  /-- A tool returns a value that cannot be written. -/
  | unwritten {call : ToolCall} {v : ToolValue} {f : Failure} (unwritten : v.encode = .error f) :
      EndedBy replies (.called call (.ok v)) f
  /-- A block of the last reply overruns a limit of the reader. -/
  | unread {iteration : Nat} {reply : Text} {e : Json.DecodeError}
      (last : replies.getLast? = some reply) (overrun : OverrunBy reply e) :
      EndedBy replies (.noticed (.entered .parsing iteration)) (.json e)

/-- An earlier reply is not the cause of a failure. -/
theorem EndedBy.cons {replies : List Text} {e : Event} {f : Failure} (h : EndedBy replies e f)
    (reply : Text) : EndedBy (reply :: replies) e f := by
  cases h with
  | unanswered => exact .unanswered
  | untold turn => exact .untold turn
  | broken untold => exact .broken untold
  | unwritten unwritten => exact .unwritten unwritten
  | unread last overrun =>
    refine .unread ?_ overrun
    rw [List.getLast?_cons, last]
    rfl

theorem Dialogue.replyTurn_text_iff {t : Text} :
    replyTurn (.str t) = .ok ⟨.assistant, t⟩ ↔ t.hasByte = false := by
  unfold replyTurn
  rw [Validated.orFail_eq_ok_iff]
  cases h : t.hasByte <;> simp [Check.text, h, Check.refuse, Validated.under, Validated.map]

/-- A call under the retry policy ends as its last attempt does. -/
theorem Dialogue.getLast?_attempt {α : Type} {operation : Act ω α} (tell : Except Failure α → Event)
    (htell : ∀ w, (operation.run w).events.getLast? = some (tell (operation.run w).result))
    {w w' : ω} {result : Except Failure α} {events : List Event}
    (h : (d.attempt operation).run w = ⟨result, w', events⟩) :
    events.getLast? = some (tell result) := by
  have htried : Tried d.settings.retry retryable operation (d.attempts - 1) 1 w
      ((d.attempt operation).run w) := tried_run w
  rw [h] at htried
  exact htried.getLast?_events tell htell

theorem Dialogue.getLast?_ask {history : List Turn} {w w' : ω} {result : Except Failure Json}
    {events : List Event} (h : (d.ask system history).run w = ⟨result, w', events⟩) :
    events.getLast? = some (.answered result) := by
  refine getLast?_attempt .answered (fun w => ?_) h
  rw [question_run]
  exact List.getLast?_concat

theorem Dialogue.getLast?_attempt_trial {call : ToolCall} {w w' : ω}
    {result : Except Failure ToolValue} {events : List Event}
    (h : (d.attempt (d.trial call)).run w = ⟨result, w', events⟩) :
    events.getLast? = some (.called call result) := by
  refine getLast?_attempt (.called call) (fun w => ?_) h
  rw [trial_run]
  exact List.getLast?_concat

/-- The last event of a dialogue that goes on after an iteration is one of the later ones. -/
theorem getLast?_onward {e : Event} {later : List Event} (h : later.getLast? = some e)
    (events work : List Event) (enter : Event) :
    (events ++ enter :: (work ++ later)).getLast? = some e := by
  rw [List.getLast?_append, List.getLast?_cons, List.getLast?_append, h]
  rfl

/-- A reply that is not heard ends the dialogue. -/
theorem Heard.endedBy {p : Position} {w w' : ω} {f : Failure} {events : List Event}
    (h : Heard d system p w ⟨.error f, w', events⟩) :
    ∃ e, events.getLast? = some e ∧ EndedBy (events.filterMap Event.reply?) e f := by
  cases h with
  | unanswered asked =>
    refine ⟨_, ?_, .unanswered⟩
    rw [List.getLast?_cons, getLast?_ask asked]
    rfl
  | untold asked turn =>
    refine ⟨_, ?_, .untold turn⟩
    rw [List.getLast?_cons, getLast?_ask asked]
    rfl
  | @unread text f w' events asked turn calls =>
    obtain ⟨-, -, hreplies, -⟩ := d.ask_trace asked
    obtain ⟨e, hoverrun, rfl⟩ := ToolCall.all_eq_error_iff.1 calls
    refine ⟨_, List.getLast?_concat, .unread ?_ ⟨replyTurn_text_iff.1 turn, hoverrun⟩⟩
    simp only [List.cons_append, Event.filterMap_cons_eq, List.filterMap_append, hreplies]
    rfl

/-- A call that is not reported on ends the dialogue. -/
theorem Dispatched.endedBy {iteration : { n : Nat // 1 ≤ n }} {call : ToolCall} {w w' : ω}
    {f : Failure} {events : List Event} (h : Dispatched d iteration call w ⟨.error f, w', events⟩)
    (replies : List Text) : ∃ e, events.getLast? = some e ∧ EndedBy replies e f := by
  cases h with
  | unwritten tried unwritten =>
    refine ⟨.called call _, ?_, .unwritten unwritten⟩
    rw [List.getLast?_cons, getLast?_attempt_trial tried]
    rfl
  | broken tried untold =>
    refine ⟨.called call _, ?_, .broken untold⟩
    rw [List.getLast?_cons, getLast?_attempt_trial tried]
    rfl

theorem Worked.endedBy {iteration : { n : Nat // 1 ≤ n }} {calls : List ToolCall} {w : ω}
    {o : Outcome ω (List ToolReport)} (h : Worked d iteration calls w o) {f : Failure}
    (hf : o.result = .error f) (replies : List Text) :
    ∃ e, o.events.getLast? = some e ∧ EndedBy replies e f := by
  induction h with
  | none => cases hf
  | broken first =>
    cases hf
    exact first.endedBy replies
  | @reported call rest w w' r events o first others ih =>
    have hrest : o.result = .error f := by
      cases hresult : o.result with
      | ok rs =>
        rw [hresult] at hf
        cases hf
      | error g =>
        rw [hresult] at hf
        cases hf
        rfl
    obtain ⟨e, hlast, hended⟩ := ih hrest
    refine ⟨e, ?_, hended⟩
    rw [List.getLast?_append, hlast, Option.some_or]

/-- A dialogue without a result, from a position on: its last event tells what ended it. -/
theorem Course.endedBy_of_error {left : Nat} {p : Position} {w : ω} {o : Outcome ω DialogueResult}
    (h : Course d system left p w o) {f : Failure} (hf : o.result = .error f) :
    ∃ e, o.events.getLast? = some e ∧ EndedBy o.replies e f := by
  induction h with
  | unheard heard =>
    cases hf
    exact heard.endedBy
  | concluded _ _ => cases hf
  | @broken left p w w₁ w₂ text calls events₁ events₂ f heard asks worked =>
    cases hf
    obtain ⟨e, hlast, hended⟩ := worked.endedBy rfl (Outcome.mk (.error f) w₂
      (events₁ ++ .noticed (.entered .dispatchingTools p.iteration) :: events₂) :
        Outcome ω DialogueResult).replies
    refine ⟨e, ?_, hended⟩
    rw [List.getLast?_append, List.getLast?_cons, hlast]
    rfl
  | @onward left p w w₁ w₂ text calls events₁ events₂ new o heard asks worked rest ih =>
    obtain ⟨e, hlast, hended⟩ := ih hf
    refine ⟨e, getLast?_onward hlast _ _ _, ?_⟩
    rw [Outcome.replies, heard.replies_onward worked]
    exact hended.cons text

theorem Event.mem_reply?_iff {result : Except Failure Json} {reply : Text} :
    reply ∈ (Event.reply? (.answered result)).toList ↔ result = .ok (.str reply) := by
  rw [Option.mem_toList]
  cases result with
  | error f => simp [Event.reply?]
  | ok j => cases j <;> simp [Event.reply?]

/-- A reply is what the question came to. -/
theorem Heard.reply_mem {p : Position} {w : ω} {o : Outcome ω (Text × List ToolCall)}
    (h : Heard d system p w o) {reply : Text} (hreply : reply ∈ o.replies) :
    ((d.ask system p.history).run w).result = .ok (.str reply) := by
  cases h with
  | unanswered asked | untold asked _ | unread asked _ _ | read asked _ _ =>
    obtain ⟨-, -, hreplies, -⟩ := d.ask_trace asked
    rw [asked, ← Event.mem_reply?_iff, ← hreplies]
    simpa [Outcome.replies, Event.reply?] using hreply

/-- A reply that overruns a limit of the reader ends the dialogue while it is read. -/
theorem Heard.ends_of_overrun {p : Position} {w : ω} {o : Outcome ω (Text × List ToolCall)}
    (h : Heard d system p w o) {reply : Text} {e : Json.DecodeError}
    (hresult : ((d.ask system p.history).run w).result = .ok (.str reply))
    (hoverrun : OverrunBy reply e) :
    o.result = .error (.json e) ∧
      o.events.getLast? = some (.noticed (.entered .parsing p.iteration)) := by
  have hall : ToolCall.all reply = .error (.json e) :=
    ToolCall.all_eq_error_iff.2 ⟨e, hoverrun.2, rfl⟩
  cases h with
  | unanswered asked =>
    rw [asked] at hresult
    cases hresult
  | untold asked turn =>
    rw [asked] at hresult
    cases hresult
    rw [replyTurn_text_iff.2 hoverrun.1] at turn
    cases turn
  | unread asked turn calls =>
    rw [asked] at hresult
    cases hresult
    rw [hall] at calls
    cases calls
    exact ⟨rfl, List.getLast?_concat⟩
  | read asked turn calls_eq =>
    rw [asked] at hresult
    cases hresult
    rw [hall] at calls_eq
    cases calls_eq

/-- A reply that overruns a limit of the reader ends the dialogue, from whatever position on. -/
theorem Course.ends_of_overrun {left : Nat} {p : Position} {w : ω} {o : Outcome ω DialogueResult}
    (h : Course d system left p w o) {reply : Text} {e : Json.DecodeError}
    (hreply : reply ∈ o.replies) (hoverrun : OverrunBy reply e) :
    o.result = .error (.json e) ∧
      ∃ i, o.events.getLast? = some (.noticed (.entered .parsing i)) := by
  induction h with
  | unheard heard =>
    obtain ⟨hresult, hlast⟩ := heard.ends_of_overrun (heard.reply_mem hreply) hoverrun
    cases hresult
    exact ⟨rfl, _, hlast⟩
  | @concluded left p w w' text calls events heard last =>
    obtain ⟨-, hnoreply, -⟩ := p.filterMap_closing calls
    rw [Outcome.replies, List.filterMap_append, hnoreply, List.append_nil] at hreply
    obtain ⟨hresult, -⟩ := heard.ends_of_overrun (heard.reply_mem hreply) hoverrun
    cases hresult
  | @broken left p w w₁ w₂ text calls events₁ events₂ f heard asks worked =>
    have hnoreply : (.noticed (.entered .dispatchingTools p.iteration) :: events₂).filterMap
        Event.reply? = [] := worked.filterMap_eq_nil Event.aloof_reply?
    rw [Outcome.replies, List.filterMap_append, hnoreply, List.append_nil] at hreply
    obtain ⟨hresult, -⟩ := heard.ends_of_overrun (heard.reply_mem hreply) hoverrun
    cases hresult
  | @onward left p w w₁ w₂ text calls events₁ events₂ new o heard asks worked rest ih =>
    rw [Outcome.replies, heard.replies_onward worked, List.mem_cons] at hreply
    rcases hreply with rfl | hreply
    · obtain ⟨-, -, hall⟩ := heard.trace_of_ok
      rw [ToolCall.all_eq_error_iff.2 ⟨e, hoverrun.2, rfl⟩] at hall
      cases hall
    · obtain ⟨hresult, i, hlast⟩ := ih hreply
      exact ⟨hresult, i, getLast?_onward hlast _ _ _⟩

/-- So does the first reply, from whatever position on. -/
theorem Course.ends_of_first {left : Nat} {p : Position} {w : ω} {o : Outcome ω DialogueResult}
    (h : Course d system left p w o) {reply : Text} {e : Json.DecodeError}
    (hresult : ((d.ask system p.history).run w).result = .ok (.str reply))
    (hoverrun : OverrunBy reply e) : o.result = .error (.json e) := by
  cases h with
  | unheard heard =>
    obtain ⟨hresult, -⟩ := heard.ends_of_overrun hresult hoverrun
    cases hresult
    rfl
  | concluded heard _ | broken heard _ _ | onward heard _ _ _ =>
    obtain ⟨hresult, -⟩ := heard.ends_of_overrun hresult hoverrun
    cases hresult

/-- A dialogue with a result tells at last that it is finished. -/
theorem Course.getLast?_of_ok {left : Nat} {p : Position} {w : ω} {o : Outcome ω DialogueResult}
    (h : Course d system left p w o) {r : DialogueResult} (hr : o.result = .ok r) :
    o.events.getLast? =
      some (.noticed (.finished r.iterations r.reports.length r.truncated)) := by
  induction h with
  | unheard _ | broken _ _ _ => cases hr
  | @concluded left p w w' text calls events heard last =>
    cases hr
    show (events ++ p.closing calls).getLast? = _
    rw [Position.closing, ← List.append_assoc, List.getLast?_concat]
    rfl
  | onward _ _ _ _ ih => exact getLast?_onward (ih hr) _ _ _

/-- What is found in a text, and what becomes of a dialogue that receives one.  The calls of a text
are those of its blocks before the first one that overruns a limit of the reader; all of them are
found exactly if there is none, and a block with few digits in a row and few brackets is none.  A
dialogue stops while it reads exactly if such a reply was received, and what ends a dialogue without
a result is that, or the doing of the model or a tool. -/
theorem Dialogue.run_reading (t : Text) (d : Dialogue ω) (system user : Text) (w : ω) :
    let blocks := Fence.bodies t
    let o := (d.run system user).run w
    ToolCall.scan t =
        ((blocks.takeWhile fun body => (Fence.overrun? body).isNone).filterMap ToolCall.ofBlock?,
          (blocks.findSome? Fence.overrun?).map .json) ∧
      (ToolCall.scan t = (blocks.filterMap ToolCall.ofBlock?, none) ↔
        ∀ body ∈ blocks, Fence.overrun? body = none) ∧
      (∀ body, (∀ n, Json.HasDigits body n → n ≤ Numeral.maxDigits) →
        Json.openings body ≤ Json.maxDepth → Fence.overrun? body = none) ∧
      (∀ reply ∈ o.replies, ∀ e, OverrunBy reply e → o.result = .error (.json e)) ∧
      ((∃ i, o.events.getLast? = some (.noticed (.entered .parsing i))) ↔
        ∃ reply ∈ o.replies, ∃ e, OverrunBy reply e) ∧
      ∀ f, o.result = .error f → ∃ e, o.events.getLast? = some e ∧ EndedBy o.replies e f := by
  intro blocks o
  have hcourse : Course d system (d.settings.maxIterations.val - 1) (.start user) w o :=
    d.course_run system user w
  refine ⟨ToolCall.ofBodies_eq blocks, ToolCall.ofBodies_eq_iff blocks,
    fun body => Fence.overrun?_eq_none, ?_, ?_, ?_⟩
  · intro reply hreply e hoverrun
    exact (hcourse.ends_of_overrun hreply hoverrun).1
  · constructor
    · rintro ⟨i, hlast⟩
      cases hresult : o.result with
      | ok r =>
        rw [hcourse.getLast?_of_ok hresult] at hlast
        cases hlast
      | error f =>
        obtain ⟨e, hlast', hended⟩ := hcourse.endedBy_of_error hresult
        rw [hlast] at hlast'
        cases hlast'
        -- of all that ends a dialogue, only an overrun is met while a reply is read
        cases hended with
        | @unread _ reply e last overrun => exact ⟨reply, List.mem_of_getLast? last, e, overrun⟩
    · rintro ⟨reply, hreply, e, hoverrun⟩
      exact (hcourse.ends_of_overrun hreply hoverrun).2
  · exact fun f hf => hcourse.endedBy_of_error hf

/-- A text whose first block is a numeral of one digit too many, and whose second one is a call. -/
def longNumeral : Text :=
  Fence.block (Json.ones 4301) ++ Fence.block "\x7b\"tool\": \"b\"\x7d\n"

/-- The call of the second block is lost, and a dialogue that receives the text ends. -/
theorem Dialogue.run_reading_longNumeral :
    ((Fence.bodies longNumeral).filterMap ToolCall.ofBlock?).map ToolCall.tool = ["b"] ∧
      ToolCall.scan longNumeral = ([], some (.json (.tooManyDigits 4301))) ∧
      ((counting.run "Count." "How many?").run
        { replies := [.ok (.str longNumeral)] }).result = .error (.json (.tooManyDigits 4301)) := by
  have hdecode : Json.decode (Json.ones 4301) = .error (.tooManyDigits 4301) :=
    Json.decode_ones (by decide)
  have hoverrun : Fence.overrun? (Json.ones 4301) = some (.tooManyDigits 4301) := by
    rw [Fence.overrun?, hdecode]
  have hnoMark : ∀ u ∈ Json.ones 4301, u.passes (sameLetter '\x60') = false := by
    intro u hu
    rw [Json.ones, List.mem_append, List.mem_replicate, List.mem_singleton] at hu
    rcases hu with ⟨-, rfl⟩ | rfl <;> decide
  have hbodies : Fence.bodies longNumeral =
      [Json.ones 4301, Text.ofString "\x7b\"tool\": \"b\"\x7d\n"] := by
    have hsecond : Fence.bodies (Fence.block "\x7b\"tool\": \"b\"\x7d\n") =
        [Text.ofString "\x7b\"tool\": \"b\"\x7d\n"] := by decide +kernel
    rw [longNumeral, Fence.bodies_block hnoMark, hsecond]
  have hfirst : (Fence.bodies longNumeral).findSome? Fence.overrun? =
      some (.tooManyDigits 4301) := by
    rw [hbodies, List.findSome?_cons, hoverrun]
  refine ⟨?_, ?_, ?_⟩
  · have hnone : ToolCall.ofBlock? (Json.ones 4301) = none := by rw [ToolCall.ofBlock?, hdecode]
    rw [hbodies, List.filterMap_cons_none hnone]
    decide +kernel
  · rw [ToolCall.scan, ToolCall.ofBodies_eq, hfirst, hbodies,
      List.takeWhile_cons_of_neg (by simp [hoverrun])]
    rfl
  · have hasked : ((counting.ask "Count." [⟨.user, "How many?"⟩]).run
        { replies := [.ok (.str longNumeral)] }).result = .ok (.str longNumeral) := rfl
    have hones : (Json.ones 4301).any TextUnit.isByte = false := by
      rw [Json.ones, List.any_append, List.any_replicate]
      rfl
    have htext : longNumeral.hasByte = false := by
      simp only [Text.hasByte, longNumeral, Fence.block, List.any_append, List.any_cons, hones]
      decide +kernel
    exact (course_run counting "Count." "How many?" _).ends_of_first hasked ⟨htext, hfirst⟩

end ReleaseNotes
