/-
The history of a dialogue.

Every question to the model, also one that is asked again, shows it the user's prompt and the rounds
so far: each reply, and the results of the calls that the reply asked for.

Main statements:
* `AskedAfter` — a question, and the events before it;
* `Round`, `transcript` — a finished iteration, and what the model is shown of some;
* `Heard.askedAfter` — a question of an iteration;
* `Rounds`, `Course.exists_rounds` — the rounds of a dialogue, from a position on;
* `Dialogue.run_history` — a whole dialogue.
-/
import ReleaseNotes.Proofs.Dialogue.Reports

namespace ReleaseNotes

open Dialogue

variable {ω : Type} {d : Dialogue ω} {system : Text}

/-- A question is among the events, and these stand before it. -/
def AskedAfter (events before : List Event) (system : Text) (turns : List Turn) : Prop :=
  ∃ after, events = before ++ .asked system turns :: after

/-- How many replies are among the events. -/
def replyCount (events : List Event) : Nat := (events.filterMap Event.reply?).length

theorem AskedAfter.mem {events before : List Event} {s : Text} {turns : List Turn}
    (h : AskedAfter events before s turns) : (s, turns) ∈ events.filterMap Event.question? := by
  obtain ⟨after, rfl⟩ := h
  simp [Event.question?]

/-- A question among two lists of events stands in one of them. -/
theorem AskedAfter.of_append {first second before : List Event} {s : Text} {turns : List Turn}
    (h : AskedAfter (first ++ second) before s turns) :
    AskedAfter first before s turns ∨
      ∃ rest, before = first ++ rest ∧ AskedAfter second rest s turns := by
  obtain ⟨after, h⟩ := h
  rcases List.append_eq_append_iff.1 h with ⟨rest, hbefore, hsecond⟩ | ⟨rest, hfirst, hafter⟩
  · exact .inr ⟨rest, hbefore, after, hsecond⟩
  · cases rest with
    | nil =>
      refine .inr ⟨[], by simpa using hfirst.symm, after, hafter.symm⟩
    | cons e rest =>
      obtain ⟨rfl, -⟩ := List.cons_eq_cons.1 hafter
      exact .inl ⟨rest, hfirst⟩

/-- A question among two lists of events stands in the second if there is none in the first. -/
theorem AskedAfter.of_append_left {first second before : List Event} {s : Text} {turns : List Turn}
    (h : AskedAfter (first ++ second) before s turns)
    (hnone : first.filterMap Event.question? = []) :
    ∃ rest, before = first ++ rest ∧ AskedAfter second rest s turns := by
  rcases h.of_append with h | h
  · have := h.mem
    rw [hnone] at this
    cases this
  · exact h

theorem AskedAfter.of_cons {e : Event} {events before : List Event} {s : Text} {turns : List Turn}
    (h : AskedAfter (e :: events) before s turns) (he : e.question? = none) :
    ∃ rest, before = e :: rest ∧ AskedAfter events rest s turns := by
  have hcons : AskedAfter ([e] ++ events) before s turns := h
  exact hcons.of_append_left (by simp [he])

/-- A question among two lists of events stands in the first if there is none in the second. -/
theorem AskedAfter.of_append_right {first second before : List Event} {s : Text}
    {turns : List Turn} (h : AskedAfter (first ++ second) before s turns)
    (hnone : second.filterMap Event.question? = []) : AskedAfter first before s turns := by
  rcases h.of_append with h | ⟨rest, -, h⟩
  · exact h
  · have := h.mem
    rw [hnone] at this
    cases this

/-! ### One iteration -/

/-- What is exchanged with the model by an event: a question or a reply. -/
def Event.exchange? : Event → Option ((Text × List Turn) ⊕ Text)
  | asked system turns => some (.inl (system, turns))
  | answered (.ok (.str t)) => some (.inr t)
  | _ => none

theorem Event.shallow_exchange? : Shallow exchange? :=
  ⟨fun _ => rfl, fun _ _ _ => rfl, fun _ => rfl⟩

theorem Event.reply?_eq_exchange? (e : Event) : e.reply? = e.exchange?.bind Sum.getRight? := by
  cases e with
  | answered reply =>
    cases reply with
    | error f => rfl
    | ok j => cases j <;> rfl
  | _ => rfl

/-- A part of an exchange before a question holds no reply, if all questions stand first. -/
theorem getRight?_eq_nil_of_append {α β : Type} {questions : List α} {replies : List β}
    {before after : List (α ⊕ β)} {q : α}
    (h : questions.map Sum.inl ++ replies.map Sum.inr = before ++ .inl q :: after) :
    before.filterMap Sum.getRight? = [] := by
  rcases List.append_eq_append_iff.1 h with ⟨rest, -, hreplies⟩ | ⟨rest, hquestions, -⟩
  · have hmem : (.inl q : α ⊕ β) ∈ replies.map .inr := by simp [hreplies]
    simp at hmem
  · rw [List.filterMap_eq_nil_iff]
    intro x hx
    have hmem : x ∈ questions.map .inl := by simp [hquestions, hx]
    obtain ⟨q', -, rfl⟩ := List.mem_map.1 hmem
    rfl

/-- No reply stands before a question that is asked until it is answered. -/
theorem Dialogue.ask_askedAfter {history : List Turn} {w w' : ω} {result : Except Failure Json}
    {events before : List Event} {s : Text} {turns : List Turn}
    (hrun : (d.ask system history).run w = ⟨result, w', events⟩)
    (h : AskedAfter events before s turns) :
    s = system ∧ turns = history ∧ replyCount before = 0 := by
  obtain ⟨-, -, -, k, -, hquestions⟩ := d.ask_trace hrun
  have hmem := h.mem
  rw [hquestions, List.mem_replicate, Prod.mk.injEq] at hmem
  refine ⟨hmem.2.1, hmem.2.2, ?_⟩
  -- seen from the outside the attempts are questions, and a reply at the very end
  obtain ⟨failures, -, -, hview⟩ := d.ask_view system history w
  have hexchange := hview _ _ Event.shallow_exchange?
  rw [hrun] at hexchange
  obtain ⟨after, rfl⟩ := h
  have hfront : failures.flatMap (fun f =>
      (Event.exchange? (.asked system history)).toList ++
        (Event.exchange? (.answered (.error f))).toList) =
      (failures.map fun _ => (system, history)).map Sum.inl := by
    rw [List.map_map, List.map_eq_flatMap]
    rfl
  have hlast : (Event.exchange? (.answered result)).toList =
      (Event.reply? (.answered result)).toList.map Sum.inr := by
    cases result with
    | error f => rfl
    | ok j => cases j <;> rfl
  have hsplit : ((failures.map fun _ => (system, history)) ++ [(system, history)]).map Sum.inl ++
      (Event.reply? (.answered result)).toList.map Sum.inr =
      before.filterMap Event.exchange? ++ .inl (s, turns) :: after.filterMap Event.exchange? := by
    rw [List.filterMap_append, hfront, hlast] at hexchange
    simpa [Event.exchange?, List.filterMap_cons] using hexchange.symm
  have hnone := getRight?_eq_nil_of_append hsplit
  rw [List.filterMap_filterMap] at hnone
  rw [replyCount, List.length_eq_zero_iff, ← hnone]
  exact List.filterMap_congr fun e _ => e.reply?_eq_exchange?

/-- A question of an iteration shows the history so far, and no reply of the iteration stands before
it. -/
theorem Heard.askedAfter {p : Position} {w w' : ω} {result : Except Failure (Text × List ToolCall)}
    {events before : List Event} {s : Text} {turns : List Turn}
    (h : Heard d system p w ⟨result, w', events⟩) (hasked : AskedAfter events before s turns) :
    s = system ∧ turns = p.history ∧ replyCount before = 0 := by
  cases h with
  | unanswered asked | untold asked _ =>
    obtain ⟨rest, rfl, hrest⟩ := hasked.of_cons rfl
    obtain ⟨hs, hturns, hcount⟩ := ask_askedAfter asked hrest
    exact ⟨hs, hturns, hcount⟩
  | unread asked _ _ | read asked _ _ =>
    obtain ⟨rest, rfl, hrest⟩ := (hasked.of_append_right rfl).of_cons rfl
    obtain ⟨hs, hturns, hcount⟩ := ask_askedAfter asked hrest
    exact ⟨hs, hturns, hcount⟩

/-! ### Rounds -/

/-- A finished iteration: the reply, and the reports on its calls. -/
structure Round where
  reply : Text
  reports : List ToolReport

/-- What the model is told of the reports of a round. -/
def Round.results (round : Round) : Text :=
  "Tool results:\n\n" ++ Text.joinWith "\n\n"
    (round.reports.map fun e => "### " ++ e.tool ++ "\n" ++ e.output)

/-- What the model is shown of a round. -/
def Round.turns (round : Round) : List Turn :=
  [⟨.assistant, round.reply⟩, ⟨.user, round.results⟩]

/-- What the model is shown after some rounds. -/
def transcript (user : Text) (rounds : List Round) : List Turn :=
  ⟨.user, user⟩ :: rounds.flatMap Round.turns

theorem transcript_cons (user : Text) (round : Round) (rounds : List Round) :
    transcript user (round :: rounds) =
      ⟨.user, user⟩ :: ⟨.assistant, round.reply⟩ :: transcript round.results rounds := rfl

theorem length_transcript (user : Text) (rounds : List Round) :
    (transcript user rounds).length = 2 * rounds.length + 1 := by
  induction rounds generalizing user with
  | nil => rfl
  | cons round rounds ih =>
    rw [transcript_cons, List.length_cons, List.length_cons, ih, List.length_cons]
    omega

/-- The two parties speak by turns, and the user first. -/
theorem role_of_transcript {user : Text} {rounds : List Round} {i : Nat} {turn : Turn}
    (h : (transcript user rounds)[i]? = some turn) :
    turn.role = if i % 2 = 0 then .user else .assistant := by
  induction rounds generalizing user i with
  | nil =>
    cases i with
    | zero =>
      cases h
      rfl
    | succ i => simp [transcript] at h
  | cons round rounds ih =>
    rw [transcript_cons] at h
    match i with
    | 0 | 1 =>
      cases h
      rfl
    | i + 2 =>
      rw [Nat.add_mod_right]
      exact ih h

theorem transcript_take_succ {user : Text} {rounds : List Round} {n : Nat}
    (h : n < rounds.length) :
    transcript user (rounds.take (n + 1)) =
      transcript user (rounds.take n) ++ rounds[n].turns := by
  rw [List.take_add_one, List.getElem?_eq_getElem h, transcript, List.flatMap_append]
  simp [transcript]

/-- The rounds of a dialogue, counted from an iteration on: the replies that it received, and on the
calls of each reply the reports that were settled. -/
structure Rounds (d : Dialogue ω) (first : Nat) (o : Outcome ω DialogueResult)
    (rounds : List Round) : Prop where
  replies : rounds.map Round.reply <+: o.replies
  origins : ∀ i round, rounds[i]? = some round →
    round.reports.map ToolReport.origin =
      (ToolCall.scan round.reply).1.map (ToolCall.origin (first + i))
  settled : ∃ blocks : List (List ToolStep), blocks.flatten <+: o.toolSteps ∧
    List.Forall₂ (Settles d) blocks (rounds.flatMap Round.reports)

theorem Rounds.nil (first : Nat) (o : Outcome ω DialogueResult) : Rounds d first o [] :=
  ⟨List.nil_prefix, by simp, [], List.nil_prefix, .nil⟩

/-- The rounds of a dialogue from a position on, and what its questions show of them. -/
theorem Course.exists_rounds {left : Nat} {p : Position} {w : ω} {o : Outcome ω DialogueResult}
    (h : Course d system left p w o) :
    ∃ rounds : List Round, Rounds d p.iteration o rounds ∧
      (∀ r, o.result = .ok r → r.reports = p.reports ++ rounds.flatMap Round.reports) ∧
      ∀ before s turns, AskedAfter o.events before s turns →
        s = system ∧ replyCount before ≤ rounds.length ∧
        turns = p.history ++ (rounds.take (replyCount before)).flatMap Round.turns := by
  induction h with
  | unheard heard =>
    refine ⟨[], .nil _ _, by simp, fun before s turns hasked => ?_⟩
    obtain ⟨hs, hturns, hcount⟩ := heard.askedAfter hasked
    exact ⟨hs, by simp [hcount], by simp [hturns]⟩
  | @concluded left p w w' text calls events heard last =>
    refine ⟨[], .nil _ _, fun r hr => by cases hr; simp [Position.result], ?_⟩
    intro before s turns hasked
    obtain ⟨-, -, hclosing, -⟩ := p.filterMap_closing calls
    obtain ⟨hs, hturns, hcount⟩ := heard.askedAfter (hasked.of_append_right hclosing)
    exact ⟨hs, by simp [hcount], by simp [hturns]⟩
  | @broken left p w w₁ w₂ text calls events₁ events₂ f heard asks worked =>
    refine ⟨[], .nil _ _, fun r hr => (by cases hr), fun before s turns hasked => ?_⟩
    have hwork : (.noticed (.entered .dispatchingTools p.iteration) :: events₂).filterMap
        Event.question? = [] := worked.filterMap_eq_nil Event.aloof_question?
    obtain ⟨hs, hturns, hcount⟩ := heard.askedAfter (hasked.of_append_right hwork)
    exact ⟨hs, by simp [hcount], by simp [hturns]⟩
  | @onward left p w w₁ w₂ text calls events₁ events₂ new o heard asks worked rest ih =>
    obtain ⟨rounds, hrounds, hreports, hasked'⟩ := ih
    obtain ⟨blocks', hsteps', hblocks'⟩ := hrounds.settled
    obtain ⟨-, -, hcalls⟩ := heard.trace_of_ok
    obtain ⟨hnew, blocks, hsteps, hblocks⟩ := worked.settles rfl
    -- this iteration is the first round, and the rounds of the rest come after it
    refine ⟨⟨text, new⟩ :: rounds, ⟨?_, ?_, blocks ++ blocks', ?_, ?_⟩, ?_, ?_⟩
    · rw [Outcome.replies, heard.replies_onward worked, List.map_cons]
      exact List.cons_prefix_cons.2 ⟨rfl, hrounds.replies⟩
    · intro i round hround
      cases i with
      | zero =>
        cases hround
        rw [ToolCall.all_eq_ok_iff.1 hcalls]
        exact hnew
      | succ i =>
        have horigin := hrounds.origins i round hround
        rw [Position.next_iteration] at horigin
        rw [horigin, Nat.add_right_comm, Nat.add_assoc]
    · have hfirst : events₂.filterMap Event.toolStep? = blocks.flatten := hsteps
      rw [Outcome.toolSteps, heard.toolSteps_onward, hfirst, List.flatten_append]
      exact (List.prefix_append_right_inj _).2 hsteps'
    · exact List.rel_append hblocks hblocks'
    · intro r hr
      rw [hreports r hr, List.flatMap_cons, ← List.append_assoc]
      rfl
    · intro before s turns hquestion
      rcases hquestion.of_append with hfirst | ⟨more, rfl, hmore⟩
      · obtain ⟨hs, hturns, hcount⟩ := heard.askedAfter hfirst
        exact ⟨hs, by simp [hcount], by simp [hturns, hcount]⟩
      · -- a later question shows the round of this iteration before the others
        have hwork : (.noticed (.entered .dispatchingTools p.iteration) :: events₂).filterMap
            Event.question? = [] := worked.filterMap_eq_nil Event.aloof_question?
        rw [← List.cons_append] at hmore
        obtain ⟨later, rfl, hlater⟩ := hmore.of_append_left hwork
        obtain ⟨hs, hle, hturns⟩ := hasked' later s turns hlater
        have hcount := congrArg List.length (heard.replies_onward worked later)
        rw [List.length_cons] at hcount
        change replyCount _ = replyCount later + 1 at hcount
        rw [List.cons_append, hcount]
        refine ⟨hs, by simpa using hle, ?_⟩
        rw [hturns, List.take_succ_cons, List.flatMap_cons, ← List.append_assoc]
        rfl

/-- A whole dialogue.  Its rounds are what it received and reported so far.  Every attempt of its
question number `k` shows the transcript of the first `k - 1` of them under the same system prompt:
`2 * k - 1` turns, by turns of the user and of the model, the same for every attempt of the
question, and two turns more for the next question. -/
theorem Dialogue.run_history (d : Dialogue ω) (system user : Text) (w : ω) :
    let o := (d.run system user).run w
    ∃ rounds : List Round, Rounds d 1 o rounds ∧
      (∀ r, o.result = .ok r → r.reports = rounds.flatMap Round.reports) ∧
      ∀ before s turns, AskedAfter o.events before s turns →
        let k := replyCount before + 1
        s = system ∧ k ≤ rounds.length + 1 ∧ turns = transcript user (rounds.take (k - 1)) ∧
        turns.length = 2 * k - 1 ∧
        (∀ i turn, turns[i]? = some turn →
          turn.role = if i % 2 = 0 then .user else .assistant) ∧
        ∀ before' s' turns', AskedAfter o.events before' s' turns' →
          (replyCount before' + 1 = k → turns' = turns) ∧
          (replyCount before' + 1 = k + 1 →
            ∃ round, rounds[k - 1]? = some round ∧ turns' = turns ++ round.turns) := by
  intro o
  obtain ⟨rounds, hrounds, hreports, hasked⟩ := (d.course_run system user w).exists_rounds
  refine ⟨rounds, hrounds, hreports, ?_⟩
  intro before s turns hquestion k
  obtain ⟨hs, hle, hturns⟩ := hasked before s turns hquestion
  have hturns : turns = transcript user (rounds.take (replyCount before)) := hturns
  refine ⟨hs, Nat.succ_le_succ hle, hturns, ?_, ?_, ?_⟩
  · rw [hturns, length_transcript, List.length_take, Nat.min_eq_left hle]
    omega
  · intro i turn hturn
    rw [hturns] at hturn
    exact role_of_transcript hturn
  · intro before' s' turns' hquestion'
    obtain ⟨-, hle', hturns'⟩ := hasked before' s' turns' hquestion'
    have hturns' : turns' = transcript user (rounds.take (replyCount before')) := hturns'
    refine ⟨fun hsame => ?_, fun hnext => ?_⟩
    · rw [hturns, hturns', Nat.succ.inj hsame]
    · have hnext : replyCount before' = replyCount before + 1 := Nat.succ.inj hnext
      have hlt : replyCount before < rounds.length := by omega
      refine ⟨rounds[replyCount before], List.getElem?_eq_getElem hlt, ?_⟩
      rw [hturns, hturns', hnext, transcript_take_succ hlt]

end ReleaseNotes
