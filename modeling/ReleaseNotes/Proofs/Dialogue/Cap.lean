/-
The cap on the iterations of a dialogue.

A dialogue whose model and tools come to the same whenever they are asked the same goes the same way
under any cap, as far as the cap lets it go.  A higher cap changes nothing for a dialogue that ended
by itself, and continues a dialogue that was cut off.

Main statements:
* `Dialogue.Deterministic` — the model and the tools do not depend on the world;
* `Dialogue.Agree` — two dialogues whose calls come to the same in all worlds;
* `Heard.agree`, `Worked.agree` — so do the parts of an iteration;
* `Course.capped` — the iterations from a position on;
* `Dialogue.run_capped` — a whole dialogue.
-/
import ReleaseNotes.Proofs.Dialogue.Reports
import ReleaseNotes.Proofs.Tool.Execution

namespace ReleaseNotes

open Dialogue

variable {ω ω' : Type} {d : Dialogue ω} {d' : Dialogue ω'} {system : Text}

namespace Dialogue

/-- What the model and the tools come to depends on what they are asked, and on nothing else. -/
structure Deterministic (d : Dialogue ω) : Prop where
  service : ∀ system turns w w',
    ((d.service system turns).run w).result = ((d.service system turns).run w').result
  tools : ∀ call w w', ((d.tools call).run w).result = ((d.tools call).run w').result

/-- The same dialogue under another cap. -/
def capped (d : Dialogue ω) (m : { n : Nat // 1 ≤ n }) : Dialogue ω :=
  { d with settings := { d.settings with maxIterations := m } }

/-- The calls of two dialogues come to the same, whatever their worlds are. -/
structure Agree (d : Dialogue ω) (d' : Dialogue ω') : Prop where
  ask : ∀ system history w w',
    ((d.ask system history).run w).result = ((d'.ask system history).run w').result
  trial : ∀ call w w',
    ((d.attempt (d.trial call)).run w).result = ((d'.attempt (d'.trial call)).run w').result

end Dialogue

theorem Dialogue.deterministic_of_registry {service : Service ω} {tools : Registry ω}
    (hservice : ∀ system turns w w',
      ((service system turns).run w).result = ((service system turns).run w').result)
    (htools : ∀ t ∈ tools.tools, ∀ fields w w',
      ((t.run fields).run w).result = ((t.run fields).run w').result)
    (settings : DialogueSettings) : Deterministic ⟨service, tools, settings⟩ :=
  ⟨hservice, fun _ => Registry.execute_result_eq htools _ _⟩

/-- An operation that comes to the same in all worlds comes to it under any policy. -/
theorem Tried.result_eq {α : Type} {p : RetryPolicy} {retryable : Failure → Bool}
    {operation : Act ω α} {left n : Nat} {w : ω} {o : Outcome ω α}
    (h : Tried p retryable operation left n w o) {result : Except Failure α}
    (hresult : ∀ w, (operation.run w).result = result) : o.result = result := by
  induction h with
  | settled _ => exact hresult _
  | again _ _ _ ih => exact ih

theorem Dialogue.Deterministic.agree_capped (h : d.Deterministic) (m m' : { n : Nat // 1 ≤ n }) :
    Agree (d.capped m) (d.capped m') := by
  constructor
  · intro system history w w'
    have hquestion : ∀ v, ((d.question system history).run v).result =
        ((d.service system history).run w).result := by
      intro v
      rw [question_run]
      exact h.service system history v w
    have hleft : ((d.ask system history).run w).result = _ := (tried_run w).result_eq hquestion
    have hright : ((d.ask system history).run w').result = _ := (tried_run w').result_eq hquestion
    exact hleft.trans hright.symm
  · intro call w w'
    have htrial : ∀ v, ((d.trial call).run v).result = ((d.tools call).run w).result := by
      intro v
      rw [trial_run]
      exact h.tools call v w
    have hleft : ((d.attempt (d.trial call)).run w).result = _ := (tried_run w).result_eq htrial
    have hright : ((d.attempt (d.trial call)).run w').result = _ :=
      (tried_run w').result_eq htrial
    exact hleft.trans hright.symm

/-! ### One iteration -/

/-- What is understood of a reply of the model: its text, and the calls that it asks for. -/
def Dialogue.understood (reply : Json) : Except Failure (Text × List ToolCall) := do
  let turn ← replyTurn reply
  let calls ← ToolCall.all turn.content
  return (turn.content, calls)

/-- What is reported of what a call comes to, if that does not end the dialogue. -/
def Dialogue.reportOf (iteration : { n : Nat // 1 ≤ n }) (call : ToolCall) :
    Except Failure ToolValue → Except Failure ToolReport
  | .ok v => v.encode.map (report iteration call true)
  | .error f =>
    if isTold f then .ok (report iteration call false (failureText call.tool f)) else .error f

theorem Heard.result_eq {p : Position} {w : ω} {o : Outcome ω (Text × List ToolCall)}
    (h : Heard d system p w o) :
    o.result = ((d.ask system p.history).run w).result >>= understood := by
  cases h with
  | unanswered asked =>
    rw [asked]
    rfl
  | untold asked turn =>
    rw [asked]
    simp only [understood, bind, Except.bind, turn]
  | unread asked turn calls =>
    rw [asked]
    simp only [understood, bind, Except.bind, turn, calls]
  | read asked turn calls_eq =>
    rw [asked]
    simp only [understood, bind, Except.bind, turn, calls_eq]
    rfl

theorem Dispatched.result_eq {iteration : { n : Nat // 1 ≤ n }} {call : ToolCall} {w : ω}
    {o : Outcome ω ToolReport} (h : Dispatched d iteration call w o) :
    o.result = reportOf iteration call ((d.attempt (d.trial call)).run w).result := by
  cases h with
  | returned tried written =>
    rw [tried]
    simp only [reportOf, written, Except.map]
  | unwritten tried unwritten =>
    rw [tried]
    simp only [reportOf, unwritten, Except.map]
  | told tried told =>
    rw [tried]
    simp only [reportOf, told, ↓reduceIte]
  | broken tried untold =>
    rw [tried]
    simp [reportOf, untold]

section

variable (ha : Agree d d')

include ha

theorem Heard.agree {p : Position} {w : ω} {w' : ω'} {o : Outcome ω (Text × List ToolCall)}
    {o' : Outcome ω' (Text × List ToolCall)} (h : Heard d system p w o)
    (h' : Heard d' system p w' o') : o.result = o'.result := by
  rw [h.result_eq, h'.result_eq, ha.ask system p.history w w']

theorem Dispatched.agree {iteration : { n : Nat // 1 ≤ n }} {call : ToolCall} {w : ω} {w' : ω'}
    {o : Outcome ω ToolReport} {o' : Outcome ω' ToolReport} (h : Dispatched d iteration call w o)
    (h' : Dispatched d' iteration call w' o') : o.result = o'.result := by
  rw [h.result_eq, h'.result_eq, ha.trial call w w']

theorem Worked.agree {iteration : { n : Nat // 1 ≤ n }} {calls : List ToolCall} {w : ω} {w' : ω'}
    {o : Outcome ω (List ToolReport)} {o' : Outcome ω' (List ToolReport)}
    (h : Worked d iteration calls w o) (h' : Worked d' iteration calls w' o') :
    o.result = o'.result := by
  induction h generalizing w' o' with
  | none =>
    cases h'
    rfl
  | broken first =>
    cases h' with
    | broken first' =>
      have hfirst := first.agree ha first'
      cases hfirst
      rfl
    | reported first' _ =>
      have hfirst := first.agree ha first'
      cases hfirst
  | reported first _ ih =>
    cases h' with
    | broken first' =>
      have hfirst := first.agree ha first'
      cases hfirst
    | reported first' others' =>
      have hfirst := first.agree ha first'
      cases hfirst
      rw [ih others']

/-- The iterations from a position on, under two caps of which the second is not lower.  If the
first does not cut the dialogue off, the second changes nothing; if it does, and the second is
higher, the dialogue goes on where it was cut off. -/
theorem Course.capped {left left' : Nat} {p : Position} {w : ω} {w' : ω'}
    {o : Outcome ω DialogueResult} {o' : Outcome ω' DialogueResult}
    (h : Course d system left p w o) (h' : Course d' system left' p w' o') (hle : left ≤ left')
    {r : DialogueResult} (hr : o.result = .ok r) :
    (r.truncated = false → o'.result = .ok r) ∧
      (r.truncated = true → left < left' → ∀ r', o'.result = .ok r' →
        p.iteration + left < r'.iterations.val ∧
          (∃ before, r.stages = before ++ [.done] ∧ before <+: r'.stages) ∧
          r.reports <+: r'.reports ∧ o'.replies[left]? = some r.text) := by
  induction h generalizing left' w' o' with
  | unheard _ | broken _ _ _ => cases hr
  | @concluded left p w w₁ text calls events heard last =>
    cases hr
    cases h' with
    | unheard heard' => cases heard.agree ha heard'
    | concluded heard' last' =>
      cases heard.agree ha heard'
      refine ⟨fun _ => rfl, fun htruncated hlt => ?_⟩
      -- a dialogue is cut off only under the lower cap
      rcases last with rfl | rfl
      · cases htruncated
      · rcases last' with rfl | rfl
        · cases htruncated
        · omega
    | broken heard' asks' worked' =>
      cases heard.agree ha heard'
      refine ⟨fun hwhole => ?_, fun _ _ r' hr' => ?_⟩
      · exact absurd (by simpa [Position.result] using hwhole) asks'
      · cases hr'
    | @onward left' _ _ _ _ _ _ events' _ new o heard' asks' worked' rest' =>
      cases heard.agree ha heard'
      refine ⟨fun hwhole => ?_, fun _ _ r' hr' => ?_⟩
      · exact absurd (by simpa [Position.result] using hwhole) asks'
      · -- the cut is here: the second dialogue works the calls off and goes on
        obtain rfl : left = 0 := last.resolve_left asks'
        obtain ⟨-, hstages⟩ := rest'.stages_of_ok hr'
        obtain ⟨later, hreports, -⟩ := rest'.reports_of_ok hr'
        have hiteration := rest'.iteration_le hr'
        rw [Position.next_iteration] at hiteration
        refine ⟨by omega, ⟨p.stages ++ [.awaitingResponse, .parsing], ?_, ?_⟩, ?_, ?_⟩
        · simp [Position.result, lastRound]
        · rw [hstages]
          simp [Position.next, wholeRound]
        · rw [hreports]
          simp [Position.result, Position.next]
        · rw [Outcome.replies, heard'.replies_onward worked']
          rfl
  | @onward left p w w₁ w₂ text calls events₁ events₂ new o heard asks worked rest ih =>
    cases h' with
    | unheard heard' => cases heard.agree ha heard'
    | concluded heard' last' =>
      cases heard.agree ha heard'
      rcases last' with hnil | rfl
      · exact absurd hnil asks
      · omega
    | broken heard' _ worked' =>
      cases heard.agree ha heard'
      cases worked.agree ha worked'
    | onward heard' _ worked' rest' =>
      cases heard.agree ha heard'
      cases worked.agree ha worked'
      obtain ⟨hwhole, hcut⟩ := ih rest' (by omega) hr
      refine ⟨hwhole, fun htruncated hlt r' hr' => ?_⟩
      obtain ⟨hiterations, hstages, hreports, hreply⟩ := hcut htruncated (by omega) r' hr'
      rw [Position.next_iteration] at hiterations
      refine ⟨by omega, hstages, hreports, ?_⟩
      rw [Outcome.replies, heard'.replies_onward worked', List.getElem?_cons_succ]
      exact hreply

end

/-- A whole dialogue under two caps, of which the second is not lower, in any two worlds.  If the
first does not cut the dialogue off, the second changes nothing.  If it does, the second is higher,
and the dialogue comes to a result under it, then there are more iterations, the stages and the
reports go on from those before, and the text at the cut is the reply at the cap. -/
theorem Dialogue.run_capped (d : Dialogue ω) (hd : d.Deterministic) (system user : Text)
    {m m' : { n : Nat // 1 ≤ n }} (hle : m.val ≤ m'.val) (w w' : ω) {r : DialogueResult}
    (hr : (((d.capped m).run system user).run w).result = .ok r) :
    let o' := ((d.capped m').run system user).run w'
    (r.truncated = false → o'.result = .ok r) ∧
      (r.truncated = true → m.val < m'.val → ∀ r', o'.result = .ok r' →
        m.val < r'.iterations.val ∧
          (∃ before, r.stages = before ++ [.done] ∧ before <+: r'.stages) ∧
          r.reports <+: r'.reports ∧ o'.replies[m.val - 1]? = some r.text) := by
  intro o'
  have hcourse : Course (d.capped m) system (m.val - 1) (.start user) w _ :=
    (d.capped m).course_run system user w
  have hcourse' : Course (d.capped m') system (m'.val - 1) (.start user) w' o' :=
    (d.capped m').course_run system user w'
  have hm := m.property
  obtain ⟨hwhole, hcut⟩ := hcourse.capped (hd.agree_capped m m') hcourse' (by omega) hr
  refine ⟨hwhole, fun htruncated hlt r' hr' => ?_⟩
  obtain ⟨hiterations, hrest⟩ := hcut htruncated (by omega) r' hr'
  have hstart : (Position.start user).iteration.val = 1 := rfl
  exact ⟨by omega, hrest⟩

/-- A dialogue that counts once, with a tool that always finds seven, and then knows. -/
def countingOnce : Dialogue Nat :=
  ⟨fun _ turns => pure (.str (if turns.length = 1 then
      "```json\n\x7b\"tool\": \"count\"\x7d\n```" else "Seven.")),
    (⟨[⟨"count", "Counts.", none, fun _ => pure (.data (.str "7"))⟩], by simp⟩ : Registry Nat),
    .standard⟩

theorem Dialogue.deterministic_countingOnce : countingOnce.Deterministic := by
  refine deterministic_of_registry (fun _ _ _ _ => rfl) (fun t ht fields w w' => ?_) .standard
  rw [List.mem_singleton] at ht
  rw [ht]
  rfl

/-- Cut off after its first reply, the dialogue asks for a count; else it knows. -/
theorem Dialogue.run_capped_countingOnce :
    ∃ r r', (((countingOnce.capped ⟨1, by decide⟩).run "Count." "How many?").run 0).result =
        .ok r ∧
      (((countingOnce.capped ⟨2, by decide⟩).run "Count." "How many?").run 1).result = .ok r' ∧
      r.truncated = true ∧ r'.truncated = false ∧ 1 < r'.iterations.val ∧
      r.reports <+: r'.reports ∧
      (((countingOnce.capped ⟨3, by decide⟩).run "Count." "How many?").run 2).result =
        .ok r' := by
  have hcut : (((countingOnce.capped ⟨1, by decide⟩).run "Count." "How many?").run
      0).result.toOption.map DialogueResult.truncated = some true := by decide +kernel
  have hwhole : (((countingOnce.capped ⟨2, by decide⟩).run "Count." "How many?").run
      1).result.toOption.map DialogueResult.truncated = some false := by decide +kernel
  obtain ⟨r, hr, htruncated⟩ := Outcome.exists_of_map hcut
  obtain ⟨r', hr', huncut⟩ := Outcome.exists_of_map hwhole
  have hd := deterministic_countingOnce
  obtain ⟨-, hlonger⟩ := @run_capped Nat countingOnce hd "Count." "How many?" ⟨1, by decide⟩
    ⟨2, by decide⟩ (by decide) 0 1 r hr
  obtain ⟨hiterations, -, hreports, -⟩ := hlonger htruncated (by decide) r' hr'
  obtain ⟨hsame, -⟩ := @run_capped Nat countingOnce hd "Count." "How many?" ⟨2, by decide⟩
    ⟨3, by decide⟩ (by decide) 1 2 r' hr'
  exact ⟨r, r', hr, hr', htruncated, huncut, hiterations, hreports, hsame huncut⟩

end ReleaseNotes
