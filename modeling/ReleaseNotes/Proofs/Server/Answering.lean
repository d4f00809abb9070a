/-
Answering.

Every request is answered.  Where a route leads, the status of the answer is that of what the route
makes of the request: its own if that is an answer, and one that depends on the failure alone if it
fails.  Bad input and services that keep failing have statuses of their own, as far as their messages
can be sent; every other failure breaks the answer.

Main statements:
* `Server.serve_status_answer` — every request is answered, also if the answer breaks;
* `Server.statusOfFailure`, `Server.statusOf` — the status of what a route makes of a request;
* `Server.serve_status` — the status of the answer of a route;
* `Server.answerWith_result` — an answer with the fields of a result;
* `Server.Body.read_isFreeOfBytes` — the value of a body.
-/
import Mathlib.Tactic.Common
import ReleaseNotes.Proofs.Json.Bytes
import ReleaseNotes.Server.Serve

namespace ReleaseNotes

namespace Act

variable {ω α β : Type}

theorem bind_result (act : Act ω α) (next : α → Act ω β) (w : ω) :
    ((act >>= next).run w).result =
      match (act.run w).result with
      | .ok a => ((next a).run (act.run w).world).result
      | .error f => .error f := by
  rw [bind_run]
  rcases act.run w with ⟨f | a, w', events⟩ <;> rfl

theorem rescue_result (act : Act ω α) (handler : Failure → Act ω α) (w : ω) :
    ((act.rescue handler).run w).result =
      match (act.run w).result with
      | .ok a => .ok a
      | .error f => ((handler f).run (act.run w).world).result := by
  rw [rescue_run]
  rcases act.run w with ⟨f | a, w', events⟩ <;> rfl

end Act

namespace Server

variable {ω : Type}

/-! ### Answers that break -/

/-- Every request is answered, with the status of the answer that the server makes, or as one that
cannot be served. -/
theorem serve_status_answer (s : Server ω) (r : Request) (w : ω) :
    ∃ a, ((s.serve r).run w).result = .ok a ∧
      a.status = ((s.answer r).run w).result.toOption.elim 500 Answer.status := by
  have hseen : ∀ b : Answer, (b.seenWith r.method).status = b.status := by
    intro b
    unfold Answer.seenWith
    split <;> rfl
  unfold serve
  rw [Act.bind_result, Act.rescue_result, Act.bind_result]
  cases ((s.answer r).run w).result with
  | ok b => exact ⟨_, rfl, hseen b⟩
  | error f => exact ⟨_, rfl, hseen _⟩

/-! ### The answer of a route -/

/-- The status of the answer to a failure: bad input and a service that keeps failing have one of
their own, unless the message of the failure cannot be sent. -/
def statusOfFailure (f : Failure) : Nat :=
  if f.message.toChars?.isNone then 500
  else if f.isInput then 422
  else if f.isTransient then 503
  else 500

/-- The status of the answer that comes of an outcome. -/
def statusOf : Except Failure Answer → Nat
  | .ok a => a.status
  | .error f => statusOfFailure f

theorem isSendable_report (kind : String) (t : Text) :
    (Json.record [("error", .text kind), ("detail", .str t)]).isSendable = t.toChars?.isSome := by
  have hchars : ∀ s : String, (Text.ofString s).toChars?.isSome = true := by
    intro s
    rw [Text.ofString, Text.ofChars, Text.toChars?_map_char]
    rfl
  show ((Text.ofString "error").toChars?.isSome && (Text.ofString kind).toChars?.isSome &&
    ((Text.ofString "detail").toChars?.isSome && t.toChars?.isSome && true)) = _
  simp only [hchars, Bool.true_and, Bool.and_true]

/-- A failure is answered, or it breaks the answer. -/
theorem answerFailure_status (f : Failure) (w : ω) :
    ((answerFailure f : Act ω Answer).run w).result.toOption.elim 500 Answer.status =
      statusOfFailure f := by
  unfold answerFailure statusOfFailure
  simp only [isSendable_report]
  cases f.message.toChars? with
  | none => cases f.isInput <;> cases f.isTransient <;> rfl
  | some cs => cases f.isInput <;> cases f.isTransient <;> rfl

theorem method_ne_options (route : Route) : route.method ≠ "OPTIONS" := by
  cases route <;> decide

/-- A request that a route leads to is answered with the status of what the route makes of it. -/
theorem serve_status (s : Server ω) {r : Request} {route : Route}
    (hroute : Route.ofPath? r.path = some route) (hmethod : route.method = r.method) (w : ω) :
    ∃ a, ((s.serve r).run w).result = .ok a ∧
      a.status = statusOf ((s.answerOf r route).run w).result := by
  have hpreflight : Origin.preflight? r = none :=
    if_neg fun h => method_ne_options route (hmethod.trans h)
  have hrouted : s.answerRouted r = (s.answerOf r route).rescue answerFailure := by
    unfold answerRouted
    rw [hroute]
    exact if_pos hmethod
  have hanswer : s.answer r =
      (do return Origin.mark r (← (s.answerOf r route).rescue answerFailure)) := by
    unfold answer
    rw [hpreflight, hrouted]
  obtain ⟨a, ha, hstatus⟩ := s.serve_status_answer r w
  refine ⟨a, ha, ?_⟩
  rw [hstatus, hanswer, Act.bind_result, Act.rescue_result]
  cases ((s.answerOf r route).run w).result with
  | ok b => rfl
  | error f =>
    -- the origin that is let in does not change the status
    rw [statusOf, ← answerFailure_status f ((s.answerOf r route).run w).world]
    dsimp only
    cases ((answerFailure f).run ((s.answerOf r route).run w).world).result <;> rfl

/-- What a failure of a route is answered with, if it does not break the answer. -/
def answerOfFailure (f : Failure) : Except Failure Answer :=
  ((answerFailure f : Act Unit Answer).run ()).result

/-- What comes of a route, when its failure is answered. -/
def replied : Except Failure Answer → Except Failure Answer
  | .ok b => .ok b
  | .error f => answerOfFailure f

theorem answerFailure_run (f : Failure) (w : ω) :
    (answerFailure f : Act ω Answer).run w = ⟨answerOfFailure f, w, []⟩ := by
  -- whether a message can be sent does not depend on the world
  have hreport : ∀ (sendable : Bool) (a : Answer),
      (if sendable = true then pure a else Act.fail f : Act ω Answer).run w =
        ⟨((if sendable = true then pure a else Act.fail f : Act Unit Answer).run ()).result,
          w, []⟩ := by
    intro sendable a
    cases sendable <;> rfl
  unfold answerOfFailure answerFailure
  cases f.isInput with
  | true => exact hreport _ _
  | false =>
    cases f.isTransient with
    | true => exact hreport _ _
    | false => rfl

/-- What the server makes of a request that a route leads to.  The route is followed, a failure of it
is answered, and a notice is left unless the answer breaks. -/
theorem serve_run (s : Server ω) {r : Request} {route : Route}
    (hroute : Route.ofPath? r.path = some route) (hmethod : route.method = r.method) (w : ω) :
    let o := (s.answerOf r route).run w
    (s.serve r).run w =
      match replied o.result with
      | .ok b => ⟨.ok (Origin.mark r b), o.world,
          o.events ++ [.noticed (.served r.method r.shownPath b.status)]⟩
      | .error _ => ⟨.ok Answer.broken, o.world, o.events⟩ := by
  have hpreflight : Origin.preflight? r = none :=
    if_neg fun h => method_ne_options route (hmethod.trans h)
  have hseen : ∀ b : Answer, b.seenWith r.method = b := by
    intro b
    refine if_neg ?_
    rw [← hmethod]
    cases route <;> decide
  have hrouted : s.answerRouted r = (s.answerOf r route).rescue answerFailure := by
    unfold answerRouted
    rw [hroute]
    exact if_pos hmethod
  have hanswer : s.answer r =
      (do return Origin.mark r (← (s.answerOf r route).rescue answerFailure)) := by
    unfold answer
    rw [hpreflight, hrouted]
  intro o
  unfold serve
  rw [Act.bind_run, Act.rescue_run, Act.bind_run, hanswer, Act.bind_run, Act.rescue_run]
  rcases ho : (s.answerOf r route).run w with ⟨result, w', events⟩
  have hresult : o = ⟨result, w', events⟩ := ho
  rw [hresult]
  cases result with
  | ok b => simp [Act.bind_run, hseen, replied, Origin.mark, Answer.adding]
  | error f =>
    simp only [answerFailure_run, replied]
    cases answerOfFailure f with
    | ok b => simp [Act.bind_run, hseen, Origin.mark, Answer.adding]
    | error g => simp [hseen]

/-- A route that comes to an answer gives this answer, with its origin marked. -/
theorem serve_of_ok (s : Server ω) {r : Request} {route : Route}
    (hroute : Route.ofPath? r.path = some route) (hmethod : route.method = r.method) {w : ω}
    {b : Answer} (h : ((s.answerOf r route).run w).result = .ok b) :
    ((s.serve r).run w).result = .ok (Origin.mark r b) := by
  rw [s.serve_run hroute hmethod, h]
  rfl

/-! ### Results and bodies -/

/-- The fields of a result are an answer if all its texts can be encoded. -/
theorem answerWith_result {j : Json} (h : ∀ t ∈ j.texts, Encoding.utf8.fault? t = none) (w : ω) :
    ((answerWith j : Act ω Answer).run w).result = .ok (Answer.ofJson 200 j.presentable) := by
  have hfault : j.texts.findSome? Encoding.utf8.fault? = none := List.findSome?_eq_none_iff.2 h
  unfold answerWith
  rw [hfault]
  rfl

theorem answerTo_of_check {α : Type} {check : Check α} {r : Request} {act : α → Act ω Answer}
    {a : α} (h : Body.check check r = .ok a) : answerTo check r act = act a := by
  unfold answerTo
  rw [h]

namespace Body

/-- The value of a body holds no bytes that could not be decoded. -/
theorem read_isFreeOfBytes {r : Request} {j : Json} (h : read r = .ok j) : j.IsFreeOfBytes := by
  have hbody : (Text.ofString r.body).hasByte = false := Text.hasByte_ofString _
  unfold read at h
  split at h
  · cases h
  · split at h
    · cases h
      intro t ht
      rw [List.mem_singleton.1 ht]
      exact hbody
    · split at h
      · next v hv =>
        cases h
        exact Json.isFreeOfBytes_of_decodeMarked hbody hv
      · cases h
      · cases h

theorem check_of_read {α : Type} {check : Check α} {r : Request} {j : Json} {a : α}
    (hread : read r = .ok j) (ha : check j = .ok a) : Body.check check r = .ok a := by
  unfold Body.check
  rw [hread]
  dsimp only
  rw [ha]

/-- A body that spells a value, and says that it does, has this value. -/
theorem read_of_reads {r : Request} {j : Json} (hjson : r.isJson = true)
    (h : Json.Reader.Reads Json.maxDepth (Text.ofString r.body) j)
    (hmark : (Text.ofString r.body).head? ≠ some (.char '\uFEFF')) : read r = .ok j := by
  obtain ⟨u, rest, hbody, -⟩ := h.begins
  have hne : r.body ≠ "" := by
    intro hempty
    rw [hempty] at hbody
    cases hbody
  have hu : u ≠ .char '\uFEFF' := by
    rintro rfl
    exact hmark (by rw [hbody]; rfl)
  have hdocument : Json.Reader.document (Text.ofString r.body) = .ok j := by
    have hend := Json.Reader.document_of_reads h (w := []) (fun v hv => by cases hv)
    rwa [List.append_nil] at hend
  have hdecode : Json.decodeMarked (Text.ofString r.body) = .ok j := by
    unfold Json.decodeMarked
    dsimp only
    split
    · next rest' heq =>
      rw [hbody] at heq
      exact absurd (List.cons_eq_cons.1 heq).1 hu
    · rw [hdocument]
      rfl
  unfold read
  rw [if_neg hne, hjson, hdecode]
  rfl

end Body
end Server
end ReleaseNotes
