/-
Failures of reading.

An answer that has come is read, and what goes wrong there goes wrong at every attempt: a body that
is no JSON, a payload of the wrong shape, a status that is no success and does not pass.  Only a
failure on the way and a passing status are worth another attempt.

Main statements:
* `Lasting` — a computation whose failures no other attempt mends;
* `CommitDiff.lasting_ofPayload`, `LanguageModel.lasting_content` — payloads;
* `GitHubClient.read_of_passes`, `GitHubClient.lasting_read` — an answer on a commit;
* `LanguageModel.read_of_passes`, `LanguageModel.lasting_read` — an answer of the language model.
-/
import ReleaseNotes.LanguageModel.Client
import ReleaseNotes.Proofs.Tool.Execution

namespace ReleaseNotes

variable {α β : Type}

/-- A computation whose failures no other attempt mends. -/
def Lasting (x : Except Failure α) : Prop := ∀ f, x = .error f → f.isTransient = false

namespace Lasting

theorem ok {a : α} : Lasting (.ok a) := by
  intro f hf
  cases hf

theorem error {f : Failure} (h : f.isTransient = false) : Lasting (.error f : Except Failure α) := by
  intro g hg
  cases hg
  exact h

theorem bind {x : Except Failure α} {next : α → Except Failure β} (hx : Lasting x)
    (hnext : ∀ a, Lasting (next a)) : Lasting (x >>= next) := by
  cases x with
  | ok a => exact hnext a
  | error f => exact error (hx f rfl)

theorem mapM {items : List α} {read : α → Except Failure β} (h : ∀ a, Lasting (read a)) :
    Lasting (items.mapM read) := by
  induction items with
  | nil => exact ok
  | cons a items ih =>
    rw [List.mapM_cons]
    exact (h a).bind fun _ => ih.bind fun _ => ok

theorem orFail {v : Validated α} {model : String} : Lasting (v.orFail model) := by
  cases v with
  | ok a => exact ok
  | bad problems => exact error (by rfl)

end Lasting

/-! ### The payload of a commit -/

namespace Payload

theorem lasting_get (j : Json) (name : String) (default : Json) : Lasting (get j name default) := by
  cases j with
  | obj fields => exact .ok
  | _ => exact .error (Failure.isOrdinary_misuse _).isTransient

theorem lasting_need (j : Json) (name : String) : Lasting (need j name) := by
  cases j with
  | obj fields =>
    rw [need]
    cases Json.lookup name fields with
    | some v => exact .ok
    | none => exact .error (by rfl)
  | _ => exact .error (Failure.isOrdinary_misuse _).isTransient

theorem lasting_author (data commit : Json) : Lasting (author data commit) := by
  refine (lasting_get _ _ _).bind fun account => (lasting_get _ _ _).bind fun login => ?_
  dsimp only
  split
  · exact (lasting_get _ _ _).bind fun signature => lasting_get _ _ _
  · exact .ok

theorem lasting_file (j : Json) : Lasting (file j) :=
  (lasting_need _ _).bind fun _ => (lasting_get _ _ _).bind fun _ =>
    (lasting_get _ _ _).bind fun _ => (lasting_get _ _ _).bind fun _ =>
      (lasting_get _ _ _).bind fun _ => .orFail

theorem lasting_items (j : Json) : Lasting (items j) := by
  cases j with
  | arr l => exact .ok
  | str t => exact .ok
  | obj fields => exact .ok
  | _ => exact .error (Failure.isOrdinary_misuse _).isTransient

theorem lasting_files (data : Json) : Lasting (files data) :=
  (lasting_get _ _ _).bind fun _ => (lasting_items _).bind fun _ => .mapM lasting_file

end Payload

theorem CommitDiff.lasting_ofPayload (data : Json) : Lasting (ofPayload data) :=
  (Payload.lasting_get _ _ _).bind fun _ => (Payload.lasting_author _ _).bind fun _ =>
    (Payload.lasting_need _ _).bind fun _ => (Payload.lasting_get _ _ _).bind fun _ =>
      (Payload.lasting_files _).bind fun _ => Lasting.orFail.bind fun _ => .ok

/-! ### Answers on commits -/

/-- Whether an answer may be another one the next time: it is lost on the way, or its status
passes. -/
def WebAnswer.passes : WebAnswer → Bool
  | .failure _ _ => true
  | .response status _ _ => GitHubClient.isPassing status

/-- Whether an answer is lost on the way, or has come. -/
def WebAnswer.IsOfTransport (x : WebAnswer) : Prop :=
  ∀ kind message, x = .failure kind message → GitHubClient.transportFailures.contains kind = true

namespace GitHubClient

theorem not_isPassing_of_isSuccess {status : Nat} (h : Status.isSuccess status = true) :
    isPassing status = false := by
  simp only [Status.isSuccess, Bool.and_eq_true, decide_eq_true_eq] at h
  simp only [isPassing, Bool.or_eq_false_iff, beq_eq_false_iff_ne, decide_eq_false_iff_not]
  omega

/-- The commit that an answer of success tells, if its body is JSON and tells one. -/
def commit? : WebAnswer → Option CommitDiff
  | .failure _ _ => none
  | .response status _ body =>
    if Status.isSuccess status then
      match Json.decodeMarked body with
      | .ok data => (CommitDiff.ofPayload data).toOption
      | .error _ => none
    else none

/-- A passing answer is a transient failure. -/
theorem read_of_passes (target : Target) (sha : Text) {x : WebAnswer} (hx : x.IsOfTransport)
    (h : x.passes = true) :
    ∃ message cause, read target sha x = .error (.transient message cause) := by
  cases x with
  | failure kind message =>
    have hkind := hx kind message rfl
    exact ⟨_, _, by rw [read, if_pos hkind]⟩
  | response status headers body =>
    have hstatus : isPassing status = true := h
    exact ⟨_, _, by rw [read, if_pos hstatus]⟩

/-- Any other answer is a commit, or a failure for good. -/
theorem lasting_read (target : Target) (sha : Text) {x : WebAnswer} (h : x.passes = false) :
    Lasting (read target sha x) := by
  cases x with
  | failure kind message => cases h
  | response status headers body =>
    have hstatus : ¬ isPassing status = true := by
      show ¬ (WebAnswer.response status headers body).passes = true
      simp [h]
    rw [read, if_neg hstatus]
    split
    · cases hdata : Json.decodeMarked body with
      | error e => exact .error (Failure.isOrdinary_json e).isTransient
      | ok data => exact CommitDiff.lasting_ofPayload data
    · exact .error (by rfl)

theorem toOption_read (target : Target) (sha : Text) (x : WebAnswer) :
    (read target sha x).toOption = commit? x := by
  cases x with
  | failure kind message =>
    rw [read]
    split <;> rfl
  | response status headers body =>
    by_cases hsuccess : Status.isSuccess status = true
    · have hstatus : ¬ isPassing status = true := by simp [not_isPassing_of_isSuccess hsuccess]
      rw [read, if_neg hstatus, if_pos hsuccess, commit?, if_pos hsuccess]
      cases Json.decodeMarked body <;> rfl
    · rw [read, if_neg hsuccess, commit?, if_neg hsuccess]
      split <;> rfl

end GitHubClient

/-! ### Answers of the language model -/

namespace LanguageModel

theorem lasting_member (j : Json) (name : String) : Lasting (member j name) := by
  cases j with
  | obj fields => exact .ok
  | _ => exact .error (Failure.isOrdinary_misuse _).isTransient

theorem lasting_first (j : Json) : Lasting (first j) := by
  cases j with
  | arr l =>
    cases l with
    | nil => exact .error (by rfl)
    | cons v l => exact .ok
  | str t =>
    cases t with
    | nil => exact .error (by rfl)
    | cons u t => exact .ok
  | obj fields => exact .error (by rfl)
  | _ => exact .error (Failure.isOrdinary_misuse _).isTransient

theorem lasting_content (answer : Json) : Lasting (content answer) :=
  (lasting_member _ _).bind fun _ => (lasting_first _).bind fun _ =>
    (lasting_member _ _).bind fun _ => (lasting_member _ _).bind fun _ => .ok

theorem lasting_size (j : Json) : Lasting (size j) := by
  cases j with
  | str t => exact .ok
  | arr l => exact .ok
  | obj fields => exact .ok
  | _ => exact .error (Failure.isOrdinary_misuse _).isTransient

theorem lasting_valueOf (headers : List (String × String)) (body : String) :
    Lasting (valueOf headers body) := by
  rw [valueOf]
  split
  · exact .ok
  · split
    · exact .error (Failure.isOrdinary_json _).isTransient
    · exact .ok

/-- A passing answer is a transient failure. -/
theorem read_of_passes {x : WebAnswer} (h : x.passes = true) :
    ∃ message cause, read x = .error (.transient message cause) := by
  cases x with
  | failure kind message =>
    rw [read, wayFailure]
    split
    · exact ⟨_, _, rfl⟩
    · exact ⟨_, _, rfl⟩
  | response status headers body =>
    have hstatus : GitHubClient.isPassing status = true := h
    have hsuccess : ¬ Status.isSuccess status = true := fun hsuccess => by
      rw [GitHubClient.not_isPassing_of_isSuccess hsuccess] at hstatus
      cases hstatus
    have hpassing : status = 429 ∨ 500 ≤ status := by
      simpa [GitHubClient.isPassing] using hstatus
    exact ⟨_, _, by rw [read, if_neg hsuccess, statusFailure, if_pos hpassing, passing]⟩

/-- The name of a status that does not pass is not that of a transient failure. -/
theorem isTransient_statusName (status : Nat) (text : Text) :
    (Failure.outside (.other (statusName status)) text).isTransient = false := by
  have hname : ∀ name, (name = "InternalServerError" ∨ name = "APIStatusError" ∨
      name ∈ statusNames.map Prod.snd) →
      (Failure.outside (.other name) text).isTransient = false := by
    intro name hname
    show FailureKind.isA (.other name) "TransientCallError" = false
    simp only [statusNames, List.map_cons, List.map_nil, List.mem_cons, List.not_mem_nil,
      or_false] at hname
    rcases hname with rfl | rfl | rfl | rfl | rfl | rfl | rfl | rfl | rfl <;> decide
  refine hname _ ?_
  rw [statusName]
  split
  · exact .inl rfl
  · cases hlookup : statusNames.lookup status with
    | none => exact .inr (.inl rfl)
    | some name =>
      obtain ⟨l, r, hsplit, -⟩ := List.lookup_eq_some_iff.1 hlookup
      refine .inr (.inr ?_)
      rw [hsplit]
      simp

/-- Any other answer is a reply, or a failure for good. -/
theorem lasting_read {x : WebAnswer} (h : x.passes = false) : Lasting (read x) := by
  cases x with
  | failure kind message => cases h
  | response status headers body =>
    rw [read]
    split
    · exact (lasting_valueOf _ _).bind fun _ => (lasting_content _).bind fun _ =>
        (lasting_size _).bind fun _ => .ok
    · have hstatus : ¬ (status = 429 ∨ 500 ≤ status) := by
        have hpassing : GitHubClient.isPassing status = false := h
        simpa [GitHubClient.isPassing] using hpassing
      rw [statusFailure, if_neg hstatus]
      exact .error (isTransient_statusName status _)

end LanguageModel

end ReleaseNotes
