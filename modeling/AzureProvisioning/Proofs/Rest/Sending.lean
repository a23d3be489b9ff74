/-
# Single requests

What a request to the resource manager comes to. It is a success when it could be made and its
response has a success status; it ends with a missing object when the response has status 404, and
in no other case: an address that no request can be made for, a closed connection, a body that does
not read and any other status are faults.
-/

import AzureProvisioning.Proofs.Transcript
import AzureProvisioning.Rest.Client

namespace AzureProvisioning

/-- Requests with their responses, in order. -/
abbrev Exchanged : Type :=
  List (Asked Request fun _ => Option Response)

namespace Client

open Program

variable {α : Type} {client : Client} {method : Method} {address : String} {body : Option Json}
  {read : Json → Option α} {t : Exchanged} {r : Response} {a : α}

/-- One request is made, to this address, and has this response. -/
def Answered (client : Client) (method : Method) (address : String) (body : Option Json)
    (t : Exchanged) (r : Response) : Prop :=
  ∃ request, client.request method address body = .ok request ∧ t = [⟨request, some r⟩]

/-- The address is read: the response has a success status, and its body reads as the value. -/
def Fetched (client : Client) (read : Json → Option α) (address : String) (t : Exchanged) (a : α) :
    Prop :=
  ∃ r, client.Answered .get address none t r ∧ Status.isSuccess r.status = true ∧
    (Json.parse? r.body).bind read = some a

/-- The address is read, and there is nothing. -/
def FoundNothing (client : Client) (address : String) (t : Exchanged) : Prop :=
  ∃ r, client.Answered .get address none t r ∧ r.status = 404

theorem Answered.length (h : client.Answered method address body t r) : t.length = 1 := by
  obtain ⟨request, -, rfl⟩ := h
  rfl

theorem Fetched.length (h : client.Fetched read address t a) : t.length = 1 := by
  obtain ⟨r, hanswered, -⟩ := h
  exact hanswered.length

theorem FoundNothing.length (h : client.FoundNothing address t) : t.length = 1 := by
  obtain ⟨r, hanswered, -⟩ := h
  exact hanswered.length

section Failures

theorem isNotFound_requestFailure (text : String) : (requestFailure text).isNotFound = false := rfl

theorem isNotFound_decodeFailure : decodeFailure.isNotFound = false := rfl

/-- Of the statuses without success, 404 alone stands for a missing object. -/
theorem isNotFound_statusFailure {status : Nat} {text : String} :
    (statusFailure status text).isNotFound = true ↔ status = 404 := by
  unfold statusFailure
  by_cases h : status = 404
  · simp [h, Failure.isNotFound, Failure.notFound]
  · simp [h, Failure.isNotFound, Failure.fault]

theorem not_isSuccess_of_missing (h : r.status = 404) : Status.isSuccess r.status = false := by
  rw [h]
  rfl

end Failures

theorem exists_request (h : (client.request method address body).isOk = true) :
    ∃ request, client.request method address body = .ok request := by
  cases hrequest : client.request method address body with
  | ok request => exact ⟨request, rfl⟩
  | error text =>
    rw [hrequest] at h
    cases h

theorem runs_send_done_iff :
    Runs (client.send method address body) t (.done r) ↔
      client.Answered method address body t r ∧ Status.isSuccess r.status = true := by
  unfold send Answered
  cases client.request method address body with
  | error text => simp
  | ok request =>
    simp only [runs_ask_iff, Except.ok.injEq, exists_eq_left']
    constructor
    · rintro ⟨_ | response, t', rfl, h⟩
      · exact nomatch (runs_fail_iff.1 h).2
      · by_cases hstatus : Status.isSuccess response.status = true
        · simp only [if_pos hstatus, runs_done_iff, Outcome.done.injEq] at h
          obtain ⟨rfl, rfl⟩ := h
          exact ⟨rfl, hstatus⟩
        · simp [if_neg hstatus] at h
    · rintro ⟨rfl, hstatus⟩
      exact ⟨some r, [], rfl, by simp [if_pos hstatus]⟩

theorem endsNotFound_send_iff :
    EndsNotFound (client.send method address body) t ↔
      ∃ r, client.Answered method address body t r ∧ r.status = 404 := by
  unfold send Answered
  cases client.request method address body with
  | error text => simp [isNotFound_requestFailure]
  | ok request =>
    simp only [EndsNotFound, runs_ask_iff, Except.ok.injEq, exists_eq_left']
    constructor
    · rintro ⟨e, ⟨_ | response, t', rfl, h⟩, hmissing⟩
      · rw [← Outcome.failed.inj (runs_fail_iff.1 h).2.symm, isNotFound_requestFailure] at hmissing
        cases hmissing
      · by_cases hstatus : Status.isSuccess response.status = true
        · simp [if_pos hstatus] at h
        · simp only [if_neg hstatus, runs_fail_iff, Outcome.failed.injEq] at h
          obtain ⟨rfl, rfl⟩ := h
          exact ⟨response, rfl, isNotFound_statusFailure.1 hmissing⟩
    · rintro ⟨r, rfl, hmissing⟩
      have hstatus := not_isSuccess_of_missing hmissing
      exact ⟨statusFailure r.status r.body, ⟨some r, [], rfl, by simp [hstatus]⟩,
        isNotFound_statusFailure.2 hmissing⟩

theorem runs_decode_done_iff :
    Runs (decode read r) t (.done a) ↔ t = [] ∧ (Json.parse? r.body).bind read = some a := by
  unfold decode
  cases (Json.parse? r.body).bind read with
  | none => simp
  | some b => simp [eq_comm]

theorem not_endsNotFound_decode : ¬ EndsNotFound (decode read r) t := by
  unfold decode
  cases (Json.parse? r.body).bind read with
  | none => simp [isNotFound_decodeFailure]
  | some b => exact not_endsNotFound_done

theorem runs_decode_bind_done_iff {β : Type} {f : α → Exchange β} {b : β} :
    Runs ((decode read r).bind f) t (.done b) ↔
      ∃ a, (Json.parse? r.body).bind read = some a ∧ Runs (f a) t (.done b) := by
  unfold decode
  cases (Json.parse? r.body).bind read with
  | none => simp
  | some a => simp

theorem endsNotFound_decode_bind_iff {β : Type} {f : α → Exchange β} :
    EndsNotFound ((decode read r).bind f) t ↔
      ∃ a, (Json.parse? r.body).bind read = some a ∧ EndsNotFound (f a) t := by
  unfold decode
  cases (Json.parse? r.body).bind read with
  | none => simp [isNotFound_decodeFailure]
  | some a => simp

theorem runs_sendGet_done_iff :
    Runs (client.sendGet address) t (.done r) ↔
      client.Answered .get address none t r ∧ Status.isSuccess r.status = true :=
  runs_log_iff.trans runs_send_done_iff

theorem endsNotFound_sendGet_iff :
    EndsNotFound (client.sendGet address) t ↔ client.FoundNothing address t :=
  endsNotFound_log_iff.trans endsNotFound_send_iff

theorem runs_get_done_iff :
    Runs (client.get read address) t (.done a) ↔ client.Fetched read address t a := by
  unfold get Fetched
  simp only [bind_eq_bind, runs_bind_done_iff, runs_sendGet_done_iff, runs_decode_done_iff]
  constructor
  · rintro ⟨r, t₁, _, rfl, ⟨hanswered, hstatus⟩, rfl, hread⟩
    exact ⟨r, by rwa [List.append_nil], hstatus, hread⟩
  · rintro ⟨r, hanswered, hstatus, hread⟩
    exact ⟨r, t, [], (List.append_nil t).symm, ⟨hanswered, hstatus⟩, rfl, hread⟩

theorem endsNotFound_get_iff :
    EndsNotFound (client.get read address) t ↔ client.FoundNothing address t := by
  unfold get
  simp only [bind_eq_bind, endsNotFound_bind_iff, endsNotFound_sendGet_iff, not_endsNotFound_decode,
    and_false, exists_false, or_false]

end Client
end AzureProvisioning
