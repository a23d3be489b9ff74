/-
# Long-running operations

A response may announce an operation (`Response.watch?`). The client then asks for its state, again
and again while the answers say that it is pending (`Polls`), `maxPolls` times at most. Waiting is a
success when the last answer is one (`runs_follow_done_iff`), and it ends with a missing object when
the last answer has status 404 (`endsNotFound_follow_iff`).

So a request that changes something ends with a missing object in two ways: the request itself is
answered 404, or a poll of the operation is (`endsNotFound_mutate_iff`). Nothing in the failure tells
them apart.
-/

import AzureProvisioning.Proofs.Rest.Sending
import Mathlib.Tactic.SplitIfs

namespace AzureProvisioning

/-- A long-running operation that is waited for. -/
inductive Watch
  /-- Its status is read at the address. -/
  | status (address : String)
  /-- The address answers 202 until it ends. -/
  | location (address : String)
  deriving DecidableEq, Inhabited, Repr

/-- The operation that a response announces. -/
def Response.watch? (r : Response) : Option Watch :=
  match r.header? "Azure-AsyncOperation", r.header? "Location" with
  | some address, _ => some (.status address)
  | none, some address => if r.status = 202 then some (.location address) else none
  | none, none => none

namespace Watch

def address : Watch → String
  | status address | location address => address

/-- The answer reports this status of the operation. -/
def Reports (r : Response) (s : OperationStatus) : Prop :=
  Status.isSuccess r.status = true ∧ (Json.parse? r.body).bind OperationStatus.ofJson? = some s

/-- The answer says that the operation goes on. -/
def Pending : Watch → Response → Prop
  | status _, r => ∃ s, Reports r s ∧ s.status ∉ ["Succeeded", "Failed", "Canceled"]
  | location _, r => r.status = 202

/-- The answer says that the operation has ended well. -/
def Succeeded : Watch → Response → Prop
  | status _, r => ∃ s, Reports r s ∧ s.status = "Succeeded"
  | location _, r => Status.isSuccess r.status = true ∧ r.status ≠ 202

variable {w : Watch} {r : Response}

theorem Pending.isSuccess (h : w.Pending r) : Status.isSuccess r.status = true := by
  cases w with
  | status address =>
    obtain ⟨s, hreports, -⟩ := h
    exact hreports.1
  | location address =>
    rw [show r.status = 202 from h]
    rfl

theorem Succeeded.isSuccess (h : w.Succeeded r) : Status.isSuccess r.status = true := by
  cases w with
  | status address =>
    obtain ⟨s, hreports, -⟩ := h
    exact hreports.1
  | location address => exact h.1

end Watch

namespace Client

open Program

variable {client : Client} {w : Watch} {r : Response} {t : Exchanged} {method : Method}
  {address : String} {body : Option Json}

/-- Waits for an operation to end. -/
def follow (client : Client) : Watch → Nat → Exchange Unit
  | .status address => client.awaitStatus address
  | .location address => client.awaitLocation address

/-- What the status of an operation leads to: the end, or `next`. -/
def judge (next : Exchange Unit) (s : OperationStatus) : Exchange Unit :=
  if s.status = "Succeeded" then .done ()
  else if s.status = "Failed" then
    .fail (.fault ("Operation failed: " ++
      ((s.error.map ErrorDetail.text).getD "Unknown error")))
  else if s.status = "Canceled" then .fail (.fault "Operation was cancelled")
  else next

/-- What the answer to a poll leads to. -/
def conclude (next : Exchange Unit) : Watch → Response → Exchange Unit
  | .status _, r => (decode OperationStatus.ofJson? r).bind (judge next)
  | .location _, r => if r.status != 202 then .done () else next

@[simp] theorem follow_zero (w : Watch) :
    client.follow w 0 = .fail (.fault "Operation timed out") := by
  cases w <;> rfl

/-- One poll, and what its answer leads to. -/
theorem follow_succ (w : Watch) (polls : Nat) :
    client.follow w (polls + 1) =
      (client.sendGet w.address).bind (conclude (client.follow w polls) w) := by
  cases w with
  | status address =>
    show (((client.sendGet address).bind (decode OperationStatus.ofJson?)).bind _) = _
    rw [bind_assoc]
    rfl
  | location address => rfl

theorem runs_judge_done_iff {next : Exchange Unit} {s : OperationStatus} :
    Runs (judge next s) t (.done ()) ↔
      s.status = "Succeeded" ∧ t = [] ∨
        s.status ∉ ["Succeeded", "Failed", "Canceled"] ∧ Runs next t (.done ()) := by
  unfold judge
  split_ifs with hsucceeded hfailed hcanceled
  · simp [hsucceeded]
  · simp [hfailed]
  · simp [hcanceled]
  · simp [hsucceeded, hfailed, hcanceled]

theorem endsNotFound_judge_iff {next : Exchange Unit} {s : OperationStatus} :
    EndsNotFound (judge next s) t ↔
      s.status ∉ ["Succeeded", "Failed", "Canceled"] ∧ EndsNotFound next t := by
  unfold judge
  split_ifs with hsucceeded hfailed hcanceled
  · simp [hsucceeded]
  · simp [hfailed, Failure.isNotFound, Failure.fault]
  · simp [hcanceled, Failure.isNotFound, Failure.fault]
  · simp [hsucceeded, hfailed, hcanceled]

theorem runs_conclude_done_iff {next : Exchange Unit} (h : Status.isSuccess r.status = true) :
    Runs (conclude next w r) t (.done ()) ↔
      w.Succeeded r ∧ t = [] ∨ w.Pending r ∧ Runs next t (.done ()) := by
  cases w with
  | status address =>
    simp only [conclude, runs_decode_bind_done_iff, runs_judge_done_iff, Watch.Succeeded,
      Watch.Pending, Watch.Reports, h, true_and, and_or_left, exists_or, ← and_assoc,
      exists_and_right]
  | location address =>
    by_cases hstatus : r.status = 202
    · simp [conclude, Watch.Succeeded, Watch.Pending, hstatus]
    · simp [conclude, Watch.Succeeded, Watch.Pending, hstatus, h]

theorem endsNotFound_conclude_iff {next : Exchange Unit} (h : Status.isSuccess r.status = true) :
    EndsNotFound (conclude next w r) t ↔ w.Pending r ∧ EndsNotFound next t := by
  cases w with
  | status address =>
    simp only [conclude, endsNotFound_decode_bind_iff, endsNotFound_judge_iff, Watch.Pending,
      Watch.Reports, h, true_and, ← and_assoc, exists_and_right]
  | location address =>
    by_cases hstatus : r.status = 202 <;> simp [conclude, Watch.Pending, hstatus]

/-- An operation is asked for: it is pending, answer after answer, until the last answer. -/
inductive Polls (client : Client) (w : Watch) : Exchanged → Response → Prop
  | last {t : Exchanged} {r : Response} :
      client.Answered .get w.address none t r → Polls client w t r
  | wait {t t' : Exchanged} {r r' : Response} :
      client.Answered .get w.address none t r → w.Pending r → Polls client w t' r' →
      Polls client w (t ++ t') r'

theorem polls_iff :
    Polls client w t r ↔
      client.Answered .get w.address none t r ∨
      ∃ r' t₁ t₂, t = t₁ ++ t₂ ∧ client.Answered .get w.address none t₁ r' ∧ w.Pending r' ∧
        Polls client w t₂ r := by
  constructor
  · intro h
    cases h with
    | last hlast => exact .inl hlast
    | wait hanswered hpending hrest => exact .inr ⟨_, _, _, rfl, hanswered, hpending, hrest⟩
  · rintro (hlast | ⟨r', t₁, t₂, rfl, hanswered, hpending, hrest⟩)
    · exact .last hlast
    · exact .wait hanswered hpending hrest

theorem Polls.length_pos (h : Polls client w t r) : 0 < t.length := by
  rcases polls_iff.1 h with hlast | ⟨r', t₁, t₂, rfl, hanswered, -⟩
  · rw [hlast.length]
    exact Nat.one_pos
  · rw [List.length_append, hanswered.length]
    omega

/-- **Waiting is a success** when the last answer says that the operation has ended well, and the
polls are no more than allowed. -/
theorem runs_follow_done_iff {polls : Nat} :
    Runs (client.follow w polls) t (.done ()) ↔
      t.length ≤ polls ∧ ∃ r, Polls client w t r ∧ w.Succeeded r := by
  -- A pending answer uses up one poll, and what is left of the transcript is one of fewer polls.
  induction polls generalizing t with
  | zero =>
    simp only [follow_zero, runs_fail_iff, reduceCtorEq, and_false, false_iff]
    rintro ⟨hlength, r, hpolls, -⟩
    have := hpolls.length_pos
    omega
  | succ polls ih =>
    rw [follow_succ, runs_bind_done_iff]
    constructor
    · rintro ⟨r, t₁, t₂, rfl, hsent, hrest⟩
      obtain ⟨hanswered, hstatus⟩ := runs_sendGet_done_iff.1 hsent
      have hone := hanswered.length
      rcases (runs_conclude_done_iff hstatus).1 hrest with ⟨hsucceeded, rfl⟩ | ⟨hpending, hnext⟩
      · rw [List.append_nil]
        exact ⟨by omega, r, .last hanswered, hsucceeded⟩
      · obtain ⟨hlength, r', hpolls, hsucceeded⟩ := ih.1 hnext
        refine ⟨?_, r', .wait hanswered hpending hpolls, hsucceeded⟩
        rw [List.length_append]
        omega
    · rintro ⟨hlength, r, hpolls, hsucceeded⟩
      rcases polls_iff.1 hpolls with hlast | ⟨r', t₁, t₂, rfl, hanswered, hpending, hrest⟩
      · exact ⟨r, t, [], (List.append_nil t).symm,
          runs_sendGet_done_iff.2 ⟨hlast, hsucceeded.isSuccess⟩,
          (runs_conclude_done_iff hsucceeded.isSuccess).2 (.inl ⟨hsucceeded, rfl⟩)⟩
      · have hone := hanswered.length
        rw [List.length_append] at hlength
        exact ⟨r', t₁, t₂, rfl, runs_sendGet_done_iff.2 ⟨hanswered, hpending.isSuccess⟩,
          (runs_conclude_done_iff hpending.isSuccess).2
            (.inr ⟨hpending, ih.2 ⟨by omega, r, hrest, hsucceeded⟩⟩)⟩

/-- **Waiting ends with a missing object** when the last answer has status 404. -/
theorem endsNotFound_follow_iff {polls : Nat} :
    EndsNotFound (client.follow w polls) t ↔
      t.length ≤ polls ∧ ∃ r, Polls client w t r ∧ r.status = 404 := by
  induction polls generalizing t with
  | zero =>
    simp only [follow_zero, endsNotFound_fail_iff, Failure.isNotFound, Failure.fault, reduceCtorEq,
      decide_false, Bool.false_eq_true, and_false, false_iff]
    rintro ⟨hlength, r, hpolls, -⟩
    have := hpolls.length_pos
    omega
  | succ polls ih =>
    rw [follow_succ, endsNotFound_bind_iff, endsNotFound_sendGet_iff]
    constructor
    · rintro (⟨r, hlast, hmissing⟩ | ⟨r, t₁, t₂, rfl, hsent, hrest⟩)
      · refine ⟨?_, r, .last hlast, hmissing⟩
        rw [hlast.length]
        omega
      · obtain ⟨hanswered, hstatus⟩ := runs_sendGet_done_iff.1 hsent
        obtain ⟨hpending, hnext⟩ := (endsNotFound_conclude_iff hstatus).1 hrest
        obtain ⟨hlength, r', hpolls, hmissing⟩ := ih.1 hnext
        refine ⟨?_, r', .wait hanswered hpending hpolls, hmissing⟩
        rw [List.length_append, hanswered.length]
        omega
    · rintro ⟨hlength, r, hpolls, hmissing⟩
      rcases polls_iff.1 hpolls with hlast | ⟨r', t₁, t₂, rfl, hanswered, hpending, hrest⟩
      · exact .inl ⟨r, hlast, hmissing⟩
      · have hone := hanswered.length
        rw [List.length_append] at hlength
        exact .inr ⟨r', t₁, t₂, rfl, runs_sendGet_done_iff.2 ⟨hanswered, hpending.isSuccess⟩,
          (endsNotFound_conclude_iff hpending.isSuccess).2
            ⟨hpending, ih.2 ⟨by omega, r, hrest, hmissing⟩⟩⟩

/-- What a response announces has ended well, after these polls; nothing is asked when it announces
nothing. -/
def Ended (client : Client) (r : Response) (polls : Exchanged) : Prop :=
  match r.watch? with
  | none => polls = []
  | some w => polls.length ≤ maxPolls ∧ ∃ last, Polls client w polls last ∧ w.Succeeded last

/-- What a response announces is not there any more when it is asked for: the last of these polls is
answered 404. -/
def Vanished (client : Client) (r : Response) (polls : Exchanged) : Prop :=
  ∃ w last, r.watch? = some w ∧ polls.length ≤ maxPolls ∧ Polls client w polls last ∧
    last.status = 404

theorem await_eq :
    client.await r = match r.watch? with
      | none => .done ()
      | some w => client.follow w maxPolls := by
  unfold await Response.watch?
  cases r.header? "Azure-AsyncOperation" with
  | some address => rfl
  | none =>
    cases r.header? "Location" with
    | none => rfl
    | some address => by_cases hstatus : r.status = 202 <;> simp [hstatus, follow, pure_eq_done]

theorem runs_await_done_iff : Runs (client.await r) t (.done ()) ↔ client.Ended r t := by
  rw [await_eq, Ended]
  cases r.watch? with
  | none => simp
  | some w => exact runs_follow_done_iff

theorem endsNotFound_await_iff : EndsNotFound (client.await r) t ↔ client.Vanished r t := by
  rw [await_eq, Vanished]
  cases r.watch? with
  | none => simp
  | some w => simp [endsNotFound_follow_iff]

/-- A request that changes something is a success when it is answered with one, and what it announces
has ended well. -/
theorem runs_mutate_done_iff :
    Runs (client.mutate method address body) t (.done ()) ↔
      ∃ r sent polls, t = sent ++ polls ∧ client.Answered method address body sent r ∧
        Status.isSuccess r.status = true ∧ client.Ended r polls := by
  simp only [mutate, bind_eq_bind, note, log_bind, done_bind, runs_log_iff, runs_bind_done_iff,
    runs_send_done_iff, runs_await_done_iff, and_assoc]

/-- It ends with a missing object when it is answered 404, or a poll of what it announces is. -/
theorem endsNotFound_mutate_iff :
    EndsNotFound (client.mutate method address body) t ↔
      (∃ r, client.Answered method address body t r ∧ r.status = 404) ∨
      ∃ r sent polls, t = sent ++ polls ∧ client.Answered method address body sent r ∧
        Status.isSuccess r.status = true ∧ client.Vanished r polls := by
  simp only [mutate, bind_eq_bind, note, log_bind, done_bind, endsNotFound_log_iff, endsNotFound_bind_iff,
    endsNotFound_send_iff, runs_send_done_iff, endsNotFound_await_iff, and_assoc]

end Client
end AzureProvisioning
