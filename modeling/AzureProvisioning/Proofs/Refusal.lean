/-
# Who refuses a declaration

A declaration is refused by the library, before it is sent anywhere. A service refuses calls:
nothing that it answers is a defect of the declaration (`Impartial`). So a program whose own
failures are none either ends in no defect (`Accepts`), whatever it asks.

Both services are of that kind, the one in memory (`Memory.impartial_answer`) and the resource
manager behind its client (`Client.accepts_perform`).
-/

import AzureProvisioning.Memory
import AzureProvisioning.Proofs.Program
import AzureProvisioning.Rest.Client

namespace AzureProvisioning

/-- Whether a run ended with a defect of the declaration. -/
def Outcome.refused {α : Type} : Outcome α → Bool
  | .failed e => e.defect?.isSome
  | _ => false

/-- The answers are never that the declaration has a defect. -/
def Impartial {σ : Type} (answer : (c : Call) → σ → c.Answer × σ) : Prop :=
  ∀ c s e, (answer c s).1 = .error e → e.defect? = none

section Accepts

variable {Query : Type} {Answer : Query → Type} {σ α β : Type}

/-- No run of the program ends with a defect of the declaration. -/
def Accepts (answer : (q : Query) → σ → Answer q × σ) (p : Program Query Answer α) : Prop :=
  ∀ s, (p.run answer s).outcome.refused = false

variable {answer : (q : Query) → σ → Answer q × σ} {p : Program Query Answer α}

theorem accepts_done (a : α) : Accepts answer (.done a) := fun _ => rfl

theorem accepts_unfinished : Accepts answer (.unfinished : Program Query Answer α) := fun _ => rfl

theorem accepts_fail {e : Failure} (h : e.defect? = none) :
    Accepts answer (.fail e : Program Query Answer α) := by
  intro s
  simp [Outcome.refused, h]

theorem accepts_note (level : LogLevel) (text : String) :
    Accepts answer (Program.note level text) := fun _ => rfl

theorem accepts_ask {q : Query} {next : Answer q → Program Query Answer α}
    (h : ∀ a, Accepts answer (next a)) : Accepts answer (.ask q next) := fun s =>
  h (answer q s).1 (answer q s).2

theorem Accepts.bind {f : α → Program Query Answer β} (h : Accepts answer p)
    (hf : ∀ a, Accepts answer (f a)) : Accepts answer (p.bind f) := by
  intro s
  have hp := h s
  rw [Program.run_bind]
  cases ho : (p.run answer s).outcome with
  | done a =>
    rw [Ran.andThen_of_done ho]
    exact hf a _
  | failed e =>
    rw [ho] at hp
    rw [Ran.andThen, ho]
    exact hp
  | unfinished =>
    rw [Ran.andThen, ho]
    rfl

/-- A failure that is taken as a value is no defect either. -/
theorem Accepts.attempt_bind {f : Except Failure α → Program Query Answer β} (h : Accepts answer p)
    (hf : ∀ r, (∀ e, r = .error e → e.defect? = none) → Accepts answer (f r)) :
    Accepts answer (p.attempt.bind f) := by
  intro s
  have hp := h s
  rw [Program.run_bind, Program.run_attempt]
  cases ho : (p.run answer s).outcome with
  | done a =>
    rw [Ran.andThen_of_done rfl]
    exact hf (.ok a) (by simp) _
  | failed e =>
    rw [ho] at hp
    have he : e.defect? = none := by simpa [Outcome.refused] using hp
    rw [Ran.andThen_of_done rfl]
    exact hf (.error e) (by simp [he]) _
  | unfinished => rfl

end Accepts

/-- The service in memory refuses calls, but no declarations. -/
theorem Memory.impartial_answer : Impartial Memory.answer := by
  intro c m e h
  simp only [Memory.answer] at h
  split at h
  · rw [← Except.error.inj h]
    rfl
  · revert h
    generalize ({ m with calls := _ } : Memory) = m
    intro h
    cases c with
    | getAccount | listAccounts | listAccountsIn | putAccount | getGroup | listGroups | putGroup => cases h
    | patchAccount | changePriorities =>
      simp only [Memory.perform] at h
      split at h
      · rw [← Except.error.inj h]
        rfl
      · split at h
        · cases h
        · rw [← Except.error.inj h]
          rfl
    | deleteAccount | setGroupTags | deleteGroup =>
      simp only [Memory.perform] at h
      split at h
      · rw [← Except.error.inj h]
        rfl
      · cases h

namespace Client

variable {σ α : Type} {respond : (r : Request) → σ → Option Response × σ} (client : Client)

theorem accepts_send (method : Method) (address : String) (body : Option Json) :
    Accepts respond (client.send method address body) := by
  unfold send
  cases client.request method address body with
  | error text => exact accepts_fail rfl
  | ok request =>
    refine accepts_ask fun response => ?_
    cases response with
    | none => exact accepts_fail rfl
    | some response =>
      dsimp only
      split
      · exact accepts_done response
      · refine accepts_fail ?_
        unfold statusFailure
        split <;> rfl

theorem accepts_decode (read : Json → Option α) (response : Response) :
    Accepts respond (decode read response) := by
  unfold decode
  cases (Json.parse? response.body).bind read with
  | none => exact accepts_fail rfl
  | some a => exact accepts_done a

theorem accepts_sendGet (address : String) : Accepts respond (client.sendGet address) :=
  (accepts_note _ _).bind fun _ => client.accepts_send .get address none

theorem accepts_get (read : Json → Option α) (address : String) :
    Accepts respond (client.get read address) :=
  (client.accepts_sendGet address).bind fun response => accepts_decode read response

theorem accepts_getOptional (read : Json → Option α) (address : String) :
    Accepts respond (client.getOptional read address) := by
  refine (client.accepts_sendGet address).attempt_bind fun result he => ?_
  cases result with
  | ok response => exact (accepts_decode read response).bind fun a => accepts_done (some a)
  | error e =>
    dsimp only
    split
    · exact accepts_done none
    · exact accepts_fail (he e rfl)

theorem accepts_pages (read : Json → Option α) (budget : Nat) (address : String) :
    Accepts respond (client.pages read budget address) := by
  induction budget generalizing address with
  | zero => exact accepts_unfinished
  | succ budget ih =>
    refine (client.accepts_get (Page.ofJson? read) address).bind fun page => ?_
    cases page.nextLink.filter (!·.isEmpty) with
    | none => exact accepts_done page.items
    | some next => exact (ih next).bind fun items => accepts_done _

theorem accepts_awaitStatus (address : String) (polls : Nat) :
    Accepts respond (client.awaitStatus address polls) := by
  induction polls with
  | zero => exact accepts_fail rfl
  | succ polls ih =>
    refine (client.accepts_get OperationStatus.ofJson? address).bind fun status => ?_
    split
    · exact accepts_done ()
    · split
      · exact accepts_fail rfl
      · split
        · exact accepts_fail rfl
        · exact ih

theorem accepts_awaitLocation (address : String) (polls : Nat) :
    Accepts respond (client.awaitLocation address polls) := by
  induction polls with
  | zero => exact accepts_fail rfl
  | succ polls ih =>
    refine (client.accepts_sendGet address).bind fun response => ?_
    split
    · exact accepts_done ()
    · exact ih

theorem accepts_mutate (method : Method) (address : String) (body : Option Json) :
    Accepts respond (client.mutate method address body) := by
  refine (accepts_note _ _).bind fun _ => ?_
  refine (client.accepts_send method address body).bind fun response => ?_
  unfold await
  split
  · exact client.accepts_awaitStatus _ maxPolls
  · split
    · exact client.accepts_awaitLocation _ maxPolls
    · exact accepts_done ()
  · exact accepts_done ()

/-- **The exchange of a call never ends with a defect of the declaration**, whatever is responded.
-/
theorem accepts_perform (c : Call) : Accepts respond (client.perform c) := by
  cases c with
  | getAccount | getGroup => exact client.accepts_getOptional _ _
  | listAccounts | listGroups => exact client.accepts_pages _ _ _
  | listAccountsIn group =>
    refine (client.accepts_pages _ _ _).attempt_bind fun result he => ?_
    cases result with
    | ok items => exact accepts_done items
    | error e =>
      dsimp only
      split
      · exact accepts_done []
      · exact accepts_fail (he e rfl)
  | putAccount | patchAccount | putGroup | setGroupTags =>
    exact (client.accepts_mutate _ _ _).bind fun _ => client.accepts_get _ _
  | changePriorities | deleteAccount | deleteGroup => exact client.accepts_mutate _ _ _

end Client
end AzureProvisioning
