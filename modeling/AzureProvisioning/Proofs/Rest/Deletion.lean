/-
# Deleting through the client

A deletion asks for nothing when the record addresses no object, and deletes the object at one
address otherwise (`runs_exchange_delete_iff`). It takes a missing object for one that is already
gone. The deleting request may end so in two ways, by its own answer and by that to a poll of the
operation it has started; the deletion is a success in both (`runs_delete_done_iff`).
-/

import AzureProvisioning.Proofs.Provider.Steadiness
import AzureProvisioning.Proofs.Rest.Polling

namespace AzureProvisioning

open Program

namespace Client

variable {client : Client}

/-- A call through the client, with a value to end with when the object is missing. -/
theorem exchange_whenMissing (c : Call) (instead : c.Reply) :
    client.exchange ((Operation.request c).whenMissing instead) =
      (client.perform c).whenMissing instead := by
  show (client.answer c).bind _ = (client.answer c).bind _
  congr 1
  funext r
  obtain e | reply := r
  · show Program.answerBy client.answer (if e.isNotFound then .done instead else .fail e) = _
    cases hmissing : e.isNotFound <;> simp [hmissing]
  · rfl

end Client

namespace Provider

/-- The address of the object that a record addresses, if it addresses one. -/
def ManagedType.address? (client : Client) (context : Context) :
    (type : ManagedType) → type.Record → Option String
  | .account, (a : Account) => (a.key? context).map fun key => client.accountAddress key.1 key.2
  | .group, (g : Group) => (g.key? context).map client.groupAddress

variable {client : Client} {context : Context} {type : ManagedType} {record : type.Record}
  {t : Exchanged} {o : Outcome Unit}

/-- A deletion is one request to the address of the object. -/
theorem runs_exchange_delete_iff :
    Runs (client.exchange (Managed.delete context record)) t o ↔
      Runs (match type.address? client context record with
        | none => .done ()
        | some address => (client.mutate .delete address none).whenMissing ()) t o := by
  rw [Client.exchange, ← runs_answerBy_quiet]
  cases type with
  | account =>
    show Runs ((Account.delete context record).quiet.answerBy client.answer) t o ↔ _
    rw [Account.quiet_delete, ManagedType.address?]
    obtain _ | ⟨group, name⟩ := Account.key? context record
    · rfl
    · exact iff_of_eq
        (congrArg (Runs · t o) (Client.exchange_whenMissing (.deleteAccount group name) ()))
  | group =>
    show Runs ((Group.delete context record).quiet.answerBy client.answer) t o ↔ _
    rw [Group.quiet_delete, ManagedType.address?]
    obtain _ | name := Group.key? context record
    · rfl
    · exact iff_of_eq
        (congrArg (Runs · t o) (Client.exchange_whenMissing (.deleteGroup name) ()))

/-- **When a deletion is a success.** The record addresses no object, and nothing is asked; or the
deleting request is answered 404; or it is answered with a success, and the operation that it has
started has ended well, or a poll of that operation is answered 404. -/
theorem runs_delete_done_iff (client : Client) (context : Context) (type : ManagedType)
    (record : type.Record) (t : Exchanged) :
    Runs (client.exchange (Managed.delete context record)) t (.done ()) ↔
      match type.address? client context record with
      | none => t = []
      | some address =>
        (∃ r, client.Answered .delete address none t r ∧ r.status = 404) ∨
        ∃ r sent polls, t = sent ++ polls ∧ client.Answered .delete address none sent r ∧
          Status.isSuccess r.status = true ∧ (client.Ended r polls ∨ client.Vanished r polls) := by
  rw [runs_exchange_delete_iff]
  cases type.address? client context record with
  | none => simp
  | some address =>
    rw [runs_whenMissing_done_iff, Client.runs_mutate_done_iff, Client.endsNotFound_mutate_iff]
    constructor
    · rintro (⟨r, sent, polls, ht, hsent, hstatus, hended⟩ |
        ⟨hgone | ⟨r, sent, polls, ht, hsent, hstatus, hvanished⟩, -⟩)
      · exact .inr ⟨r, sent, polls, ht, hsent, hstatus, .inl hended⟩
      · exact .inl hgone
      · exact .inr ⟨r, sent, polls, ht, hsent, hstatus, .inr hvanished⟩
    · rintro (hgone | ⟨r, sent, polls, ht, hsent, hstatus, hended | hvanished⟩)
      · exact .inr ⟨.inl hgone, rfl⟩
      · exact .inl ⟨r, sent, polls, ht, hsent, hstatus, hended⟩
      · exact .inr ⟨.inr ⟨r, sent, polls, ht, hsent, hstatus, hvanished⟩, rfl⟩

/-- The deletion of a group has been accepted, and the status of its operation is not found: the
deletion is a success. -/
theorem runs_delete_done_iff_vanished :
    let client : Client := ⟨"https://management.azure.com", "sub", "token", 8⟩
    let context : Context := ⟨"sub", "eastus"⟩
    let group : Group := { name := "rg" }
    let status : String := "https://management.azure.com/status"
    let accepted : Response := { status := 202, headers := [("Azure-AsyncOperation", status)] }
    ∃ deletion poll : Request, Runs (client.exchange (group.delete context))
      [⟨deletion, some accepted⟩, ⟨poll, some { status := 404 }⟩] (.done ()) := by
  intro client context group status accepted
  obtain ⟨deletion, hdeletion⟩ : ∃ deletion,
      client.request .delete (client.groupAddress "rg") none = .ok deletion :=
    Client.exists_request (by decide +kernel)
  obtain ⟨poll, hpoll⟩ : ∃ poll, client.request .get status none = .ok poll :=
    Client.exists_request (by decide +kernel)
  have hwatch : accepted.watch? = some (.status status) := by decide +kernel
  have hvanished : client.Vanished accepted [⟨poll, some { status := 404 }⟩] :=
    ⟨.status status, { status := 404 }, hwatch, show 1 ≤ 120 by decide, .last ⟨poll, hpoll, rfl⟩, rfl⟩
  have haddress : ManagedType.group.address? client context group =
      some (client.groupAddress "rg") := by decide +kernel
  refine ⟨deletion, poll, (runs_delete_done_iff client context .group group _).2 ?_⟩
  rw [haddress]
  exact .inr ⟨accepted, [_], [_], rfl, ⟨deletion, hdeletion, rfl⟩, rfl, .inr hvanished⟩

end Provider
end AzureProvisioning
