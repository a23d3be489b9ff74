/-
# Creating through the client

A creation sends the object, waits, and reads it back for the id that the service has given it
(`Assigns`). What it reports comes from one more look, at the object that this id names (`Reports`):
`runs_create_done_iff` says that a creation that succeeds is these two parts, one after the other.

The second part is on its own. The object may be gone when it is looked at, it may have no id by
then, and an id in another subscription is not looked at. The creation is a success all the same,
and reports a resource that does not exist or has no identifier (`create_identified_iff`).
-/

import AzureProvisioning.Proofs.Account.Creation
import AzureProvisioning.Proofs.Rest.Changing
import AzureProvisioning.Proofs.Rest.Deletion

namespace AzureProvisioning

open Program

namespace Client

variable {α β : Type} {client : Client} {read : Json → Option α} {address : String} {t : Exchanged}

theorem exchange_bind (operation : Operation α) (f : α → Operation β) :
    client.exchange (operation.bind f) =
      (client.exchange operation).bind fun a => client.exchange (f a) :=
  answerBy_bind operation f

/-- A call, and what goes on with its reply. -/
theorem exchange_request_bind (c : Call) (f : c.Reply → Operation β) :
    client.exchange ((Operation.request c).bind f) =
      (client.perform c).bind fun reply => client.exchange (f reply) := by
  have hanswer (r : c.Answer) : client.exchange ((ofExcept r : Operation c.Reply).bind f) =
      (ofExcept r : Exchange c.Reply).bind fun reply => client.exchange (f reply) := by
    cases r <;> rfl
  show (client.answer c).bind (fun r => client.exchange ((ofExcept r).bind f)) = _
  simp only [hanswer]
  exact attempt_bind_ofExcept (client.perform c) _

/-- An address is read, or there is nothing. -/
theorem runs_getOptional_done_iff {found : Option α} :
    Runs (client.getOptional read address) t (.done found) ↔
      (client.FoundNothing address t ∧ found = none) ∨
        ∃ a, client.Fetched read address t a ∧ found = some a := by
  rw [getOptional, bind_eq_bind, runs_attempt_bind_done_iff, or_comm]
  refine or_congr ?_ ?_
  · rw [← endsNotFound_sendGet_iff]
    constructor
    · rintro ⟨e, t₁, t₂, rfl, hsent, hrest⟩
      by_cases hmissing : e.isNotFound = true
      · simp only [if_pos hmissing, pure_eq_done, runs_done_iff, Outcome.done.injEq] at hrest
        obtain ⟨rfl, rfl⟩ := hrest
        exact ⟨⟨e, by rwa [List.append_nil], hmissing⟩, rfl⟩
      · simp [if_neg hmissing] at hrest
    · rintro ⟨⟨e, hsent, hmissing⟩, rfl⟩
      exact ⟨e, t, [], (List.append_nil t).symm, hsent, by simp [if_pos hmissing, pure_eq_done]⟩
  · simp only [bind_eq_bind, pure_eq_done, runs_sendGet_done_iff, runs_decode_bind_done_iff,
      runs_done_iff, Outcome.done.injEq]
    constructor
    · rintro ⟨r, t₁, _, rfl, ⟨hanswered, hstatus⟩, a, hread, rfl, rfl⟩
      exact ⟨a, ⟨r, by rwa [List.append_nil], hstatus, hread⟩, rfl⟩
    · rintro ⟨a, ⟨r, hanswered, hstatus, hread⟩, rfl⟩
      exact ⟨r, t, [], (List.append_nil t).symm, ⟨hanswered, hstatus⟩, a, hread, rfl, rfl⟩

end Client

namespace Provider

/-- What the service keeps of the objects of a type. -/
abbrev ManagedType.Wire : ManagedType → Type
  | account => DatabaseAccount
  | group => ResourceGroup

/-- Reads what the service keeps of an object. -/
def ManagedType.readWire : (type : ManagedType) → Json → Option type.Wire
  | account => DatabaseAccount.ofJson?
  | group => ResourceGroup.ofJson?

/-- The id that the service has given an object. -/
def ManagedType.assignedId : (type : ManagedType) → type.Wire → Option String
  | account, (w : DatabaseAccount) => w.id
  | group, (w : ResourceGroup) => w.id

/-- The record with everything that the service keeps of its object. -/
def ManagedType.takeOver : (type : ManagedType) → type.Record → type.Wire → type.Record
  | account, (a : Account), (w : DatabaseAccount) => a.hydrate w
  | group, (g : Group), (w : ResourceGroup) => g.hydrate w

variable {client : Client} {context : Context} {type : ManagedType} {record named : type.Record}
  {id : ResourceId} {resource : Resource} {t : Exchanged} {s : State}

theorem runs_exchange_refresh_done_iff {found : Option type.Record} :
    Runs (client.exchange (Managed.refresh context record)) t (.done found) ↔
      match type.address? client context record with
      | none => t = [] ∧ found = none
      | some address =>
        (client.FoundNothing address t ∧ found = none) ∨
          ∃ w, client.Fetched type.readWire address t w ∧
            found = some (type.takeOver record w) := by
  -- without its log a refresh is one call, or none
  have hquiet : (Managed.refresh context record).quiet.answerBy client.answer =
      match type.address? client context record with
      | none => .done none
      | some address => (client.getOptional type.readWire address).bind fun w =>
          .done (w.map (type.takeOver record)) := by
    cases type with
    | account =>
      show (Account.refresh context record).quiet.answerBy client.answer = _
      rw [Account.quiet_refresh, ManagedType.address?]
      obtain _ | ⟨group, name⟩ := Account.key? context record
      · rfl
      · exact Client.exchange_request_bind (.getAccount group name) _
    | group =>
      show (Group.refresh context record).quiet.answerBy client.answer = _
      rw [Group.quiet_refresh, ManagedType.address?]
      obtain _ | name := Group.key? context record
      · rfl
      · exact Client.exchange_request_bind (.getGroup name) _
  rw [Client.exchange, ← runs_answerBy_quiet, hquiet]
  cases type.address? client context record with
  | none => simp
  | some address =>
    simp only [runs_bind_value_iff, Client.runs_getOptional_done_iff]
    constructor
    · rintro ⟨_, ⟨hnothing, rfl⟩ | ⟨w, hfetched, rfl⟩, rfl⟩
      · exact .inl ⟨hnothing, rfl⟩
      · exact .inr ⟨w, hfetched, rfl⟩
    · rintro (⟨hnothing, rfl⟩ | ⟨w, hfetched, rfl⟩)
      · exact ⟨none, .inl ⟨hnothing, rfl⟩, rfl⟩
      · exact ⟨some w, .inr ⟨w, hfetched, rfl⟩, rfl⟩

/-- A look at the object that a record addresses reports this state. -/
def Reports (client : Client) (context : Context) (type : ManagedType) (id : ResourceId)
    (named : type.Record) (t : Exchanged) (s : State) : Prop :=
  match type.address? client context named with
  | none => t = [] ∧ s = .absent id
  | some address =>
    (client.FoundNothing address t ∧ s = .absent id) ∨
      ∃ w, client.Fetched type.readWire address t w ∧
        s = .present id (type.assignedId w) (Managed.toAttributes (type.takeOver named w))

theorem runs_exchange_refreshed_done_iff :
    Runs (client.exchange (refreshed context id named)) t (.done s) ↔
      Reports client context type id named t s := by
  have hidentifier (w : type.Wire) :
      Managed.identifier? (type.takeOver named w) = type.assignedId w := by
    cases type <;> rfl
  have hrefreshed : client.exchange (refreshed context id named) =
      (client.exchange (Managed.refresh context named)).bind fun found => .done (match found with
        | some a => .present id (Managed.identifier? a) (Managed.toAttributes a)
        | none => .absent id) := by
    rw [refreshed, bind_eq_bind, Client.exchange_bind]
    congr 1
    funext found
    cases found <;> rfl
  rw [hrefreshed, runs_bind_value_iff, Reports]
  simp only [runs_exchange_refresh_done_iff]
  cases type.address? client context named with
  | none =>
    constructor
    · rintro ⟨_, ⟨ht, rfl⟩, hs⟩
      exact ⟨ht, hs⟩
    · rintro ⟨ht, hs⟩
      exact ⟨none, ⟨ht, rfl⟩, hs⟩
  | some address =>
    constructor
    · rintro ⟨_, ⟨hnothing, rfl⟩ | ⟨w, hfetched, rfl⟩, hs⟩
      · exact .inl ⟨hnothing, hs⟩
      · exact .inr ⟨w, hfetched, by rw [← hidentifier]; exact hs⟩
    · rintro (⟨hnothing, hs⟩ | ⟨w, hfetched, hs⟩)
      · exact ⟨none, .inl ⟨hnothing, rfl⟩, hs⟩
      · exact ⟨some _, .inr ⟨w, hfetched, rfl⟩, by rw [hs, ← hidentifier]⟩

/-- The declared object has been created, and its id names this record. -/
def Assigns (client : Client) (context : Context) (type : ManagedType) (resource : Resource)
    (t : Exchanged) (named : type.Record) : Prop :=
  ∃ (declared created : type.Record) (identifier : String),
    type.schema.check resource.attributes = .ok () ∧
    Managed.ofAttributes resource.attributes = .ok declared ∧
    Runs (client.exchange (Managed.create context declared)) t (.done created) ∧
    Managed.identifier? created = some identifier ∧
    Managed.ofIdentifier? identifier = some named

theorem runs_exchange_readAs_done_iff {identifier : String} :
    Runs (client.exchange (readAs type.Record context id (some identifier))) t (.done s) ↔
      ∃ named : type.Record, Managed.ofIdentifier? identifier = some named ∧
        Reports client context type id named t s := by
  rw [readAs_some, addressed]
  cases hnamed : (Managed.ofIdentifier? identifier : Option type.Record) with
  | none =>
    rw [show client.exchange _ = .fail (.fault ("Invalid identifier: " ++ identifier)) from rfl]
    simp
  | some named =>
    show Runs (client.exchange (refreshed context id named)) t (.done s) ↔ _
    rw [runs_exchange_refreshed_done_iff]
    simp

/-- A creation of a resource of a type. -/
theorem runs_exchange_createAs_done_iff :
    Runs (client.exchange (createAs type.Record context resource)) t (.done s) ↔
      ∃ (named : type.Record) (sent last : Exchanged), t = sent ++ last ∧
        Assigns client context type resource sent named ∧
        Reports client context type resource.id named last s := by
  constructor
  · intro h
    by_cases hdecodes : ∃ declared : type.Record,
        (Managed.schema type.Record).check resource.attributes = .ok () ∧
          Managed.ofAttributes resource.attributes = .ok declared
    · obtain ⟨declared, hcheck, hdecoded⟩ := hdecodes
      rw [createAs_of_decoded hcheck hdecoded, Client.exchange_bind, runs_bind_done_iff] at h
      obtain ⟨created, sent, last, rfl, hsent, hlast⟩ := h
      cases hidentifier : Managed.identifier? created with
      | none =>
        rw [reportCreated_of_no_identifier hidentifier] at hlast
        cases hlast
      | some identifier =>
        rw [reportCreated_of_identifier hidentifier] at hlast
        obtain ⟨named, hnamed, hreports⟩ := runs_exchange_readAs_done_iff.1 hlast
        exact ⟨named, sent, last, rfl,
          ⟨declared, created, identifier, hcheck, hdecoded, hsent, hidentifier, hnamed⟩, hreports⟩
    · obtain ⟨e, he⟩ := createAs_of_not_decoded context hdecodes
      rw [Client.exchange, ← runs_answerBy_quiet, he] at h
      cases h
  · rintro ⟨named, sent, last, rfl,
      ⟨declared, created, identifier, hcheck, hdecoded, hsent, hidentifier, hnamed⟩, hreports⟩
    rw [createAs_of_decoded hcheck hdecoded, Client.exchange_bind, runs_bind_done_iff]
    refine ⟨created, sent, last, rfl, hsent, ?_⟩
    rw [reportCreated_of_identifier hidentifier]
    exact runs_exchange_readAs_done_iff.2 ⟨named, hnamed, hreports⟩

/-- **A creation that succeeds** has created the object, and reports what a look at it has found. -/
theorem runs_create_done_iff :
    Runs (client.exchange (create context resource)) t (.done s) ↔
      ∃ (type : ManagedType) (named : type.Record) (sent last : Exchanged),
        ManagedType.ofName? resource.id.type = some type ∧ t = sent ++ last ∧
        Assigns client context type resource sent named ∧
        Reports client context type resource.id named last s := by
  rw [create, dispatch, Client.exchange, runs_answerBy_mapFailure_done_iff]
  cases ManagedType.ofName? resource.id.type with
  | none => simp
  | some type =>
    refine runs_exchange_createAs_done_iff.trans ?_
    simp

/-- The object has been created, and then a look at it has found an object with an id. -/
def Confirmed (client : Client) (context : Context) (resource : Resource) (t : Exchanged) : Prop :=
  ∃ (type : ManagedType) (named : type.Record) (sent last : Exchanged) (address : String)
    (w : type.Wire), ManagedType.ofName? resource.id.type = some type ∧ t = sent ++ last ∧
    Assigns client context type resource sent named ∧
    type.address? client context named = some address ∧
    client.Fetched type.readWire address last w ∧ (type.assignedId w).isSome = true

/-- **What a creation reports exists and has an identifier exactly when** the look at it, after the
creation, has found an object with an id. -/
theorem create_identified_iff (h : Runs (client.exchange (create context resource)) t (.done s)) :
    (s.found = true ∧ s.identifier.isSome = true) ↔ Confirmed client context resource t := by
  constructor
  · rintro ⟨hfound, hidentifier⟩
    obtain ⟨type, named, sent, last, htype, ht, hassigns, hreports⟩ := runs_create_done_iff.1 h
    unfold Reports at hreports
    cases haddress : type.address? client context named with
    | none =>
      rw [haddress] at hreports
      rw [hreports.2] at hfound
      cases hfound
    | some address =>
      rw [haddress] at hreports
      rcases hreports with ⟨-, rfl⟩ | ⟨w, hfetched, rfl⟩
      · cases hfound
      · exact ⟨type, named, sent, last, address, w, htype, ht, hassigns, haddress, hfetched,
          hidentifier⟩
  · rintro ⟨type, named, sent, last, address, w, htype, ht, hassigns, haddress, hfetched, hid⟩
    -- the same exchanges have one end only
    have hreports : Reports client context type resource.id named last
        (.present resource.id (type.assignedId w)
          (Managed.toAttributes (type.takeOver named w))) := by
      unfold Reports
      rw [haddress]
      exact .inr ⟨w, hfetched, rfl⟩
    have hsame := h.unique
      (runs_create_done_iff.2 ⟨type, named, sent, last, htype, ht, hassigns, hreports⟩)
    obtain rfl := Outcome.done.inj hsame
    exact ⟨rfl, hid⟩

/-- A group has been created and read back, and is gone when it is looked at: the creation is a
success, and reports a group that does not exist. -/
theorem create_identified_iff_gone :
    let client : Client := ⟨"https://management.azure.com", "sub", "token", 8⟩
    let context : Context := ⟨"sub", "eastus"⟩
    let resource : Resource := {
      id := ⟨"resource_group", "main"⟩
      attributes := [("name", .string "rg")] }
    let stored : Response := {
      status := 200
      body := "\x7b\"id\": \"/subscriptions/sub/resourceGroups/rg\", \"location\": \"eastus\"\x7d" }
    let replies : Nat → Option Response
      | 0 => some { status := 200 }
      | 1 => some stored
      | _ => some { status := 404 }
    let creation := client.exchange (create context resource)
    ∃ t s, Runs creation t (.done s) ∧ t.length = 3 ∧ s.found = false ∧
      t.map Asked.query = (run (Client.scripted replies) creation 0).asked ∧
      ¬ Confirmed client context resource t := by
  intro client context resource stored replies creation
  obtain ⟨t, hruns, hasked⟩ := exists_runs_run (Client.scripted replies) creation 0
  have habsent :
      (run (Client.scripted replies) creation 0).outcome.satisfies (!·.found) = true := by
    decide +kernel
  have hlength : (run (Client.scripted replies) creation 0).asked.length = 3 := by decide +kernel
  obtain ⟨s, hs, hfound⟩ := Outcome.exists_of_satisfies habsent
  rw [hs] at hruns
  have hfound : s.found = false := by simpa using hfound
  refine ⟨t, s, hruns, ?_, hfound, hasked, fun hconfirmed => ?_⟩
  · rw [← hlength, ← hasked, List.length_map]
  · have := ((create_identified_iff hruns).2 hconfirmed).1
    rw [hfound] at this
    cases this

end Provider
end AzureProvisioning
