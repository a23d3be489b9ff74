/-
# How operations fail

Every operation that the library offers (`Offered`) is orderly: what it refuses it refuses before
any call, and after a call that has failed there is none. The operations of the provider name the
resource of the request in every failure. A revision says what becomes of the record that a caller holds,
on the paths that fail too: it changes by what the service has answered alone (`runs_refreshing`,
`runs_creating`). All of this is `operations_contract`.
-/

import AzureProvisioning.Account.Finder
import AzureProvisioning.Group.Finder
import AzureProvisioning.Proofs.Rest.Creation

namespace AzureProvisioning

open Program

namespace Account

variable {context : Context}

theorem strict_takeOverAll (records : List DatabaseAccount) : Strict (takeOverAll records) := by
  induction records with
  | nil => exact strict_done []
  | cons record records ih =>
    refine Strict.bind ?_ fun a => ih.bind fun as => strict_done (a :: as)
    exact (strict_notes _).bind fun _ => strict_done _

theorem strict_findAll : Strict findAll :=
  (strict_request .listAccounts).bind strict_takeOverAll

theorem strict_candidates (filters : Filters) : Strict (candidates context filters) := by
  unfold candidates
  split
  · split
    · split
      · exact (strict_request (.getAccount _ _)).bind fun _ => strict_done _
      · exact strict_done []
    · exact strict_done []
  · exact strict_request (.listAccountsIn _)
  · exact strict_request .listAccounts

theorem prompt_find (filters : Filters) : Prompt (find context filters) := by
  unfold find
  cases filters.checkKeys filterKeys with
  | error e => exact .inl ⟨_, rfl⟩
  | ok keys =>
    refine .inr ?_
    show Strict (if filters.isEmpty then findAll else _)
    split
    · exact strict_findAll
    · refine (strict_candidates filters).bind fun records => ?_
      exact (strict_note _ _).bind fun _ => (strict_takeOverAll records).bind fun _ => strict_done _

end Account

namespace Group

variable {context : Context}

theorem strict_findAll : Strict findAll :=
  (strict_request .listGroups).bind fun _ => strict_done _

theorem strict_findNamed (name : String) : Strict (findNamed name) :=
  (strict_request (.getGroup name)).bind fun _ => strict_done _

theorem prompt_find (filters : Filters) : Prompt (find context filters) := by
  unfold find
  cases filters.checkKeys filterKeys with
  | error e => exact .inl ⟨_, rfl⟩
  | ok keys =>
    refine .inr ((strict_done ()).bind fun _ => ?_)
    split
    · split
      · split
        · exact strict_findNamed _
        · exact strict_done []
      · exact strict_done []
    · exact strict_findNamed _
    · exact strict_findAll

end Group

namespace Provider

variable {context : Context} {type : ManagedType}

/-- The operations of the provider on a resource. -/
inductive Requested (context : Context) : ResourceId → {α : Type} → Operation α → Prop
  | read (id : ResourceId) (identifier : Option String) :
      Requested context id (read context id identifier)
  | create (resource : Resource) : Requested context resource.id (create context resource)
  | update (id : ResourceId) (identifier : String) (current : State) (declared : Resource) :
      Requested context id (update context id identifier current declared)
  | delete (id : ResourceId) (identifier : String) :
      Requested context id (delete context id identifier)

/-- The operations that the library offers: those of the provider, those on a record of a registered
type, and the queries. -/
inductive Offered (context : Context) : {α : Type} → Operation α → Prop
  | provider {id : ResourceId} {α : Type} {p : Operation α} (h : Requested context id p) :
      Offered context p
  | refresh {type : ManagedType} (record : type.Record) :
      Offered context (Managed.refresh context record)
  | create {type : ManagedType} (record : type.Record) :
      Offered context (Managed.create context record)
  | update {type : ManagedType} (desired current : type.Record) (changed : List String) :
      Offered context (Managed.update context desired current changed)
  | delete {type : ManagedType} (record : type.Record) :
      Offered context (Managed.delete context record)
  | findAllAccounts : Offered context Account.findAll
  | findAccounts (filters : Filters) : Offered context (Account.find context filters)
  | findAllGroups : Offered context Group.findAll
  | findGroups (filters : Filters) : Offered context (Group.find context filters)

variable {α : Type} {p : Operation α} {id : ResourceId} {t : Called}

theorem Requested.orderly (h : Requested context id p) : Orderly p := by
  cases h with
  | read id identifier =>
    exact orderly_dispatch (fun _ => .inr (strict_readAs id identifier).toSteady) id
  | create resource =>
    exact orderly_dispatch (fun _ => (prompt_createAs resource).orderly) resource.id
  | update id identifier current declared =>
    exact orderly_dispatch (fun _ => (prompt_updateAs id identifier current declared).orderly) id
  | delete id identifier => exact orderly_dispatch (fun _ => .inr (steady_deleteAs identifier)) id

theorem Offered.orderly (h : Offered context p) : Orderly p := by
  cases h with
  | provider h => exact h.orderly
  | refresh record => exact .inr (ManagedType.strict_refresh record).toSteady
  | create record => exact (ManagedType.prompt_create record).orderly
  | update desired current changed =>
    exact (ManagedType.prompt_update desired current changed).orderly
  | delete record => exact .inr (ManagedType.steady_delete record)
  | findAllAccounts => exact .inr Account.strict_findAll.toSteady
  | findAccounts filters => exact (Account.prompt_find filters).orderly
  | findAllGroups => exact .inr Group.strict_findAll.toSteady
  | findGroups filters => exact (Group.prompt_find filters).orderly

/-- **A failure of the provider names the resource of the request.** -/
theorem Requested.resource_eq (h : Requested context id p) {e : Failure}
    (hruns : Runs p t (.failed e)) : e.resource = some id := by
  have hdispatch {β : Type} {operation : ManagedType → Operation β} {id : ResourceId}
      (hruns : Runs (dispatch id operation) t (.failed e)) : e.resource = some id := by
    obtain ⟨o, -, hfailed⟩ := exists_runs_of_mapFailure hruns
    obtain ⟨e', -, rfl⟩ := hfailed e rfl
    rfl
  cases h with
  | read | create | update | delete => exact hdispatch hruns

/-- The one call is a look at the object, and has found this. -/
def ManagedType.Found : (type : ManagedType) → Called → type.Wire → Prop
  | account, t, w => ∃ group name, t = [⟨.getAccount group name, .ok (some w)⟩]
  | group, t, w => ∃ name, t = [⟨.getGroup name, .ok (some w)⟩]

/-- The one call writes the object, and has stored this. -/
def ManagedType.Stored : (type : ManagedType) → Called → type.Wire → Prop
  | account, t, w => ∃ group name object, t = [⟨.putAccount group name object, .ok w⟩]
  | group, t, w => ∃ name object, t = [⟨.putGroup name object, .ok w⟩]

/-- The record with the fields that the service has assigned to a new object. -/
def ManagedType.assign : (type : ManagedType) → type.Record → type.Wire → type.Record
  | account, (a : Account), (w : DatabaseAccount) =>
    { a with
      id := w.id
      documentEndpoint := w.properties.documentEndpoint
      provisioningState := w.properties.provisioningState }
  | group, (g : Group), (w : ResourceGroup) =>
    { g with id := w.id, provisioningState := Group.stateOf? w }

/-- **What a refresh leaves.** The record is as it was, unless the refresh returns true: then it has taken
over what its one call has found. -/
theorem ManagedType.runs_refreshing {record : type.Record} {o : Outcome (Except Failure Bool × type.Record)}
    (h : Runs (Managed.refreshing context record) t o) :
    (∃ result, result ≠ .ok true ∧ o = .done (result, record)) ∨
      ∃ w, type.Found t w ∧ o = .done (.ok true, type.takeOver record w) := by
  rw [← runs_quiet_iff] at h
  cases type with
  | account =>
    change Runs (Account.refreshing context record).quiet t o at h
    rw [Account.quiet_refreshing] at h
    cases hkey : Account.key? context record with
    | none =>
      rw [hkey] at h
      exact .inl ⟨.ok false, by simp, (runs_done_iff.1 h).2⟩
    | some key =>
      rw [hkey] at h
      obtain ⟨reply, t', rfl, hrest⟩ := runs_ask_iff.1 h
      rcases reply with e | _ | w <;> obtain ⟨rfl, rfl⟩ := runs_done_iff.1 hrest
      · exact .inl ⟨.error e, nofun, rfl⟩
      · exact .inl ⟨.ok false, by simp, rfl⟩
      · exact .inr ⟨w, ⟨_, _, rfl⟩, rfl⟩
  | group =>
    change Runs (Group.refreshing context record).quiet t o at h
    rw [Group.quiet_refreshing] at h
    cases hkey : Group.key? context record with
    | none =>
      rw [hkey] at h
      exact .inl ⟨.ok false, by simp, (runs_done_iff.1 h).2⟩
    | some name =>
      rw [hkey] at h
      obtain ⟨reply, t', rfl, hrest⟩ := runs_ask_iff.1 h
      rcases reply with e | _ | w <;> obtain ⟨rfl, rfl⟩ := runs_done_iff.1 hrest
      · exact .inl ⟨.error e, nofun, rfl⟩
      · exact .inl ⟨.ok false, by simp, rfl⟩
      · exact .inr ⟨w, ⟨_, rfl⟩, rfl⟩

/-- So a refresh that reports a record has taken over what its call has found. -/
theorem ManagedType.exists_found {record after : type.Record}
    (h : Runs (Managed.refresh context record) t (.done (some after))) :
    ∃ w, type.Found t w ∧ after = type.takeOver record w := by
  obtain ⟨⟨result, held⟩, t₁, t₂, rfl, hrefreshing, hreport⟩ := runs_bind_done_iff.1 h
  obtain ⟨result', hne, ho⟩ | ⟨w, hfound, ho⟩ := ManagedType.runs_refreshing hrefreshing
  · obtain ⟨rfl, rfl⟩ := Prod.mk.inj (Outcome.done.inj ho)
    rcases result with e | _ | _
    · cases hreport
    · cases hreport
    · exact absurd rfl hne
  · obtain ⟨rfl, rfl⟩ := Prod.mk.inj (Outcome.done.inj ho)
    obtain ⟨rfl, hafter⟩ := runs_done_iff.1 hreport
    exact ⟨w, by rwa [List.append_nil], Option.some.inj (Outcome.done.inj hafter)⟩

/-- **What a creation leaves.** The record is as it was when the creation fails; else it has taken over what
its one call has assigned. -/
theorem ManagedType.runs_creating {record : type.Record} {o : Outcome (Except Failure Unit × type.Record)}
    (h : Runs (Managed.creating context record) t o) :
    (∃ e, o = .done (.error e, record)) ∨
      ∃ w, type.Stored t w ∧ o = .done (.ok (), type.assign record w) := by
  rw [← runs_quiet_iff] at h
  cases type with
  | account =>
    change Runs (Account.creating context record).quiet t o at h
    rw [Account.quiet_creating] at h
    cases hkind : Account.kind record with
    | none =>
      rw [hkind] at h
      exact .inl ⟨_, (runs_done_iff.1 h).2⟩
    | some kind =>
      rw [hkind] at h
      cases hvalid : Account.validate record with
      | error e =>
        rw [hvalid] at h
        exact .inl ⟨_, (runs_done_iff.1 h).2⟩
      | ok checked =>
        rw [hvalid] at h
        obtain ⟨reply, t', rfl, hrest⟩ := runs_ask_iff.1 h
        rcases reply with e | w <;> obtain ⟨rfl, rfl⟩ := runs_done_iff.1 hrest
        · exact .inl ⟨e, rfl⟩
        · exact .inr ⟨w, ⟨_, _, _, rfl⟩, by rw [assign, hkind]⟩
  | group =>
    change Runs (Group.creating context record).quiet t o at h
    rw [Group.quiet_creating] at h
    cases hvalid : GroupName.check (.string (Group.name record)) with
    | error detail =>
      rw [hvalid] at h
      exact .inl ⟨_, (runs_done_iff.1 h).2⟩
    | ok _ =>
      rw [hvalid] at h
      obtain ⟨reply, t', rfl, hrest⟩ := runs_ask_iff.1 h
      rcases reply with e | w <;> obtain ⟨rfl, rfl⟩ := runs_done_iff.1 hrest
      · exact .inl ⟨e, rfl⟩
      · exact .inr ⟨w, ⟨_, _, rfl⟩, rfl⟩

/-- **What every operation keeps to**, whoever answers its calls, as long as no answer is a defect of
the declaration; that is so of every run on an impartial service, such as the one in memory, and of
every exchange with the resource manager. What is refused is refused before any call, and no call
follows one that has failed. A failure of the provider names the resource of the request. And the
record that a caller holds is left as it was by a refresh that fails or returns false, and by a creation
that fails; else it has taken over what the one call has answered. -/
theorem operations_contract (context : Context) :
    Impartial Memory.answer ∧
    (∀ {α σ : Type} (p : Operation α) {answer : (c : Call) → σ → c.Answer × σ} (s : σ),
      Impartial answer → ∃ t : Called, Runs p t (p.run answer s).outcome ∧
        t.map Asked.query = (p.run answer s).asked ∧ ∀ call ∈ t, call.Fair) ∧
    (∀ {α : Type} (p : Operation α) (client : Client) (t' : Exchanged) (o : Outcome α),
      Runs (client.exchange p) t' o → o ≠ .unfinished → ∃ t : Called,
        Runs p t o ∧ client.Exchanges t t' ∧ ∀ call ∈ t, call.Fair) ∧
    (∀ {α : Type} {p : Operation α}, Offered context p → ∀ (t : Called) (o : Outcome α),
      (∀ call ∈ t, call.Fair) → Runs p t o → (o.refused = true → t = []) ∧ Halts t) ∧
    (∀ {α : Type} {p : Operation α} (id : ResourceId), Requested context id p →
      ∀ (t : Called) (e : Failure), Runs p t (.failed e) → e.resource = some id) ∧
    (∀ (type : ManagedType) (record : type.Record) (t : Called)
      (o : Outcome (Except Failure Bool × type.Record)), Runs (Managed.refreshing context record) t o →
        (∃ result, result ≠ .ok true ∧ o = .done (result, record)) ∨
          ∃ w, type.Found t w ∧ o = .done (.ok true, type.takeOver record w)) ∧
    (∀ (type : ManagedType) (record : type.Record) (t : Called)
      (o : Outcome (Except Failure Unit × type.Record)), Runs (Managed.creating context record) t o →
        (∃ e, o = .done (.error e, record)) ∨
          ∃ w, type.Stored t w ∧ o = .done (.ok (), type.assign record w)) :=
  ⟨Memory.impartial_answer, fun p _ s himpartial => exists_fair_runs_run himpartial p s,
    fun _ _ _ _ => Client.exists_fair_runs_exchange,
    fun hoffered _ _ => hoffered.orderly.refused_halts, fun _ h _ _ => h.resource_eq,
    fun _ _ _ _ => ManagedType.runs_refreshing, fun _ _ _ _ => ManagedType.runs_creating⟩

/-- The call of a read fails: it is the only one, and the failure names the resource. -/
theorem operations_contract_failing :
    let context : Context := ⟨"sub", "eastus"⟩
    let id : ResourceId := ⟨"resource_group", "main"⟩
    let reading := read context id (some (Memory.groupId "rg"))
    let ran := Memory.run reading { failing := ["get_resource_group"] }
    ran.asked = [.getGroup "rg"] ∧ ∃ (t : Called) (e : Failure),
      ran.outcome = .failed e ∧ t.map Asked.query = ran.asked ∧ Halts t ∧ e.resource = some id := by
  intro context id reading ran
  have hasked : ran.asked = [.getGroup "rg"] := by decide +kernel
  obtain ⟨e, he⟩ : ∃ e, ran.outcome = .failed e := Outcome.exists_of_hasFailed (by decide +kernel)
  obtain ⟨hmemory, himpartial, -, hoffered, hrequested, -⟩ := operations_contract context
  obtain ⟨t, hruns, hqueries, hfair⟩ :=
    himpartial reading ({ failing := ["get_resource_group"] } : Memory) hmemory
  change Runs reading t ran.outcome at hruns
  rw [he] at hruns
  have hread : Requested context id reading := .read id _
  exact ⟨hasked, t, e, he, hqueries, (hoffered (.provider hread) t _ hfair hruns).2,
    hrequested id hread t e hruns⟩

end Provider
end AzureProvisioning
