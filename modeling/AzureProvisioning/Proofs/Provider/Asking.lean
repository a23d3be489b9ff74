/-
# Which calls are made

Whatever the library offers, the calls that it makes are of few kinds (`Made`): calls that only read,
the one call of a creation, the changes of an update, and the call of a deletion. A call that writes an
account comes from a valid declaration. So what is said of the calls of every operation is said once,
kind by kind (`Offered.made`).
-/

import AzureProvisioning.Proofs.Provider.Contract
import AzureProvisioning.Proofs.Provider.Targets

namespace AzureProvisioning

namespace Program

variable {Query : Type} {Answer : Query → Type} {α : Type} {P Q : Query → Prop}
  {p : Program Query Answer α}

theorem AsksOnly.mono (h : p.AsksOnly P) (hPQ : ∀ q, P q → Q q) : p.AsksOnly Q := by
  induction p with
  | done | fail | unfinished => trivial
  | log entry next ih => exact ih h
  | ask q next ih => exact ⟨hPQ q h.1, fun answer => ih answer (h.2 answer)⟩

theorem AsksOnly.mapFailure (h : p.AsksOnly P) (f : Failure → Failure) :
    (p.mapFailure f).AsksOnly P := by
  induction p with
  | done | fail | unfinished => trivial
  | log entry next ih => exact ih h
  | ask q next ih => exact ⟨h.1, fun answer => ih answer (h.2 answer)⟩

/-- Whoever answers, every question of a run has the property. -/
theorem AsksOnly.of_mem_asked {σ : Type} {answer : (q : Query) → σ → Answer q × σ} {s : σ} {q : Query}
    (h : p.AsksOnly P) (hq : q ∈ (p.run answer s).asked) : P q := by
  induction p generalizing s with
  | done | fail | unfinished => cases hq
  | log entry next ih => exact ih h hq
  | ask q' next ih =>
    obtain rfl | hq := List.mem_cons.1 hq
    · exact h.1
    · exact ih _ (h.2 _) hq

/-- What goes on after a program without such questions adds none. -/
theorem exists_mem_asked_bind_iff {β σ : Type} {f : α → Program Query Answer β}
    (hf : ∀ a, (f a).AsksOnly fun q => ¬ P q) (answer : (q : Query) → σ → Answer q × σ) (s : σ) :
    (∃ q ∈ ((p.bind f).run answer s).asked, P q) ↔ ∃ q ∈ (p.run answer s).asked, P q := by
  rw [run_bind]
  cases ho : (p.run answer s).outcome with
  | done a =>
    rw [Ran.andThen_of_done ho]
    refine ⟨fun ⟨q, hq, hP⟩ => ?_, fun ⟨q, hq, hP⟩ => ⟨q, List.mem_append_left _ hq, hP⟩⟩
    obtain hq | hq := List.mem_append.1 hq
    · exact ⟨q, hq, hP⟩
    · exact absurd hP ((hf a).of_mem_asked hq)
  | failed e => rw [Ran.andThen, ho]
  | unfinished => rw [Ran.andThen, ho]

end Program

namespace Provider

open Program

/-- The calls that the library makes. -/
inductive Made (context : Context) : Call → Prop
  | read (c : Call) (h : c.isMutating = false) : Made context c
  | createAccount {a : Account} {policy : ConsistencyPolicy} {write : String} (kind : AccountKind)
      (h : a.validate = .ok (policy, write)) :
      Made context (.putAccount a.group a.name (a.toRecord context kind policy (write :: a.readRegions)))
  | changeAccount {desired current : Account} {policy : ConsistencyPolicy} {write : String}
      {change : Account.Change} (group name : String) (h : desired.validate = .ok (policy, write))
      (hchange : change ∈ Account.changes desired current policy write) :
      Made context (change.call group name)
  | deleteAccount (group name : String) : Made context (.deleteAccount group name)
  | createGroup (g : Group) :
      Made context (.putGroup g.name { location := g.location.getD context.region, tags := g.tags })
  | changeGroup (name : String) (tags : Dictionary String String) :
      Made context (.setGroupTags name tags)
  | deleteGroup (name : String) : Made context (.deleteGroup name)

variable {context : Context} {type : ManagedType} {α : Type} {p : Operation α}

section Records

theorem asksOnly_ofCheck_bind {β : Type} {P : Call → Prop} {check : Except ConfigurationError β}
    {f : β → Operation α} (h : ∀ b, check = .ok b → (f b).AsksOnly P) :
    ((ofCheck check).bind f).AsksOnly P := by
  cases check with
  | ok b => exact h b rfl
  | error e => trivial

/-- The operation makes no call that may change an object. -/
def OnlyReads (p : Operation α) : Prop :=
  p.AsksOnly fun c => c.isMutating = false

theorem OnlyReads.made (h : OnlyReads p) : p.AsksOnly (Made context) :=
  h.mono .read

theorem onlyReads_request {c : Call} (h : c.isMutating = false) : OnlyReads (Operation.request c) :=
  asksOnly_request h

theorem onlyReads_refresh (record : type.Record) :
    OnlyReads (Managed.refresh context record : Operation (Option type.Record)) := by
  rw [OnlyReads, ← asksOnly_quiet_iff]
  cases type with
  | account =>
    show (Account.refresh context record).quiet.AsksOnly _
    rw [Account.quiet_refresh]
    cases Account.key? context record with
    | none => trivial
    | some key => exact AsksOnly.bind (onlyReads_request rfl) fun _ => trivial
  | group =>
    show (Group.refresh context record).quiet.AsksOnly _
    rw [Group.quiet_refresh]
    cases Group.key? context record with
    | none => trivial
    | some name => exact AsksOnly.bind (onlyReads_request rfl) fun _ => trivial

theorem made_create (record : type.Record) :
    (Managed.create context record : Operation type.Record).AsksOnly (Made context) := by
  rw [← asksOnly_quiet_iff]
  cases type with
  | account =>
    show (Account.create context record).quiet.AsksOnly _
    rw [Account.quiet_create]
    cases Account.kind record with
    | none => trivial
    | some kind =>
      exact asksOnly_ofCheck_bind fun checked hvalid =>
        (asksOnly_request (.createAccount kind hvalid)).bind fun _ => trivial
  | group =>
    show (Group.create context record).quiet.AsksOnly _
    rw [Group.quiet_create]
    cases GroupName.check (.string (Group.name record)) with
    | error detail => trivial
    | ok => exact (asksOnly_request (.createGroup record)).bind fun _ => trivial

theorem made_update (desired current : type.Record) (changed : List String) :
    (Managed.update context desired current changed).AsksOnly (Made context) := by
  rw [← asksOnly_quiet_iff]
  cases type with
  | account =>
    show (Account.update context desired current changed).quiet.AsksOnly _
    rw [Account.quiet_update]
    split
    · trivial
    · refine asksOnly_ofCheck_bind fun checked hvalid => ?_
      cases Account.key? context current with
      | none => trivial
      | some key =>
        refine asksOnly_inOrder fun c hc => ?_
        obtain ⟨change, hchange, rfl⟩ := List.mem_map.1 hc
        exact .changeAccount key.1 key.2 hvalid hchange
  | group =>
    show (Group.update context desired current changed).quiet.AsksOnly _
    rw [Group.quiet_update]
    split
    · cases Group.key? context current with
      | none => trivial
      | some name => exact (asksOnly_request (.changeGroup name _)).bind fun _ => trivial
    · trivial

theorem made_delete (record : type.Record) :
    (Managed.delete context record).AsksOnly (Made context) := by
  rw [← asksOnly_quiet_iff]
  cases type with
  | account =>
    show (Account.delete context record).quiet.AsksOnly _
    rw [Account.quiet_delete]
    cases Account.key? context record with
    | none => trivial
    | some key => exact asksOnly_whenMissing (asksOnly_request (.deleteAccount key.1 key.2)) _
  | group =>
    show (Group.delete context record).quiet.AsksOnly _
    rw [Group.quiet_delete]
    cases Group.key? context record with
    | none => trivial
    | some name => exact asksOnly_whenMissing (asksOnly_request (.deleteGroup name)) _

end Records

section Requests

variable {id : ResourceId} {P : Call → Prop}

/-- The operations on the records of every type make such calls only. -/
structure RecordsAsk (context : Context) (P : Call → Prop) : Prop where
  refresh {type : ManagedType} (record : type.Record) :
    (Managed.refresh context record : Operation (Option type.Record)).AsksOnly P
  create {type : ManagedType} (record : type.Record) :
    (Managed.create context record : Operation type.Record).AsksOnly P
  update {type : ManagedType} (desired current : type.Record) (changed : List String) :
    (Managed.update context desired current changed).AsksOnly P
  delete {type : ManagedType} (record : type.Record) : (Managed.delete context record).AsksOnly P

theorem recordsAsk_made (context : Context) : RecordsAsk context (Made context) :=
  ⟨fun record => (onlyReads_refresh record).made, made_create, made_update, made_delete⟩

/-- What an operation reports at its end it asks for by a refresh. -/
theorem asksOnly_reported
    (h : ∀ record : type.Record,
      (Managed.refresh context record : Operation (Option type.Record)).AsksOnly P)
    (id : ResourceId) (identifier : String) :
    ((addressed type.Record identifier).bind (refreshed context id)).AsksOnly P := by
  rw [addressed]
  cases (Managed.ofIdentifier? identifier : Option type.Record) with
  | none => trivial
  | some record => exact (h record).bind fun found => by cases found <;> trivial

theorem onlyReads_reported (type : ManagedType) (context : Context) (id : ResourceId)
    (identifier : String) :
    OnlyReads ((addressed type.Record identifier).bind (refreshed context id)) :=
  asksOnly_reported onlyReads_refresh id identifier

theorem asksOnly_dispatch {β : Type} {operation : ManagedType → Operation β}
    (h : ∀ type, (operation type).AsksOnly P) (id : ResourceId) :
    (dispatch id operation).AsksOnly P := by
  refine AsksOnly.mapFailure ?_ _
  split
  · exact h _
  · trivial

/-- The operations of the provider ask what those on records ask. -/
theorem Requested.asksOnly (h : Requested context id p) (hrecords : RecordsAsk context P) :
    p.AsksOnly P := by
  cases h with
  | read id identifier =>
    refine asksOnly_dispatch (fun type => ?_) id
    cases identifier with
    | none => trivial
    | some identifier => exact asksOnly_reported hrecords.refresh id identifier
  | create resource =>
    refine asksOnly_dispatch (fun type => ?_) resource.id
    refine (asksOnly_ofCheck _).bind fun _ => (asksOnly_ofCheck _).bind fun declared => ?_
    refine (hrecords.create declared).bind fun created => ?_
    split
    · exact asksOnly_reported hrecords.refresh resource.id _
    · trivial
  | update id identifier current declared =>
    refine asksOnly_dispatch (fun type => ?_) id
    cases hprepare : prepare type.Record identifier current declared with
    | error e =>
      rw [updateAs_of_error id hprepare]
      trivial
    | ok prepared =>
      rw [updateAs_of_prepare id hprepare]
      refine AsksOnly.bind ?_ fun _ => asksOnly_reported hrecords.refresh id identifier
      split
      · trivial
      · exact hrecords.update prepared.desired prepared.last prepared.changed
  | delete id identifier =>
    refine asksOnly_dispatch (fun type => ?_) id
    rw [deleteAs, addressed]
    cases (Managed.ofIdentifier? identifier : Option type.Record) with
    | none => trivial
    | some record => exact hrecords.delete record

end Requests

section Queries

theorem asksOnly_notes (P : Call → Prop) (entries : List LogEntry) :
    (notes entries : Operation Unit).AsksOnly P := by
  induction entries with
  | nil => trivial
  | cons entry entries ih => exact ih

theorem onlyReads_takeOverAll (records : List DatabaseAccount) :
    OnlyReads (Account.takeOverAll records) := by
  induction records with
  | nil => trivial
  | cons record records ih =>
    refine AsksOnly.bind ?_ fun a => ih.bind fun _ => trivial
    exact (asksOnly_notes _ _).bind fun _ => trivial

theorem onlyReads_candidates (filters : Filters) :
    OnlyReads (Account.candidates context filters) := by
  unfold Account.candidates
  split
  · split
    · split
      · exact AsksOnly.bind (onlyReads_request rfl) fun _ => trivial
      · trivial
    · trivial
  · exact onlyReads_request rfl
  · exact onlyReads_request rfl

theorem onlyReads_findAllAccounts : OnlyReads Account.findAll :=
  AsksOnly.bind (onlyReads_request rfl) onlyReads_takeOverAll

theorem onlyReads_findAccounts (filters : Filters) : OnlyReads (Account.find context filters) := by
  refine (asksOnly_ofCheck _).bind fun _ => ?_
  split
  · exact onlyReads_findAllAccounts
  · exact (onlyReads_candidates filters).bind fun records =>
      (onlyReads_takeOverAll records).bind fun _ => trivial

theorem onlyReads_findNamed (name : String) : OnlyReads (Group.findNamed name) :=
  AsksOnly.bind (onlyReads_request rfl) fun _ => trivial

theorem onlyReads_findAllGroups : OnlyReads Group.findAll :=
  AsksOnly.bind (onlyReads_request rfl) fun _ => trivial

theorem onlyReads_findGroups (filters : Filters) : OnlyReads (Group.find context filters) := by
  refine (asksOnly_ofCheck _).bind fun _ => ?_
  split
  · split
    · split
      · exact onlyReads_findNamed _
      · trivial
    · trivial
  · exact onlyReads_findNamed _
  · exact onlyReads_findAllGroups

end Queries

/-- **Whatever the library offers makes no other calls.** -/
theorem Offered.made (h : Offered context p) : p.AsksOnly (Made context) := by
  cases h with
  | provider h => exact h.asksOnly (recordsAsk_made context)
  | refresh record => exact (onlyReads_refresh record).made
  | create record => exact made_create record
  | update desired current changed => exact made_update desired current changed
  | delete record => exact made_delete record
  | findAllAccounts => exact onlyReads_findAllAccounts.made
  | findAccounts filters => exact (onlyReads_findAccounts filters).made
  | findAllGroups => exact onlyReads_findAllGroups.made
  | findGroups filters => exact (onlyReads_findGroups filters).made

end Provider
end AzureProvisioning
