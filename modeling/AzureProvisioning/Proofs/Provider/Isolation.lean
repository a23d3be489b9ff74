/-
# Other subscriptions

A context makes its calls in one subscription, and the calls do not say which one the id of an object
was in. An id of another subscription is therefore never looked up: a record with such an id
addresses no object (`Account.key?_of_foreign`, `Group.key?_of_foreign`), and every route from an
identifier or a filter to a call goes through that record or asks for the subscription itself.

So such an id leads to no call at all (`other_subscription_out_of_reach`). The resource is absent, there
is nothing to delete and nothing to be found, and an update is refused, misses its object or reports
that it is absent.
-/

import AzureProvisioning.Account.Finder
import AzureProvisioning.Group.Finder
import AzureProvisioning.Proofs.Provider.Steadiness

namespace AzureProvisioning

open Program

namespace Program

variable {Query : Type} {Answer : Query → Type} {α σ : Type} {p : Program Query Answer α}
  (answer : (q : Query) → σ → Answer q × σ) (s : σ)

theorem run_of_quiet_eq_done {a : α} (h : p.quiet = done a) :
    (p.run answer s).outcome = .done a ∧ (p.run answer s).asked = [] := by
  rw [← run_outcome_quiet, ← run_asked_quiet, h]
  exact ⟨rfl, rfl⟩

theorem run_of_quiet_eq_fail {e : Failure} (h : p.quiet = fail e) :
    (p.run answer s).outcome = .failed e ∧ (p.run answer s).asked = [] := by
  rw [← run_outcome_quiet, ← run_asked_quiet, h]
  exact ⟨rfl, rfl⟩

end Program

/-- An empty text is no id. -/
theorem ArmId.ne_empty_of_parse? {s : String} {id : ArmId} (h : parse? s = some id) : s ≠ "" := by
  rintro rfl
  have hnone : parse? "" = none := by decide
  exact nomatch hnone.symm.trans h

namespace Account

variable {context : Context} {a : Account} {identifier : String} {id : ArmId}

/-- An account with an id of another subscription addresses nothing. -/
theorem key?_of_foreign (hid : a.id = some identifier) (hparse : ArmId.parse? identifier = some id)
    (htype : id.isType armType = true) (howns : context.owns id = false) :
    a.key? context = none := by
  rw [key?_of_parse? context hid hparse htype, howns]
  rfl

/-- A query for it matches nothing. -/
theorem find_of_foreign {filters : Filters} (hfilter : filters.get? "id" = some identifier)
    (hparse : ArmId.parse? identifier = some id) (howns : context.owns id = false)
    (hkeys : filters.checkKeys filterKeys = .ok ()) : (find context filters).quiet = .done [] := by
  have hsome : filters.isEmpty = false := by
    cases filters with
    | nil => cases hfilter
    | cons => rfl
  have hnone : candidates context filters = .done [] := by
    rw [candidates, hfilter]
    simp only [hparse, howns, Bool.and_false, Bool.false_eq_true, if_false]
    rfl
  unfold find
  simp only [hkeys, hsome, hnone, Bool.false_eq_true, if_false]
  rfl

end Account

namespace Group

variable {context : Context} {g : Group} {identifier : String} {id : ArmId}

/-- A group with an id of another subscription addresses nothing. -/
theorem key?_of_foreign (hid : g.id = some identifier) (hparse : ArmId.parse? identifier = some id)
    (hmember : id.member?.isNone = true) (howns : context.owns id = false) :
    g.key? context = none := by
  rw [key?_of_parse? context hid hparse hmember, howns]
  rfl

/-- A query for it matches nothing. -/
theorem find_of_foreign {filters : Filters} (hfilter : filters.get? "id" = some identifier)
    (hparse : ArmId.parse? identifier = some id) (howns : context.owns id = false)
    (hkeys : filters.checkKeys filterKeys = .ok ()) : (find context filters).quiet = .done [] := by
  unfold find
  simp only [hkeys, hfilter, hparse, howns, Bool.and_false, Bool.false_and, Bool.false_eq_true,
    if_false]
  rfl

end Group

namespace Provider

/-- The id names an object of the type. -/
def ManagedType.names : ManagedType → ArmId → Bool
  | account, id => id.isType Account.armType
  | group, id => id.member?.isNone

/-- The identifier is the id of an object of the type, in another subscription than that of the
context. The case of letters does not count. -/
def ManagedType.Foreign (type : ManagedType) (context : Context) (identifier : String) : Prop :=
  ∃ id, ArmId.parse? identifier = some id ∧ type.names id = true ∧
    Text.foldCase id.subscription ≠ Text.foldCase context.subscription

/-- The query for the objects of the type. -/
def ManagedType.find : (type : ManagedType) → Context → Filters → Operation (List type.Record)
  | account => Account.find
  | group => Group.find

/-- The keys that a query for objects of the type may filter by. -/
def ManagedType.filterKeys : ManagedType → List String
  | account => Account.filterKeys
  | group => Group.filterKeys

/-- The failure of an update that addresses no object: a defect of the declaration, or a missing
object. -/
def Refuses (e : Failure) : Prop :=
  e.defect?.isSome = true ∨ e.isNotFound = true

theorem refuses_ofConfiguration (defect : ConfigurationError) :
    Refuses (.ofConfiguration defect) := .inl rfl

theorem refuses_notFound (detail : String) : Refuses (.notFound detail) := .inr rfl

theorem Refuses.forResource {e : Failure} (h : Refuses e) (id : ResourceId) :
    Refuses (e.forResource id) := h

variable {type : ManagedType} {context : Context} {identifier : String} {record : type.Record}
  {current : State} {declared : Resource}

namespace ManagedType

theorem Foreign.exists_parse? (h : type.Foreign context identifier) :
    ∃ id, ArmId.parse? identifier = some id ∧ type.names id = true ∧ context.owns id = false := by
  obtain ⟨id, hparse, hnames, hne⟩ := h
  exact ⟨id, hparse, hnames, Bool.eq_false_iff.2 fun howns => hne (Text.sameFolded_iff.1 howns)⟩

theorem Foreign.ne_empty (h : type.Foreign context identifier) : identifier ≠ "" := by
  obtain ⟨_, hparse, -⟩ := h
  exact ArmId.ne_empty_of_parse? hparse

/-- An id of the type names a record, which has it as its id. -/
theorem exists_ofIdentifier?_of_names {id : ArmId} (hparse : ArmId.parse? identifier = some id)
    (hnames : type.names id = true) :
    ∃ record : type.Record, Managed.ofIdentifier? identifier = some record ∧
      Managed.identifier? record = some identifier := by
  cases type with
  | account =>
    refine ⟨{ name := id.name, group := id.group, id := some identifier }, ?_, rfl⟩
    show Account.ofIdentifier? identifier = _
    rw [Account.ofIdentifier?, hparse]
    exact if_pos hnames
  | group =>
    refine ⟨{ name := id.group, id := some identifier }, ?_, rfl⟩
    show Group.ofIdentifier? identifier = _
    rw [Group.ofIdentifier?, hparse]
    exact if_pos hnames

/-- Such an identifier still names a record. -/
theorem Foreign.exists_ofIdentifier? (h : type.Foreign context identifier) :
    ∃ record : type.Record, Managed.ofIdentifier? identifier = some record ∧
      Managed.identifier? record = some identifier := by
  obtain ⟨id, hparse, hnames, -⟩ := h
  exact exists_ofIdentifier?_of_names hparse hnames

/-- An update takes the last known record with the identifier of the request as its id. -/
theorem identifier?_last {p : Preparation type.Record} (hne : identifier ≠ "")
    (hprepare : prepare type.Record identifier current declared = .ok p) :
    Managed.identifier? p.last = some identifier := by
  obtain ⟨-, -, hlast, -⟩ := prepare_eq_ok_iff.1 hprepare
  have hread (o : Option String) (h : Attributes.optionalString
      (Dictionary.insert current.attributes "id" (.string identifier)) "id" = .ok o) :
      o = some identifier := by
    rw [Attributes.optionalString_insert] at h
    simpa [hne] using (Except.ok.inj h).symm
  cases type with
  | account => exact hread _ (Account.ofAttributes_eq_ok_iff.1 hlast).id
  | group => exact hread _ (Group.ofAttributes_eq_ok_iff.1 hlast).id

/-- The record addresses no object that the context can reach. -/
def Unaddressed (context : Context) : (type : ManagedType) → type.Record → Prop
  | account, (a : Account) => a.key? context = none
  | group, (g : Group) => g.key? context = none

section Record

variable (h : type.Unaddressed context record)
include h

theorem refresh_of_unaddressed : (Managed.refresh context record).quiet = .done none := by
  cases type with
  | account =>
    show (Account.refresh context record).quiet = _
    rw [Account.quiet_refresh, show Account.key? context record = none from h]
  | group =>
    show (Group.refresh context record).quiet = _
    rw [Group.quiet_refresh, show Group.key? context record = none from h]

theorem delete_of_unaddressed : (Managed.delete context record).quiet = .done () := by
  cases type with
  | account =>
    show (Account.delete context record).quiet = _
    rw [Account.quiet_delete, show Account.key? context record = none from h]
  | group =>
    show (Group.delete context record).quiet = _
    rw [Group.quiet_delete, show Group.key? context record = none from h]

/-- An update from such a record writes nothing. -/
theorem update_of_unaddressed (desired : type.Record) (changed : List String) :
    (Managed.update context desired record changed).quiet = .done () ∨
      ∃ e, (Managed.update context desired record changed).quiet = .fail e ∧ Refuses e := by
  cases type with
  | account =>
    show (Account.update context desired record changed).quiet = _ ∨
      ∃ e, (Account.update context desired record changed).quiet = _ ∧ _
    rw [Account.quiet_update, show Account.key? context record = none from h]
    split
    · exact .inl rfl
    · cases Account.validate desired with
      | error defect => exact .inr ⟨_, rfl, refuses_ofConfiguration defect⟩
      | ok _ => exact .inr ⟨_, rfl, refuses_notFound _⟩
  | group =>
    show (Group.update context desired record changed).quiet = _ ∨
      ∃ e, (Group.update context desired record changed).quiet = _ ∧ _
    rw [Group.quiet_update, show Group.key? context record = none from h]
    split
    · exact .inr ⟨_, rfl, refuses_notFound _⟩
    · exact .inl rfl

end Record

/-- A record with an id of another subscription addresses nothing. -/
theorem unaddressed_of_foreign (h : type.Foreign context identifier)
    (hid : Managed.identifier? record = some identifier) : type.Unaddressed context record := by
  obtain ⟨armId, hparse, hnames, howns⟩ := h.exists_parse?
  cases type with
  | account => exact Account.key?_of_foreign hid hparse hnames howns
  | group => exact Group.key?_of_foreign hid hparse hnames howns

end ManagedType

section Foreign

variable (h : type.Foreign context identifier)
include h

theorem readAs_of_foreign (id : ResourceId) :
    (readAs type.Record context id (some identifier)).quiet = .done (.absent id) := by
  obtain ⟨record, hrecord, hid⟩ := h.exists_ofIdentifier?
  rw [readAs_some, addressed, hrecord]
  show (refreshed context id record).quiet = _
  rw [refreshed, bind_eq_bind, quiet_bind,
    ManagedType.refresh_of_unaddressed (ManagedType.unaddressed_of_foreign h hid)]
  rfl

theorem deleteAs_of_foreign : (deleteAs type.Record context identifier).quiet = .done () := by
  obtain ⟨record, hrecord, hid⟩ := h.exists_ofIdentifier?
  rw [deleteAs, addressed, hrecord]
  exact ManagedType.delete_of_unaddressed (ManagedType.unaddressed_of_foreign h hid)

/-- An update ends before its first call: at the check of the declaration, at the object that the
last known record does not address, or with a read, which finds nothing. -/
theorem updateAs_of_foreign (id : ResourceId) (current : State) (declared : Resource) :
    (updateAs type.Record context id identifier current declared).quiet = .done (.absent id) ∨
      ∃ e, (updateAs type.Record context id identifier current declared).quiet = .fail e ∧
        Refuses e := by
  cases hprepare : prepare type.Record identifier current declared with
  | error defect =>
    rw [updateAs_of_error id hprepare]
    exact .inr ⟨_, rfl, refuses_ofConfiguration defect⟩
  | ok p =>
    rw [updateAs_of_prepare id hprepare, quiet_bind, ← readAs_some, readAs_of_foreign h]
    have hid := ManagedType.identifier?_last h.ne_empty hprepare
    cases p.changed.isEmpty with
    | true => exact .inl rfl
    | false =>
      obtain hdone | ⟨e, hfail, hrefuses⟩ :=
        ManagedType.update_of_unaddressed (ManagedType.unaddressed_of_foreign h hid) p.desired p.changed
      · exact .inl (by rw [if_neg Bool.false_ne_true, hdone]; rfl)
      · exact .inr ⟨e, by rw [if_neg Bool.false_ne_true, hfail]; rfl, hrefuses⟩

/-- A query that filters by such an id refuses a key or matches nothing. -/
theorem find_of_foreign {filters : Filters} (hfilter : filters.get? "id" = some identifier) :
    (type.find context filters).quiet =
      ofCheck ((filters.checkKeys type.filterKeys).map fun _ => []) := by
  obtain ⟨armId, hparse, -, howns⟩ := h.exists_parse?
  cases hkeys : filters.checkKeys type.filterKeys with
  | error defect =>
    cases type with
    | account =>
      show (Account.find context filters).quiet = _
      rw [Account.find, show filters.checkKeys Account.filterKeys = _ from hkeys]
      rfl
    | group =>
      show (Group.find context filters).quiet = _
      rw [Group.find, show filters.checkKeys Group.filterKeys = _ from hkeys]
      rfl
  | ok _ =>
    cases type with
    | account => exact Account.find_of_foreign hfilter hparse howns hkeys
    | group => exact Group.find_of_foreign hfilter hparse howns hkeys

end Foreign

/-- The run of an operation on a registered type that ends before its first call. -/
theorem run_dispatch_of_quiet_eq_done {β σ : Type} {operation : ManagedType → Operation β}
    {id : ResourceId} {b : β} (htype : ManagedType.ofName? id.type = some type)
    (h : (operation type).quiet = .done b) (answer : (c : Call) → σ → c.Answer × σ) (s : σ) :
    ((dispatch id operation).run answer s).outcome = .done b ∧
      ((dispatch id operation).run answer s).asked = [] := by
  obtain ⟨houtcome, hasked⟩ := run_of_quiet_eq_done answer s h
  rw [run_dispatch_done htype houtcome]
  exact ⟨houtcome, hasked⟩

/-- **An id of another subscription is out of reach**, whoever answers: no call is made. The resource
is absent to a read, there is nothing to delete, and a query by the id finds nothing, if its keys are
admitted. An update reports the absent resource, or fails for a defect of the declaration or for the
missing object. -/
theorem other_subscription_out_of_reach {σ : Type} (answer : (c : Call) → σ → c.Answer × σ) (s : σ)
    (h : type.Foreign context identifier) :
    (∀ id, ManagedType.ofName? id.type = some type →
      let ran := (read context id (some identifier)).run answer s
      ran.outcome = .done (.absent id) ∧ ran.asked = []) ∧
    (∀ id, ManagedType.ofName? id.type = some type →
      let ran := (delete context id identifier).run answer s
      ran.outcome = .done () ∧ ran.asked = []) ∧
    (∀ id, ManagedType.ofName? id.type = some type → ∀ current declared,
      let ran := (update context id identifier current declared).run answer s
      (ran.outcome = .done (.absent id) ∨ ∃ e, ran.outcome = .failed e ∧ Refuses e) ∧
        ran.asked = []) ∧
    ∀ filters : Filters, filters.get? "id" = some identifier →
      let ran := (type.find context filters).run answer s
      (ran.outcome = .done [] ∨ ∃ defect, filters.checkKeys type.filterKeys = .error defect ∧
        ran.outcome = .failed (.ofConfiguration defect)) ∧ ran.asked = [] := by
  refine ⟨fun id htype => ?_, fun id htype => ?_, fun id htype current declared => ?_,
    fun filters hfilter => ?_⟩
  · exact run_dispatch_of_quiet_eq_done htype (readAs_of_foreign h id) answer s
  · exact run_dispatch_of_quiet_eq_done htype (deleteAs_of_foreign h) answer s
  · obtain hdone | ⟨e, hfail, hrefuses⟩ := updateAs_of_foreign h id current declared
    · have hran : ((update context id identifier current declared).run answer s).outcome =
          .done (.absent id) ∧ _ := run_dispatch_of_quiet_eq_done htype hdone answer s
      exact ⟨.inl hran.1, hran.2⟩
    · obtain ⟨houtcome, hasked⟩ := run_of_quiet_eq_fail answer s hfail
      dsimp only [update]
      rw [run_dispatch htype, houtcome]
      exact ⟨.inr ⟨_, rfl, hrefuses.forResource id⟩, hasked⟩
  · have hquiet := find_of_foreign h hfilter
    cases hkeys : filters.checkKeys type.filterKeys with
    | ok _ =>
      rw [hkeys] at hquiet
      obtain ⟨houtcome, hasked⟩ := run_of_quiet_eq_done answer s hquiet
      exact ⟨.inl houtcome, hasked⟩
    | error defect =>
      rw [hkeys] at hquiet
      obtain ⟨houtcome, hasked⟩ := run_of_quiet_eq_fail answer s hquiet
      exact ⟨.inr ⟨defect, rfl, houtcome⟩, hasked⟩

/-- A group of the same name in another subscription: whatever the service of the context holds
under that name is neither read, nor deleted, nor changed, nor found. -/
theorem other_subscription_out_of_reach_group :
    let context : Context := ⟨"sub", "eastus"⟩
    let identifier := "/subscriptions/other/resourceGroups/rg"
    let id : ResourceId := ⟨"resource_group", "main"⟩
    let m : Memory := { groups := [("rg", { name := some "rg", location := "eastus" })] }
    let declared : Resource :=
      ⟨id, [("name", .string "rg"), ("tags", .map [("env", .string "prod")])]⟩
    let current : State := .present id none [("name", .string "rg"), ("location", .string "eastus")]
    ManagedType.Foreign .group context identifier ∧
      (Memory.run (read context id (some identifier)) m).outcome = .done (.absent id) ∧
      (Memory.run (delete context id identifier) m).asked = [] ∧
      (Memory.run (update context id identifier current declared) m).outcome.hasFailed = true ∧
      (Memory.run (update context id identifier current declared) m).asked = [] ∧
      (Memory.run (Group.find context [("id", identifier)]) m).asked = [] := by
  intro context identifier id m declared current
  have hforeign : ManagedType.Foreign .group context identifier :=
    ⟨⟨"other", "rg", none⟩, by decide +kernel, rfl, by decide +kernel⟩
  obtain ⟨hread, hdelete, hupdate, hfind⟩ :=
    other_subscription_out_of_reach Memory.answer m hforeign
  exact ⟨hforeign, (hread id (by decide)).1, (hdelete id (by decide)).2, by decide +kernel,
    (hupdate id (by decide) current declared).2, (hfind [("id", identifier)] (by decide)).2⟩

end Provider
end AzureProvisioning
