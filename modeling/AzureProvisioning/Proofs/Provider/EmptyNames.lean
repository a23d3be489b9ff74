/-
# Empty names

Written with an empty name, the address of an object is that of the collection above it, so such a
name should lead to no call. The operations on records see to that. What a record addresses has names
that are not empty (`nonempty_of_key?`), so a record with an empty one addresses nothing, and a
declaration with an empty name is refused before the first call (`create_of_blank`).

A query does not. It makes one call at most (`Account.asked_find`, `Group.asked_find`), with the names
as its filters give them, and the form of an id sees to the name of an account but not to that of its
group. So a call with an empty name is made exactly by the queries of `SeeksBlank`
(`calls_blank_iff`).
-/

import AzureProvisioning.Proofs.Provider.Asking
import AzureProvisioning.Proofs.Provider.Finding

namespace AzureProvisioning

open Program

/-- The names in a key. -/
def Key.names : Key → List String
  | group name => [name]
  | account groupName name => [groupName, name]

/-- The names that a call is made with. -/
def Call.names : Call → List String
  | getAccount group name | putAccount group name _ | patchAccount group name _
  | changePriorities group name _ | deleteAccount group name => [group, name]
  | listAccountsIn group => [group]
  | getGroup name | putGroup name _ | setGroupTags name _ | deleteGroup name => [name]
  | listAccounts | listGroups => []

/-- The call has an empty name in it. -/
def Call.IsBlank (c : Call) : Prop :=
  "" ∈ c.names

instance (c : Call) : Decidable c.IsBlank :=
  inferInstanceAs (Decidable ("" ∈ c.names))

theorem Call.names_of_key? {c : Call} {key : Key} (h : c.key? = some key) : c.names = key.names := by
  cases c <;> cases h <;> rfl

section Queries

variable {σ : Type} {context : Context} {filters : Filters}

/-- The call of a query for accounts whose keys are admitted. -/
def Account.queried? (context : Context) (filters : Filters) : Option Call :=
  match filters.get? "id", filters.get? "resource_group" with
  | some text, _ =>
    ((ArmId.parse? text).filter fun id => id.isType armType && context.owns id).map fun id =>
      .getAccount id.group id.name
  | none, some group => some (.listAccountsIn group)
  | none, none => some .listAccounts

/-- The call of a query for groups whose keys are admitted. -/
def Group.queried? (context : Context) (filters : Filters) : Option Call :=
  match filters.get? "id", filters.get? "name" with
  | some text, _ =>
    ((ArmId.parse? text).filter fun id =>
      id.member?.isNone && context.owns id && filters.admits "name" id.group).map fun id =>
      .getGroup id.group
  | none, some name => some (.getGroup name)
  | none, none => some .listGroups

theorem Account.asked_find (hkeys : filters.checkKeys filterKeys = .ok ())
    (answer : (c : Call) → σ → c.Answer × σ) (s : σ) :
    ((find context filters).run answer s).asked = (queried? context filters).toList := by
  rw [← run_asked_quiet, quiet_find (Filters.checkKeys_eq_ok_iff.1 hkeys), queried?]
  cases hid : filters.get? "id" with
  | some text =>
    rw [candidates_of_id hid]
    dsimp only
    cases (ArmId.parse? text).filter fun id => id.isType armType && context.owns id with
    | none => rfl
    | some id =>
      rw [quiet_bind, Operation.quiet_request (.getAccount id.group id.name), bind_assoc]
      exact Operation.asked_request_bind answer (.getAccount id.group id.name) rfl s
  | none =>
    cases hgroup : filters.get? "resource_group" with
    | some group =>
      simp only [candidates, hid, hgroup, Operation.quiet_request (.listAccountsIn group)]
      exact Operation.asked_request_bind answer (.listAccountsIn group) rfl s
    | none =>
      simp only [candidates, hid, hgroup, Operation.quiet_request .listAccounts]
      exact Operation.asked_request_bind answer .listAccounts rfl s

theorem Group.asked_find (hkeys : filters.checkKeys filterKeys = .ok ())
    (answer : (c : Call) → σ → c.Answer × σ) (s : σ) :
    ((find context filters).run answer s).asked = (queried? context filters).toList := by
  have hnamed (name : String) : ((findNamed name).quiet.run answer s).asked = [.getGroup name] := by
    rw [quiet_findNamed, Operation.asked_request_bind answer (.getGroup name) rfl]
  rw [← run_asked_quiet, queried?]
  cases hid : filters.get? "id" with
  | some text =>
    rw [quiet_find_of_id (Filters.checkKeys_eq_ok_iff.1 hkeys) hid]
    dsimp only
    cases (ArmId.parse? text).filter fun id =>
        id.member?.isNone && context.owns id && filters.admits "name" id.group with
    | none => rfl
    | some id => exact hnamed id.group
  | none =>
    cases hname : filters.get? "name" with
    | some name =>
      have hfind : (find context filters).quiet = (findNamed name).quiet := by
        simp only [find, hkeys, hid, hname]
        rfl
      rw [hfind]
      exact hnamed name
    | none =>
      have hfind : (find context filters).quiet = findAll.quiet := by
        simp only [find, hkeys, hid, hname]
        rfl
      rw [hfind, quiet_findAll, Operation.asked_request_bind answer .listGroups rfl]
      rfl

end Queries

namespace Provider

variable {context : Context} {type : ManagedType} {record : type.Record} {key : Key}

/-- The key that a record spells: the names in its id, if it is the id of an object of the type, else
those in its own fields. -/
def ManagedType.spelledKey : (type : ManagedType) → type.Record → Key
  | account, (a : Account) =>
    match a.armId? with
    | some id => .account id.group id.name
    | none => .account a.group a.name
  | group, (g : Group) =>
    match g.armId? with
    | some id => .group id.group
    | none => .group g.name

section Records

/-- A record addresses what it spells, if anything. -/
theorem spelledKey_of_key? (h : type.key? context record = some key) :
    type.spelledKey record = key := by
  cases type with
  | account =>
    obtain ⟨names, hnames, rfl⟩ := Option.map_eq_some_iff.1 h
    have hkey {g n : String} (h : Account.nonEmptyKey g n = some names) : (g, n) = names := by
      unfold Account.nonEmptyKey at h
      split at h
      · cases h
      · exact Option.some.inj h
    cases hid : Account.armId? record with
    | some id =>
      rw [Account.key?, hid] at hnames
      rw [ManagedType.spelledKey, hid]
      dsimp only at hnames ⊢
      split at hnames
      · rw [← hkey hnames]
      · cases hnames
    | none =>
      rw [Account.key?, hid] at hnames
      rw [ManagedType.spelledKey, hid, ← hkey hnames]
  | group =>
    obtain ⟨name, hname, rfl⟩ := Option.map_eq_some_iff.1 h
    cases hid : Group.armId? record with
    | some id =>
      rw [Group.key?, hid] at hname
      rw [ManagedType.spelledKey, hid]
      dsimp only at hname ⊢
      split at hname
      · rw [Option.some.inj hname]
      · cases hname
    | none =>
      rw [Group.key?, hid] at hname
      rw [ManagedType.spelledKey, hid]
      dsimp only at hname ⊢
      split at hname
      · cases hname
      · rw [Option.some.inj hname]

theorem nonempty_of_key? (h : type.key? context record = some key) : "" ∉ key.names := by
  cases type with
  | account =>
    obtain ⟨⟨group, name⟩, hnames, rfl⟩ := Option.map_eq_some_iff.1 h
    obtain ⟨hgroup, hname⟩ := Account.ne_empty_of_key? hnames
    simp [Key.names, hgroup.symm, hname.symm]
  | group =>
    obtain ⟨name, hname, rfl⟩ := Option.map_eq_some_iff.1 h
    simp [Key.names, (Group.ne_empty_of_key? hname).symm]

/-- A record that spells an empty name addresses nothing. -/
theorem unaddressed_of_blank (context : Context) (h : "" ∈ (type.spelledKey record).names) :
    type.Unaddressed context record := by
  have hnone : type.key? context record = none := by
    by_contra hne
    obtain ⟨key, hkey⟩ := Option.ne_none_iff_exists'.1 hne
    rw [spelledKey_of_key? hkey] at h
    exact nonempty_of_key? hkey h
  cases type with
  | account => exact Option.map_eq_none_iff.1 hnone
  | group => exact Option.map_eq_none_iff.1 hnone

/-- A declaration with an empty name is refused, be it for that or for another defect. -/
theorem create_of_blank (context : Context) (h : "" ∈ (type.declaredKey record).names) :
    ∃ defect, (Managed.create context record : Operation type.Record).quiet =
      .fail (.ofConfiguration defect) := by
  cases type with
  | account =>
    show ∃ defect, (Account.create context record).quiet = _
    rw [Account.quiet_create]
    cases Account.kind record with
    | none => exact ⟨_, rfl⟩
    | some kind =>
      cases hvalidate : Account.validate record with
      | error defect => exact ⟨defect, rfl⟩
      | ok checked =>
        have hvalid := Account.valid_of_validate hvalidate
        have hname : Account.name record ≠ "" := fun hempty =>
          absurd hvalid.name (by rw [hempty]; decide)
        have hnames : "" ∈ [Account.group record, Account.name record] := h
        simp [hvalid.group.symm, hname.symm] at hnames
  | group =>
    show ∃ defect, (Group.create context record).quiet = _
    have hname : Group.name record = "" := (List.mem_singleton.1 h).symm
    rw [Group.quiet_create, hname]
    exact ⟨_, rfl⟩

/-- The operations on records make no call with an empty name. -/
theorem recordsAsk_nonblank (context : Context) : RecordsAsk context fun c => ¬ c.IsBlank := by
  have hcall {key? : Option Key} (hkey : ∀ key, key? = some key → "" ∉ key.names) (c : Call)
      (h : IsOn key? c) : ¬ c.IsBlank := by
    obtain ⟨key, hsome, hc⟩ := h
    rw [Call.IsBlank, Call.names_of_key? hc]
    exact hkey key hsome
  refine ⟨fun record => ?_, fun {type} record => ?_, fun desired current changed => ?_,
    fun record => ?_⟩
  · exact (asksOnly_refresh record).mono (hcall fun _ => nonempty_of_key?)
  · by_cases hblank : "" ∈ (type.declaredKey record).names
    · obtain ⟨defect, hfail⟩ := create_of_blank context hblank
      rw [← asksOnly_quiet_iff, hfail]
      trivial
    · refine (asksOnly_create record).mono (hcall fun key hkey => ?_)
      rwa [← Option.some.inj hkey]
  · exact (asksOnly_update desired current changed).mono (hcall fun _ => nonempty_of_key?)
  · exact (asksOnly_delete record).mono (hcall fun _ => nonempty_of_key?)

end Records

/-- The queries with an empty name: for the account of an id whose group is empty, for the accounts of
a group, and for a group by its name. -/
inductive SeeksBlank (context : Context) : {α : Type} → Operation α → Prop
  | accountOfId {filters : Filters} {text : String} {id : ArmId}
      (hkeys : filters.checkKeys Account.filterKeys = .ok ()) (hid : filters.get? "id" = some text)
      (hparse : ArmId.parse? text = some id) (htype : id.isType Account.armType = true)
      (howns : context.owns id = true) (hgroup : id.group = "") :
      SeeksBlank context (Account.find context filters)
  | accountsIn {filters : Filters} (hkeys : filters.checkKeys Account.filterKeys = .ok ())
      (hid : filters.get? "id" = none) (hgroup : filters.get? "resource_group" = some "") :
      SeeksBlank context (Account.find context filters)
  | groupNamed {filters : Filters} (hkeys : filters.checkKeys Group.filterKeys = .ok ())
      (hid : filters.get? "id" = none) (hname : filters.get? "name" = some "") :
      SeeksBlank context (Group.find context filters)

section Queries

variable {σ α : Type} {p : Operation α} (answer : (c : Call) → σ → c.Answer × σ) (s : σ)

theorem exists_blank_of_seeksBlank (h : SeeksBlank context p) :
    ∃ c ∈ (p.run answer s).asked, c.IsBlank := by
  cases h with
  | @accountOfId filters text id hkeys hid hparse htype howns hgroup =>
    refine ⟨.getAccount id.group id.name, ?_, by simp [Call.IsBlank, Call.names, hgroup]⟩
    rw [Account.asked_find hkeys, Account.queried?, hid]
    simp [hparse, htype, howns]
  | accountsIn hkeys hid hgroup =>
    refine ⟨.listAccountsIn "", ?_, by decide⟩
    rw [Account.asked_find hkeys, Account.queried?, hid, hgroup]
    exact List.mem_singleton.2 rfl
  | groupNamed hkeys hid hname =>
    refine ⟨.getGroup "", ?_, by decide⟩
    rw [Group.asked_find hkeys, Group.queried?, hid, hname]
    exact List.mem_singleton.2 rfl

theorem seeksBlank_of_findAccounts {filters : Filters} {c : Call}
    (hc : c ∈ ((Account.find context filters).run answer s).asked) (hblank : c.IsBlank) :
    SeeksBlank context (Account.find context filters) := by
  cases hkeys : filters.checkKeys Account.filterKeys with
  | error defect =>
    rw [Account.find, hkeys] at hc
    cases hc
  | ok _ =>
    rw [Account.asked_find hkeys, Option.mem_toList, Account.queried?] at hc
    split at hc
    · next text hid =>
      obtain ⟨id, hfilter, rfl⟩ := Option.map_eq_some_iff.1 hc
      obtain ⟨hparse, hnamed⟩ := Option.filter_eq_some_iff.1 hfilter
      obtain ⟨htype, howns⟩ := Bool.and_eq_true_iff.1 hnamed
      obtain hgroup | hname : "" = id.group ∨ "" = id.name := by
        simpa [Call.IsBlank, Call.names] using hblank
      · exact .accountOfId hkeys hid hparse htype howns hgroup.symm
      · exact absurd hname.symm (ArmId.name_ne_empty_of_parse? hparse)
    · next group hid hgroup =>
      obtain rfl := Option.some.inj hc
      obtain rfl := List.mem_singleton.1 hblank
      exact .accountsIn hkeys hid hgroup
    · obtain rfl := Option.some.inj hc
      cases hblank

theorem seeksBlank_of_findGroups {filters : Filters} {c : Call}
    (hc : c ∈ ((Group.find context filters).run answer s).asked) (hblank : c.IsBlank) :
    SeeksBlank context (Group.find context filters) := by
  cases hkeys : filters.checkKeys Group.filterKeys with
  | error defect =>
    rw [Group.find, hkeys] at hc
    cases hc
  | ok _ =>
    rw [Group.asked_find hkeys, Option.mem_toList, Group.queried?] at hc
    split at hc
    · next text hid =>
      obtain ⟨id, hfilter, rfl⟩ := Option.map_eq_some_iff.1 hc
      obtain ⟨hparse, hnamed⟩ := Option.filter_eq_some_iff.1 hfilter
      obtain ⟨subscription, group, member⟩ := id
      -- the id is one of a group, whose own name is the one that the call is made with
      obtain rfl : member = none := by
        simpa using (Bool.and_eq_true_iff.1 (Bool.and_eq_true_iff.1 hnamed).1).1
      exact absurd (List.mem_singleton.1 hblank).symm (ArmId.name_ne_empty_of_parse? hparse)
    · next name hid hname =>
      obtain rfl := Option.some.inj hc
      obtain rfl := List.mem_singleton.1 hblank
      exact .groupNamed hkeys hid hname
    · obtain rfl := Option.some.inj hc
      cases hblank

/-- **A call with an empty name is made by the queries with one, and by nothing else**, whoever answers.
A record that spells an empty name addresses no object: nothing is read or deleted, and an update of it
is refused, or has nothing to write. A declaration with an empty name is refused. -/
theorem calls_blank_iff (context : Context) :
    (∀ {α : Type} {p : Operation α}, Offered context p →
      ((∃ c ∈ (p.run answer s).asked, c.IsBlank) ↔ SeeksBlank context p)) ∧
    ∀ {type : ManagedType} (record : type.Record),
      let refreshed := (Managed.refresh context record : Operation (Option type.Record)).run answer s
      let deleted := (Managed.delete context record).run answer s
      let created := (Managed.create context record : Operation type.Record).run answer s
      ("" ∈ (type.spelledKey record).names →
        (refreshed.outcome = .done none ∧ refreshed.asked = []) ∧
        (deleted.outcome = .done () ∧ deleted.asked = []) ∧
        ∀ desired changed,
          let updated := (Managed.update context desired record changed).run answer s
          (updated.outcome = .done () ∨ ∃ e, updated.outcome = .failed e ∧ Refuses e) ∧
            updated.asked = []) ∧
      ("" ∈ (type.declaredKey record).names →
        (∃ defect, created.outcome = .failed (.ofConfiguration defect)) ∧ created.asked = []) := by
  have hrecords := recordsAsk_nonblank context
  refine ⟨fun {α p} h => ⟨?_, exists_blank_of_seeksBlank answer s⟩, fun {type} record => ⟨?_, ?_⟩⟩
  · rintro ⟨c, hc, hblank⟩
    have hnever (hasks : p.AsksOnly fun c => ¬ c.IsBlank) : SeeksBlank context p :=
      absurd hblank (hasks.of_mem_asked hc)
    cases h with
    | provider h => exact hnever (h.asksOnly hrecords)
    | refresh record => exact hnever (hrecords.refresh record)
    | create record => exact hnever (hrecords.create record)
    | update desired current changed => exact hnever (hrecords.update desired current changed)
    | delete record => exact hnever (hrecords.delete record)
    | findAllAccounts =>
      have hlist : Account.findAll = Account.find context [] := rfl
      rw [hlist] at hc ⊢
      exact seeksBlank_of_findAccounts answer s hc hblank
    | findAccounts filters => exact seeksBlank_of_findAccounts answer s hc hblank
    | findAllGroups =>
      have hlist : Group.findAll = Group.find context [] := rfl
      rw [hlist] at hc ⊢
      exact seeksBlank_of_findGroups answer s hc hblank
    | findGroups filters => exact seeksBlank_of_findGroups answer s hc hblank
  · intro hblank
    have hnone := unaddressed_of_blank context hblank
    refine ⟨run_of_quiet_eq_done answer s (ManagedType.refresh_of_unaddressed hnone),
      run_of_quiet_eq_done answer s (ManagedType.delete_of_unaddressed hnone),
      fun desired changed => ?_⟩
    obtain hdone | ⟨e, hfail, hrefuses⟩ := ManagedType.update_of_unaddressed hnone desired changed
    · obtain ⟨houtcome, hasked⟩ := run_of_quiet_eq_done answer s hdone
      exact ⟨.inl houtcome, hasked⟩
    · obtain ⟨houtcome, hasked⟩ := run_of_quiet_eq_fail answer s hfail
      exact ⟨.inr ⟨e, houtcome, hrefuses⟩, hasked⟩
  · intro hblank
    obtain ⟨defect, hfail⟩ := create_of_blank context hblank
    obtain ⟨houtcome, hasked⟩ := run_of_quiet_eq_fail answer s hfail
    exact ⟨⟨defect, houtcome⟩, hasked⟩

/-- The id of an account leaves out the name of the group. A query looks for it all the same, and so do
queries with empty filters, but the record with that id addresses nothing. -/
theorem calls_blank_iff_queries :
    let context : Context := ⟨"sub", "eastus"⟩
    let m : Memory := {}
    let identifier :=
      "/subscriptions/sub/resourceGroups//providers/Microsoft.DocumentDB/databaseAccounts/acc"
    let record : Account := { name := "acc", group := "rg", id := some identifier }
    (Memory.run (Account.find context [("id", identifier)]) m).asked = [.getAccount "" "acc"] ∧
      (∃ c ∈ (Memory.run (Account.find context [("id", identifier)]) m).asked, c.IsBlank) ∧
      (∃ c ∈ (Memory.run (Account.find context [("resource_group", "")]) m).asked, c.IsBlank) ∧
      (∃ c ∈ (Memory.run (Group.find context [("name", "")]) m).asked, c.IsBlank) ∧
      (Memory.run (record.refresh context) m).asked = [] := by
  intro context m identifier record
  obtain ⟨hcalls, hrecords⟩ := calls_blank_iff Memory.answer m context
  have hblank : "" ∈ (ManagedType.spelledKey .account record).names := by decide +kernel
  obtain ⟨⟨-, hasked⟩, -⟩ := (@hrecords .account record).1 hblank
  refine ⟨by decide +kernel, (hcalls (.findAccounts [("id", identifier)])).2 ?_,
    (hcalls (.findAccounts [("resource_group", "")])).2 (.accountsIn (by decide) rfl rfl),
    (hcalls (.findGroups [("name", "")])).2 (.groupNamed (by decide) rfl rfl), hasked⟩
  have hparse : ArmId.parse? identifier =
      some ⟨"sub", "", some ⟨"Microsoft.DocumentDB/databaseAccounts", "acc"⟩⟩ := by decide +kernel
  exact .accountOfId (by decide) rfl hparse (by decide +kernel) (by decide +kernel) rfl

end Queries

end Provider
end AzureProvisioning
