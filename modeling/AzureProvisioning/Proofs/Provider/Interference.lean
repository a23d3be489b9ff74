/-
# Operations on different resources do not interfere

The object that an operation of the provider is about is fixed before its first call: by the identifier of
the request, or by the declared names (`RequestedOn`). An update takes its key from the last known record,
and that record has the identifier of the request as its id (`ManagedType.key?_of_identifier`). The read
at the end of a creation goes where the id of the reply says, which names the new object or nothing
(`ManagedType.create_cases`).

Hence every operation is confined to one object of the store (`RequestedOn.confined`), and two of them on
different objects end as they do alone, whatever the order of their calls
(`operations_do_not_interfere`).
-/

import AzureProvisioning.Proofs.Interference
import AzureProvisioning.Proofs.Provider.Isolation
import AzureProvisioning.Proofs.Provider.Targets

namespace AzureProvisioning

open Program

/-- What an account addresses is decided by its id, when that names an account. -/
theorem Account.key?_of_identifier {context : Context} {identifier : String} {a record : Account}
    (h : ofIdentifier? identifier = some record) (hid : a.id = some identifier) :
    a.key? context = record.key? context := by
  unfold ofIdentifier? at h
  split at h
  · next id hparse =>
    split at h
    · next htype =>
      obtain rfl := Option.some.inj h
      rw [key?_of_parse? context hid hparse htype, key?_of_parse? context rfl hparse htype]
    · cases h
  · cases h

/-- What a group addresses is decided by its id, when that names a group. -/
theorem Group.key?_of_identifier {context : Context} {identifier : String} {g record : Group}
    (h : ofIdentifier? identifier = some record) (hid : g.id = some identifier) :
    g.key? context = record.key? context := by
  unfold ofIdentifier? at h
  split at h
  · next id hparse =>
    split at h
    · next hmember =>
      obtain rfl := Option.some.inj h
      rw [key?_of_parse? context hid hparse hmember, key?_of_parse? context rfl hparse hmember]
    · cases h
  · cases h

/-- The id that the service gives an account leads to it, or nowhere. -/
theorem Account.key?_of_accountId {context : Context} {group name : String} {record : Account}
    {key : String × String} (hname : AccountName.isValid name = true)
    (h : ofIdentifier? (Memory.accountId group name) = some record)
    (hkey : record.key? context = some key) : key = (group, name) := by
  rw [ofIdentifier?_accountId hname] at h
  split at h
  · cases h
  · next hslash =>
    obtain rfl := Option.some.inj h
    have hparse := @parse?_accountId group name hname
    rw [if_neg hslash] at hparse
    rw [key?_of_parse? context rfl hparse (Text.sameFolded_refl _)] at hkey
    split at hkey
    · unfold nonEmptyKey at hkey
      split at hkey
      · cases hkey
      · exact (Option.some.inj hkey).symm
    · cases hkey

/-- The id that the service gives a group leads to it, or nowhere. -/
theorem Group.key?_of_groupId {context : Context} {name key : String} {record : Group}
    (hname : GroupName.isValid name = true)
    (h : ofIdentifier? (Memory.groupId name) = some record)
    (hkey : record.key? context = some key) : key = name := by
  rw [ofIdentifier?_groupId hname] at h
  obtain rfl := Option.some.inj h
  rw [key?_of_parse? context rfl (parse?_groupId hname) rfl] at hkey
  split at hkey
  · exact (Option.some.inj hkey).symm
  · cases hkey

namespace Provider

/-- The key in the store of the object that an identifier leads to: none when it is no identifier of the
type, or when the object is out of reach. -/
def ManagedType.addressedKey? (type : ManagedType) (context : Context) (identifier : String) :
    Option Key :=
  ((Managed.ofIdentifier? identifier : Option type.Record).bind (type.key? context)).map Key.stored

/-- The key in the store of the object that a request with this identifier addresses. -/
def addressedKey? (context : Context) (id : ResourceId) (identifier : String) : Option Key :=
  (ManagedType.ofName? id.type).bind fun type => type.addressedKey? context identifier

/-- The key in the store of the object that a resource declares: none when it is not decoded. -/
def declaredKey? (resource : Resource) : Option Key :=
  (ManagedType.ofName? resource.id.type).bind fun type =>
    (Managed.ofAttributes resource.attributes : Except ConfigurationError type.Record).toOption.map
      fun declared => (type.declaredKey declared).stored

/-- The identifier is one of the type that is requested. -/
def Identifies (id : ResourceId) (identifier : String) : Prop :=
  ∀ type, ManagedType.ofName? id.type = some type →
    ∃ record : type.Record, Managed.ofIdentifier? identifier = some record

/-- The operations of the provider on a resource, with the key in the store of the object that is
addressed. -/
inductive RequestedOn (context : Context) : {α : Type} → Operation α → Option Key → Prop
  | read (id : ResourceId) (identifier : Option String) :
      RequestedOn context (read context id identifier) (identifier.bind (addressedKey? context id))
  | create (resource : Resource) :
      RequestedOn context (create context resource) (declaredKey? resource)
  | update (id : ResourceId) (identifier : String) (current : State) (declared : Resource)
      (h : Identifies id identifier) :
      RequestedOn context (update context id identifier current declared)
        (addressedKey? context id identifier)
  | delete (id : ResourceId) (identifier : String) :
      RequestedOn context (delete context id identifier) (addressedKey? context id identifier)

variable {context : Context} {type : ManagedType} {identifier : String} {key? : Option Key}
  {resource : Resource}

/-- What a record addresses is decided by its id, when that is an identifier of the type. -/
theorem ManagedType.key?_of_identifier {record last : type.Record}
    (h : Managed.ofIdentifier? identifier = some record)
    (hid : Managed.identifier? last = some identifier) :
    type.key? context last = type.key? context record := by
  cases type with
  | account => rw [key?, key?, Account.key?_of_identifier h hid]
  | group => rw [key?, key?, Group.key?_of_identifier h hid]

theorem ManagedType.ne_empty_of_ofIdentifier? {record : type.Record}
    (h : Managed.ofIdentifier? identifier = some record) : identifier ≠ "" := by
  rintro rfl
  have hnone : ArmId.parse? "" = none := by decide
  cases type with
  | account =>
    have hempty : Account.ofIdentifier? "" = none := by rw [Account.ofIdentifier?, hnone]
    cases h.symm.trans hempty
  | group =>
    have hempty : Group.ofIdentifier? "" = none := by rw [Group.ofIdentifier?, hnone]
    cases h.symm.trans hempty

open Memory (Confined)

theorem confined_dispatch {β : Type} {operation : ManagedType → Operation β} {id : ResourceId}
    (h : ∀ type, ManagedType.ofName? id.type = some type → Confined key? (operation type)) :
    Confined key? (dispatch id operation) := by
  refine (Memory.confined_mapFailure_iff _).2 ?_
  cases htype : ManagedType.ofName? id.type with
  | none => trivial
  | some type => exact h type htype

/-- The identifier leads to the object under this key of the store, or to none. -/
def ManagedType.LeadsTo (type : ManagedType) (context : Context) (identifier : String)
    (key? : Option Key) : Prop :=
  ∀ record : type.Record, Managed.ofIdentifier? identifier = some record →
    ∀ k, (type.key? context record).map Key.stored = some k → key? = some k

theorem ManagedType.leadsTo_addressedKey? :
    type.LeadsTo context identifier (type.addressedKey? context identifier) := by
  intro record hrecord k hk
  rwa [addressedKey?, hrecord]

theorem confined_readAs (h : type.LeadsTo context identifier key?) (id : ResourceId) :
    Confined key? (readAs type.Record context id (some identifier)) := by
  rw [readAs_some, addressed]
  cases hrecord : (Managed.ofIdentifier? identifier : Option type.Record) with
  | none => trivial
  | some record =>
    have hrefresh : Confined ((type.key? context record).map Key.stored)
        (Managed.refresh context record : Operation (Option type.Record)) :=
      Memory.confined_of_asksOnly (asksOnly_refresh record)
    exact (hrefresh.mono (h record hrecord)).bind fun found => by cases found <;> trivial

theorem confined_deleteAs (h : type.LeadsTo context identifier key?) :
    Confined key? (deleteAs type.Record context identifier) := by
  rw [deleteAs, addressed]
  cases hrecord : (Managed.ofIdentifier? identifier : Option type.Record) with
  | none => trivial
  | some record => exact (Memory.confined_of_asksOnly (asksOnly_delete record)).mono (h record hrecord)

/-- An update is about what the identifier names, and so is the read at its end. -/
theorem confined_updateAs {record : type.Record}
    (hrecord : Managed.ofIdentifier? identifier = some record)
    (h : type.LeadsTo context identifier key?) (id : ResourceId) (current : State)
    (declared : Resource) :
    Confined key? (updateAs type.Record context id identifier current declared) := by
  cases hprepare : prepare type.Record identifier current declared with
  | error defect =>
    rw [updateAs_of_error id hprepare]
    trivial
  | ok p =>
    rw [updateAs_of_prepare id hprepare]
    refine Memory.Confined.bind ?_ fun _ => confined_readAs h id
    split
    · trivial
    · have hid := ManagedType.identifier?_last (ManagedType.ne_empty_of_ofIdentifier? hrecord) hprepare
      have hupdate : Confined ((type.key? context p.last).map Key.stored)
          (Managed.update context p.desired p.last p.changed) :=
        Memory.confined_of_asksOnly (asksOnly_update p.desired p.last p.changed)
      rw [ManagedType.key?_of_identifier hrecord hid] at hupdate
      exact hupdate.mono (h record hrecord)

/-- **A creation is refused, or it is one call on the declared object.** The identifier that it ends with
leads to that object, or nowhere. -/
theorem ManagedType.create_cases (context : Context) (declared : type.Record) :
    (∃ e, (Managed.create context declared : Operation type.Record).quiet = .fail e) ∨
      ∃ (c : Call) (f : c.Reply → type.Record), c.key? = some (type.declaredKey declared) ∧
        (Managed.create context declared : Operation type.Record).quiet =
          (Operation.request c).bind (fun r => .done (f r)) ∧
        ∀ m reply, (Memory.perform c m).1 = .ok reply → ∃ identifier,
          Managed.identifier? (f reply) = some identifier ∧
            type.LeadsTo context identifier (some (type.declaredKey declared).stored) := by
  cases type with
  | account =>
    have hquiet := Account.quiet_create context declared
    cases hkind : Account.kind declared with
    | none => exact .inl ⟨_, by rw [hkind] at hquiet; exact hquiet⟩
    | some kind =>
      cases hvalid : Account.validate declared with
      | error defect => exact .inl ⟨_, by rw [hkind, hvalid] at hquiet; exact hquiet⟩
      | ok checked =>
        rw [hkind, hvalid] at hquiet
        refine .inr ⟨.putAccount _ _ _, _, rfl, hquiet, fun m reply hreply => ?_⟩
        obtain rfl := Except.ok.inj hreply
        refine ⟨_, rfl, fun record hrecord k hk => ?_⟩
        obtain ⟨_, hkey, rfl⟩ := Option.map_eq_some_iff.1 hk
        obtain ⟨key, hnames, rfl⟩ := Option.map_eq_some_iff.1 hkey
        rw [Account.key?_of_accountId (Account.valid_of_validate hvalid).name hrecord hnames]
        rfl
  | group =>
    have hquiet := Group.quiet_create context declared
    by_cases hvalid : GroupName.isValid (Group.name declared) = true
    · rw [GroupName.check, if_pos hvalid] at hquiet
      refine .inr ⟨.putGroup _ _, _, rfl, hquiet, fun m reply hreply => ?_⟩
      obtain rfl := Except.ok.inj hreply
      refine ⟨_, rfl, fun record hrecord k hk => ?_⟩
      obtain ⟨_, hkey, rfl⟩ := Option.map_eq_some_iff.1 hk
      obtain ⟨key, hnames, rfl⟩ := Option.map_eq_some_iff.1 hkey
      rw [Group.key?_of_groupId hvalid hrecord hnames]
      rfl
    · rw [GroupName.check, if_neg hvalid] at hquiet
      exact .inl ⟨_, hquiet⟩

/-- A creation is about the object with the declared names, and so is the read at its end, if there is
one. -/
theorem confined_createAs {declared : type.Record}
    (hcheck : (Managed.schema type.Record).check resource.attributes = .ok ())
    (hdecoded : Managed.ofAttributes resource.attributes = .ok declared) :
    Confined (some (type.declaredKey declared).stored) (createAs type.Record context resource) := by
  rw [createAs_of_decoded hcheck hdecoded, ← Memory.confined_quiet_iff, quiet_bind]
  obtain ⟨e, hfail⟩ | ⟨c, f, hkey, hquiet, hreply⟩ := ManagedType.create_cases context declared
  · rw [hfail]
    trivial
  · rw [hquiet, bind_assoc]
    refine Memory.confined_request_bind hkey fun m reply hm => ?_
    obtain ⟨identifier, hid, hleads⟩ := hreply m reply hm
    rw [done_bind, Memory.confined_quiet_iff, reportCreated_of_identifier hid]
    exact confined_readAs hleads resource.id

/-- **An operation on a resource is confined to the object that is addressed.** -/
theorem RequestedOn.confined {α : Type} {p : Operation α} (h : RequestedOn context p key?) :
    Confined key? p := by
  cases h with
  | read id identifier =>
    refine confined_dispatch fun type htype => ?_
    cases identifier with
    | none => trivial
    | some identifier =>
      rw [Option.bind_some, addressedKey?, htype]
      exact confined_readAs type.leadsTo_addressedKey? id
  | create resource =>
    refine confined_dispatch fun type htype => ?_
    by_cases hdecoded : ∃ declared : type.Record,
        (Managed.schema type.Record).check resource.attributes = .ok () ∧
          Managed.ofAttributes resource.attributes = .ok declared
    · obtain ⟨declared, hcheck, hdecoded⟩ := hdecoded
      rw [declaredKey?, htype, Option.bind_some, hdecoded]
      exact confined_createAs hcheck hdecoded
    · obtain ⟨e, hfail⟩ := createAs_of_not_decoded context hdecoded
      rw [← Memory.confined_quiet_iff, hfail]
      trivial
  | update id identifier current declared hidentifies =>
    refine confined_dispatch fun type htype => ?_
    obtain ⟨record, hrecord⟩ := hidentifies type htype
    rw [addressedKey?, htype]
    exact confined_updateAs hrecord type.leadsTo_addressedKey? id current declared
  | delete id identifier =>
    refine confined_dispatch fun type htype => ?_
    rw [addressedKey?, htype]
    exact confined_deleteAs type.leadsTo_addressedKey?

/-- **Operations on different resources do not interfere.** Each of them changes only the object that it
addresses. In whatever order their calls come, both can go on to their end, and when they have ended,
each has the result that it has alone, and the objects of the service are those that one operation
after the other leaves, whichever comes first. No failures are planned. -/
theorem operations_do_not_interfere {α β : Type} {p : Operation α} {q : Operation β}
    {k? k?' : Option Key} {m : Memory} (hp : RequestedOn context p k?) (hq : RequestedOn context q k?')
    (hdiffer : Memory.Differ k? k?') (hready : m.failing = []) :
    Memory.SameBut k? (Memory.run p m).state m ∧ Memory.SameBut k?' (Memory.run q m).state m ∧
      ∀ turns, let s := Memory.Pair.after ⟨p, q, m⟩ turns
        (∃ rest, (s.after rest).Ended) ∧
          (s.Ended →
            s.first.ended? = some (Memory.run p m).outcome ∧
            s.second.ended? = some (Memory.run q m).outcome ∧
            s.memory.object? = (Memory.run q (Memory.run p m).state).state.object? ∧
            s.memory.object? = (Memory.run p (Memory.run q m).state).state.object?) :=
  ⟨(hp.confined.run hready).2, (hq.confined.run hready).2, fun _ =>
    ⟨Memory.Pair.exists_ended _, Memory.Confined.apart hp.confined hq.confined hdiffer hready⟩⟩

/-- The update of an account, and the creation of its group, whose name is declared in capital letters:
the calls of the creation come in between those of the update, and both succeed as they do alone. -/
theorem operations_do_not_interfere_in_turns :
    let context : Context := ⟨"sub", "eastus"⟩
    let id : ResourceId := ⟨"cosmosdb.database_account", "db"⟩
    let attributes (reads : List Value) : Attributes := [
      ("name", .string "acc"), ("resource_group", .string "rg"), ("kind", .string "Sql"),
      ("consistency_level", .string "Strong"), ("write_region", .string "eastus"),
      ("read_regions", .list reads)]
    let m : Memory := Memory.seedAccount {} "rg" {
      name := some "acc", location := "eastus"
      properties := { locations := [{ name := "eastus", priority := 0 }] } }
    let p := update context id (Memory.accountId "rg" "acc") (.present id none (attributes []))
      ⟨id, attributes [.string "westus"]⟩
    let q := create context ⟨⟨"resource_group", "main"⟩, [("name", .string "RG")]⟩
    let turns := (List.replicate 12 [Memory.Turn.first, .second]).flatten
    let s := Memory.Pair.after ⟨p, q, m⟩ turns
    let calls := [
      "create_or_update_resource_group RG", "update_database_account rg/acc locations=eastus,westus",
      "get_resource_group RG", "update_database_account rg/acc properties",
      "failover_priority_change rg/acc eastus,westus", "get_database_account rg/acc"]
    RequestedOn context p (some (.account "rg" "acc")) ∧ RequestedOn context q (some (.group "rg")) ∧
      s.memory.calls = calls ∧
      (∃ state, s.first.ended? = some (.done state) ∧ (Memory.run p m).outcome = .done state) ∧
      (∃ state, s.second.ended? = some (.done state) ∧ (Memory.run q m).outcome = .done state) ∧
      s.memory.object? = (Memory.run q (Memory.run p m).state).state.object? := by
  intro context id attributes m p q turns s calls
  have hdiffer : Memory.Differ (some (.account "rg" "acc")) (some (.group "rg")) := by
    intro k hk hk'
    exact nomatch hk.trans hk'.symm
  have hp : RequestedOn context p (some (.account "rg" "acc")) := by
    have hkey : addressedKey? context id (Memory.accountId "rg" "acc") = some (.account "rg" "acc") := by
      decide +kernel
    rw [← hkey]
    refine .update id _ _ _ fun type htype => ?_
    obtain rfl : type = .account := by
      have haccount : ManagedType.ofName? id.type = some .account := by decide
      exact Option.some.inj (htype.symm.trans haccount)
    exact ⟨_, Account.ofIdentifier?_accountId (by decide)⟩
  have hq : RequestedOn context q (some (.group "rg")) := by
    have hkey : declaredKey? ⟨⟨"resource_group", "main"⟩, [("name", .string "RG")]⟩ =
        some (.group "rg") := by decide +kernel
    rw [← hkey]
    exact .create _
  have htest : (decide (s.memory.calls = calls) && s.first.ended?.any (·.satisfies (·.found)) &&
      s.second.ended?.any (·.satisfies (·.found))) = true := by decide +kernel
  simp only [Bool.and_eq_true, decide_eq_true_eq, Option.any_eq_true] at htest
  obtain ⟨⟨hcalls, o, ho, hfound⟩, o', ho', hfound'⟩ := htest
  obtain ⟨state, rfl, -⟩ := Outcome.exists_of_satisfies hfound
  obtain ⟨state', rfl, -⟩ := Outcome.exists_of_satisfies hfound'
  obtain ⟨-, -, hturns⟩ := operations_do_not_interfere hp hq hdiffer (m := m) rfl
  obtain ⟨hfirst, hsecond, hobject, -⟩ := (hturns turns).2 ⟨by rw [ho]; rfl, by rw [ho']; rfl⟩
  exact ⟨hp, hq, hcalls, ⟨state, ho, Option.some.inj (hfirst.symm.trans ho)⟩,
    ⟨state', ho', Option.some.inj (hsecond.symm.trans ho')⟩, hobject⟩

end Provider
end AzureProvisioning
