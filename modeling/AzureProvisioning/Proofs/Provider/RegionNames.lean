/-
# Which region names are sent

A region is declared by a text, and what is sent is the programmatic form of it. A text that is empty
counts as absent, but that is seen before the text is brought into its form: one that has nothing but
separators after its last dot, such as `-`, is declared, and its form is empty. An empty item of a list
is declared, too.

`sends_unnamed_region_iff` says that this is the one way an empty region gets into a request: a creation
or an update that changes anything at all sends one exactly when the declaration has such a text. Else
every region that is sent carries a name, as long as the state that an update starts from has none
without.
-/

import AzureProvisioning.Proofs.Account.Requirements
import AzureProvisioning.Proofs.Account.Safety
import AzureProvisioning.Proofs.Account.Spelling
import AzureProvisioning.Proofs.Group.Spelling
import AzureProvisioning.Proofs.Provider.Asking
import AzureProvisioning.Proofs.Provider.Creation
import AzureProvisioning.Proofs.Provider.Reporting

namespace AzureProvisioning

open Program

/-- The regions that a call names: the locations of an account, their priorities, the location of a new
group. -/
def Call.regionNames : Call → List String
  | putAccount _ _ account => account.properties.locations.map (·.name)
  | patchAccount _ _ update => (update.properties.locations.getD []).map (·.name)
  | changePriorities _ _ policies => policies.map (·.location)
  | putGroup _ group => [group.location]
  | _ => []

/-- One of the calls names the region. -/
def Sends (asked : List Call) (r : String) : Prop :=
  ∃ c ∈ asked, r ∈ c.regionNames

/-- One of the calls may change an object. -/
def Mutates (asked : List Call) : Prop :=
  ∃ c ∈ asked, c.isMutating = true

theorem sends_nil_iff {r : String} : Sends [] r ↔ False := by
  simp [Sends]

theorem mutates_nil_iff : Mutates [] ↔ False := by
  simp [Mutates]

theorem Call.regionNames_of_not_isMutating {c : Call} (h : c.isMutating = false) :
    c.regionNames = [] := by
  cases c with
  | getAccount | listAccounts | listAccountsIn | getGroup | listGroups => rfl
  | _ => cases h

namespace Account

variable {desired current : Account} {policy : ConsistencyPolicy} {write : String}

section Calls

variable (group name : String) (regions : List String)

theorem regionNames_createAccount (a : Account) (context : Context) (kind : AccountKind)
    (policy : ConsistencyPolicy) :
    (Call.putAccount group name (a.toRecord context kind policy regions)).regionNames = regions := by
  have hlocations : (a.toRecord context kind policy regions).properties.locations =
      prioritized regions := rfl
  rw [Call.regionNames, hlocations, prioritized, List.map_map]
  exact List.zipIdx_map_fst 0 regions

theorem regionNames_regionChange :
    ((regionChange regions).call group name).regionNames = regions := by
  show (prioritized regions).map (·.name) = regions
  rw [prioritized, List.map_map]
  exact List.zipIdx_map_fst 0 regions

theorem regionNames_order :
    ((Change.order (failoverOrder regions)).call group name).regionNames = regions := by
  show (failoverOrder regions).map (·.location) = regions
  rw [failoverOrder, List.map_map]
  exact List.zipIdx_map_fst 0 regions

end Calls

theorem isMutating_call (change : Change) (group name : String) :
    (change.call group name).isMutating = true := by
  cases change <;> rfl

/-- The changes of an update name regions of the current account and of the declaration alone. -/
theorem regionNames_subset_of_mem_changes {change : Change}
    (h : change ∈ changes desired current policy write) (group name : String) :
    (change.call group name).regionNames ⊆ current.regions ++ write :: desired.readRegions := by
  simp only [changes, List.mem_append, List.mem_cons, List.mem_map] at h
  obtain ⟨regions, hregions, rfl⟩ | rfl | rfl | ⟨_, -, rfl⟩ := h
  · rw [regionNames_regionChange]
    simp only [regionLists, List.mem_append, List.mem_ite_nil_left, List.mem_ite_nil_right,
      List.mem_singleton] at hregions
    obtain ⟨-, rfl⟩ | ⟨-, rfl⟩ := hregions
    · exact extendedRegions_subset
    · exact remainingRegions_subset
  · exact List.nil_subset _
  · rw [regionNames_order, orderedRegions]
    refine List.append_subset.2 ⟨List.subset_append_right _ _, fun r hr => ?_⟩
    obtain ⟨hr, -⟩ := Option.filter_eq_some_iff.1 (Option.mem_toList.1 hr)
    exact List.mem_append_left _ (List.mem_append_left _ (Option.mem_toList.2 hr))
  · rw [regionNames_regionChange]
    exact List.subset_append_right _ _

/-- A declared region that the current account does not have is added by the first change. -/
theorem changes_eq_cons {r : String} (hr : r ∈ write :: desired.readRegions)
    (hnew : r ∉ current.regions) (policy : ConsistencyPolicy) :
    ∃ rest, changes desired current policy write =
      regionChange (extendedRegions desired current write) :: rest := by
  have hadded : r ∈ addedRegions desired current write :=
    mem_addedRegions.2 ⟨(List.mem_cons.1 hr).symm, hnew⟩
  have hsome : (addedRegions desired current write).isEmpty = false :=
    List.isEmpty_eq_false_iff_exists_mem.2 ⟨r, hadded⟩
  rw [changes, regionLists, hsome]
  exact ⟨_, rfl⟩

section Run

variable {σ : Type} (answer : (c : Call) → σ → c.Answer × σ) (context : Context) (s : σ)

/-- A creation sends a region exactly when it sends anything and the account has the region. -/
theorem create_sends_iff (a : Account) (r : String) :
    Sends ((a.create context).run answer s).asked r ↔
      Mutates ((a.create context).run answer s).asked ∧ r ∈ a.regions := by
  cases hdefect : firstDefect? a.creationRequirements with
  | some e => simp [run_create_of_defect answer context hdefect s, sends_nil_iff, mutates_nil_iff]
  | none =>
    obtain ⟨kind, policy, write, hvalid, hasked⟩ := asked_create answer context hdefect s
    have hwrite := (valid_of_validate hvalid).writeRegion
    simp [Sends, Mutates, hasked, regionNames_createAccount, Call.isMutating, regions, hwrite]

/-- An account that is created has a region. -/
theorem regions_ne_nil_of_create {a : Account} (h : Mutates ((a.create context).run answer s).asked) :
    a.regions ≠ [] := by
  cases hdefect : firstDefect? a.creationRequirements with
  | some e =>
    rw [run_create_of_defect answer context hdefect s, mutates_nil_iff] at h
    exact h.elim
  | none =>
    obtain ⟨kind, policy, write, hvalid, -⟩ := asked_create answer context hdefect s
    simp [regions, (valid_of_validate hvalid).writeRegion]

/-- An update sends a region that the current account does not have exactly when it sends anything and
the declared account has the region. -/
theorem update_sends_iff (changed : List String) {r : String} (hnew : r ∉ current.regions) :
    Sends ((desired.update context current changed).run answer s).asked r ↔
      Mutates ((desired.update context current changed).run answer s).asked ∧ r ∈ desired.regions := by
  cases hvalid : desired.validate with
  | error e =>
    have hquiet := quiet_update context desired current changed
    rw [hvalid] at hquiet
    rw [← run_asked_quiet, hquiet]
    split <;> simp [ofCheck, sends_nil_iff, mutates_nil_iff]
  | ok checked =>
    obtain ⟨policy, write⟩ := checked
    obtain ⟨group, name, hfirst, -⟩ := asked_update answer context current changed hvalid s
    have hregions : desired.regions = write :: desired.readRegions := by
      simp [regions, (valid_of_validate hvalid).writeRegion]
    rw [hregions]
    constructor
    · rintro ⟨c, hc, hr⟩
      obtain ⟨change, hchange, rfl⟩ := List.mem_map.1 (hfirst.subset hc)
      refine ⟨⟨_, hc, isMutating_call change group name⟩, ?_⟩
      obtain hr | hr := List.mem_append.1 (regionNames_subset_of_mem_changes hchange group name hr)
      · exact absurd hr hnew
      · exact hr
    · rintro ⟨⟨c, hc, -⟩, hr⟩
      obtain ⟨rest, hrest⟩ := changes_eq_cons hr hnew policy
      rw [hrest, List.map_cons, List.prefix_cons_iff] at hfirst
      obtain hnil | ⟨later, hasked, -⟩ := hfirst
      · rw [hnil] at hc
        cases hc
      · refine ⟨_, hasked ▸ List.mem_cons_self, ?_⟩
        rw [regionNames_regionChange, mem_extendedRegions]
        exact .inr (List.mem_cons.1 hr).symm

end Run
end Account

/-- An update of a group names no region. -/
theorem Group.not_sends_update {σ : Type} (answer : (c : Call) → σ → c.Answer × σ) (context : Context)
    (s : σ) (desired current : Group) (changed : List String) (r : String) :
    ¬ Sends ((update context desired current changed).run answer s).asked r := by
  rw [← run_asked_quiet, quiet_update]
  split
  · cases current.key? context with
    | none => simp [Sends]
    | some name =>
      rw [Operation.asked_request_bind]
      · simp [Sends, Call.regionNames]
      · exact rfl
  · simp [Sends]

namespace Provider

/-- The regions that attributes declare, as they are spelled. An empty text declares none, unless it is
an item of a list. -/
def ManagedType.declaredRegions (type : ManagedType) (attributes : Attributes) : List String :=
  (attributes.optionalString type.regionField).toOption.join.toList ++
    match type with
    | account => (attributes.stringList "read_regions").toOption.getD []
    | group => []

/-- A region is declared of which nothing is left in programmatic form. -/
def ManagedType.DeclaresUnnamed (type : ManagedType) (attributes : Attributes) : Prop :=
  ∃ v ∈ type.declaredRegions attributes, Region.normalize v = ""

variable {type : ManagedType} {attributes : Attributes} {context : Context}

/-- The regions of a record are the programmatic forms of those that its attributes declare. -/
theorem ManagedType.mem_regions_iff {record : type.Record} {r : String}
    (h : Managed.ofAttributes attributes = .ok record) :
    r ∈ type.regions record ↔ ∃ v ∈ type.declaredRegions attributes, Region.normalize v = r := by
  cases type with
  | account =>
    have hdecodes := Account.ofAttributes_eq_ok_iff.1 h
    obtain ⟨o, ho, hwrite⟩ := hdecodes.writeRegion
    obtain ⟨l, hl, hreads⟩ := hdecodes.readRegions
    have hdeclared : ManagedType.account.declaredRegions attributes = o.toList ++ l := by
      rw [declaredRegions, regionField, ho, hl]
      rfl
    have hregions : ManagedType.account.regions record =
        (o.map Region.normalize).toList ++ Region.distinctNames l := by
      rw [regions, Account.regions, hwrite, hreads]
    rw [hdeclared, hregions, List.mem_append, Region.mem_distinctNames]
    cases o <;> simp [eq_comm]
  | group =>
    have hdecodes := Group.ofAttributes_eq_ok_iff.1 h
    obtain ⟨o, ho, hlocation⟩ := hdecodes.location
    have hdeclared : ManagedType.group.declaredRegions attributes = o.toList := by
      rw [declaredRegions, regionField, ho, List.append_nil]
      rfl
    have hregions : ManagedType.group.regions record = (o.map Region.normalize).toList := by
      rw [regions, hlocation]
    rw [hdeclared, hregions]
    cases o <;> simp [eq_comm]

theorem ManagedType.declaresUnnamed_iff {record : type.Record}
    (h : Managed.ofAttributes attributes = .ok record) :
    type.DeclaresUnnamed attributes ↔ "" ∈ type.regions record :=
  (mem_regions_iff h).symm

theorem ManagedType.declaredRegions_eq_nil_iff {record : type.Record}
    (h : Managed.ofAttributes attributes = .ok record) :
    type.declaredRegions attributes = [] ↔ type.regions record = [] := by
  have hmem := fun r => mem_regions_iff (r := r) h
  rw [List.eq_nil_iff_forall_not_mem, List.eq_nil_iff_forall_not_mem]
  exact ⟨fun hnone r hr => by
      obtain ⟨v, hv, -⟩ := (hmem r).1 hr
      exact hnone v hv,
    fun hnone v hv => hnone _ ((hmem _).2 ⟨v, hv, rfl⟩)⟩

section Runs

variable {σ : Type} (answer : (c : Call) → σ → c.Answer × σ) (s : σ)

theorem OnlyReads.asked_bind {α β : Type} {p : Operation α} {f : α → Operation β}
    (hf : ∀ a, OnlyReads (f a)) (r : String) :
    (Sends ((p.bind f).run answer s).asked r ↔ Sends (p.run answer s).asked r) ∧
      (Mutates ((p.bind f).run answer s).asked ↔ Mutates (p.run answer s).asked) := by
  constructor
  · refine exists_mem_asked_bind_iff (P := fun c => r ∈ c.regionNames) (fun a => ?_) answer s
    exact (hf a).mono fun c hc => by simp [Call.regionNames_of_not_isMutating hc]
  · refine exists_mem_asked_bind_iff (P := fun c => c.isMutating = true) (fun a => ?_) answer s
    exact (hf a).mono fun c hc => by simp [hc]

/-- A creation sends an empty region exactly when it sends anything and the record has one, or has none
and neither has the context. -/
theorem ManagedType.create_sends_iff (context : Context) (record : type.Record) :
    let asked := ((Managed.create context record : Operation type.Record).run answer s).asked
    Sends asked "" ↔ Mutates asked ∧
      ("" ∈ type.regions record ∨ type.regions record = [] ∧ context.region = "") := by
  intro asked
  cases type with
  | account =>
    have hsends : Sends asked "" ↔ Mutates asked ∧ "" ∈ Account.regions record :=
      Account.create_sends_iff answer context s record ""
    rw [hsends]
    refine and_congr_right fun hmutates => ⟨.inl, fun h => ?_⟩
    obtain hempty | ⟨hnil, -⟩ := h
    · exact hempty
    · exact absurd hnil (Account.regions_ne_nil_of_create answer context s hmutates)
  | group =>
    have hasked : asked = ((Group.create context record).quiet.run answer s).asked :=
      (run_asked_quiet answer _ s).symm
    rw [hasked, Group.quiet_create]
    cases GroupName.check (.string (Group.name record)) with
    | error detail => simp [sends_nil_iff, mutates_nil_iff]
    | ok =>
      rw [Operation.asked_request_bind]
      · cases hlocation : Group.location record <;>
          simp [Sends, Mutates, Call.regionNames, Call.isMutating, regions, hlocation, @eq_comm _ ""]
      · exact rfl

variable {identifier : String} {current : State} {declared : Resource} {p : Preparation type.Record}

theorem ManagedType.declaredRegions_insert_id (type : ManagedType) (attributes : Attributes)
    (v : Value) : type.declaredRegions (attributes.insert "id" v) = type.declaredRegions attributes := by
  have hget {k : String} (hk : k ≠ "id") : Dictionary.get? (attributes.insert "id" v) k =
      attributes.get? k := by
    rw [Dictionary.get?_insert, if_neg hk.symm]
  cases type with
  | account =>
    simp only [declaredRegions, regionField, Attributes.optionalString, Attributes.stringList,
      hget (by decide : "write_region" ≠ "id"), hget (by decide : "read_regions" ≠ "id")]
  | group =>
    simp only [declaredRegions, regionField, Attributes.optionalString,
      hget (by decide : "location" ≠ "id")]

/-- The location of a group that an update goes on with is the one it has. -/
theorem location_ne_empty_of_changed {desired last : Group} {changed : List String}
    (hlast : last.location ≠ some "")
    (h : Plan.changed Group.schema desired.toAttributes last.toAttributes = .ok changed) :
    desired.location ≠ some "" := by
  intro hempty
  have hget (g : Group) : g.toAttributes.get? "location" = g.location.map .string :=
    Group.get?_toAttributes g "location"
  have hdeclared : desired.toAttributes.get? "location" = some (.string "") := by
    rw [hget, hempty]
    rfl
  have hdiffers : Plan.agrees last.toAttributes "location" (.string "") = false := by
    rw [Plan.agrees, hget]
    cases hl : last.location with
    | none => rfl
    | some l =>
      have hne : l ≠ "" := fun he => hlast (he ▸ hl)
      simpa [Value.same] using hne
  have hcompares : Plan.compares Group.schema "location" = true := by decide +kernel
  have himmutable : Group.schema.mutability? "location" = some .immutable := by decide +kernel
  obtain ⟨field, hfield⟩ := Plan.exists_immutable_iff.2
    ⟨_, Schema.mem_withDefaults hdeclared, hcompares, himmutable, hdiffers⟩
  cases h.symm.trans hfield

/-- From a state whose regions carry names, an update sends an empty region exactly when it sends
anything and the declaration has one. -/
theorem ManagedType.update_sends_iff (context : Context)
    (hprepare : prepare type.Record identifier current declared = .ok p)
    (hcurrent : ¬ type.DeclaresUnnamed current.attributes) :
    let asked := ((Managed.update context p.desired p.last p.changed).run answer s).asked
    Sends asked "" ↔ Mutates asked ∧ type.DeclaresUnnamed declared.attributes := by
  intro asked
  obtain ⟨-, hdesired, hlast, hchanged⟩ := prepare_eq_ok_iff.1 hprepare
  rw [declaresUnnamed_iff hdesired]
  have hnew : "" ∉ type.regions p.last := by
    rwa [← declaresUnnamed_iff hlast, DeclaresUnnamed, declaredRegions_insert_id]
  cases type with
  | account => exact Account.update_sends_iff answer context s p.changed hnew
  | group =>
    -- it is tags that are written, and a location that has changed is refused before
    have hlocation : Group.location p.desired ≠ some "" :=
      location_ne_empty_of_changed (by simpa [regions] using hnew) hchanged
    have hsends : ¬ Sends asked "" := Group.not_sends_update answer context s _ _ _ _
    simp [hsends, regions, hlocation]

theorem onlyReads_reportCreated (context : Context) (id : ResourceId) (created : type.Record) :
    OnlyReads (reportCreated context id created) := by
  cases hidentifier : Managed.identifier? created with
  | none =>
    rw [reportCreated_of_no_identifier hidentifier]
    trivial
  | some identifier =>
    rw [reportCreated_of_identifier hidentifier, readAs_some]
    exact onlyReads_reported type context id identifier

theorem sends_createAs_iff (type : ManagedType) (context : Context) (resource : Resource) :
    Sends ((createAs type.Record context resource).run answer s).asked "" ↔
      Mutates ((createAs type.Record context resource).run answer s).asked ∧
        (type.DeclaresUnnamed resource.attributes ∨
          type.declaredRegions resource.attributes = [] ∧ context.region = "") := by
  by_cases hdecodes : ∃ declared : type.Record,
      (Managed.schema type.Record).check resource.attributes = .ok () ∧
      Managed.ofAttributes resource.attributes = .ok declared
  · obtain ⟨declared, hcheck, hdeclared⟩ := hdecodes
    rw [createAs_of_decoded hcheck hdeclared]
    obtain ⟨hsends, hmutates⟩ := OnlyReads.asked_bind answer s (p := Managed.create context declared)
      (fun created : type.Record => onlyReads_reportCreated context resource.id created) ""
    rw [hsends, hmutates, ManagedType.declaresUnnamed_iff hdeclared,
      ManagedType.declaredRegions_eq_nil_iff hdeclared]
    exact type.create_sends_iff answer s context declared
  · obtain ⟨e, hfail⟩ := createAs_of_not_decoded context hdecodes
    have hasked : ((createAs type.Record context resource).run answer s).asked = [] := by
      rw [← run_asked_quiet, hfail]
      rfl
    rw [hasked, sends_nil_iff, mutates_nil_iff, false_and]

theorem sends_updateAs_iff (context : Context) (id : ResourceId) (identifier : String)
    (declared : Resource) (hcurrent : ¬ type.DeclaresUnnamed current.attributes) :
    Sends ((updateAs type.Record context id identifier current declared).run answer s).asked "" ↔
      Mutates ((updateAs type.Record context id identifier current declared).run answer s).asked ∧
        type.DeclaresUnnamed declared.attributes := by
  cases hprepare : prepare type.Record identifier current declared with
  | error e =>
    rw [updateAs_of_error id hprepare]
    simp [sends_nil_iff, mutates_nil_iff]
  | ok p =>
    rw [updateAs_of_prepare id hprepare]
    obtain ⟨hsends, hmutates⟩ := OnlyReads.asked_bind answer s (r := "")
      (p := if p.changed.isEmpty then .done () else Managed.update context p.desired p.last p.changed)
      (fun _ : Unit => onlyReads_reported type context id identifier)
    rw [hsends, hmutates]
    split
    · simp [sends_nil_iff, mutates_nil_iff]
    · exact ManagedType.update_sends_iff answer s context hprepare hcurrent

end Runs

section Reported

/-- What an account reports of its regions is what it has, without a write region that is empty. -/
theorem declaredRegions_account (a : Account) :
    ManagedType.account.declaredRegions a.toAttributes =
      (a.writeRegion.filter (· ≠ "")).toList ++ a.readRegions := by
  have hwrite : a.toAttributes.optionalString "write_region" = .ok (a.writeRegion.filter (· ≠ "")) :=
    Attributes.optionalString_of_map (a.get?_toAttributes "write_region")
  have hreads : a.toAttributes.stringList "read_regions" = .ok a.readRegions :=
    Attributes.stringList_of_get? (a.get?_toAttributes "read_regions")
  rw [ManagedType.declaredRegions, ManagedType.regionField, hwrite, hreads]
  rfl

theorem declaredRegions_group (g : Group) :
    ManagedType.group.declaredRegions g.toAttributes = (g.location.filter (· ≠ "")).toList := by
  rw [ManagedType.declaredRegions, ManagedType.regionField, Group.optionalString_location,
    List.append_nil]
  rfl

/-- **What is reported has its regions in programmatic form**, so one without a name is empty. -/
theorem Reported.normalize_eq {s : State} (h : Reported context type s) {v : String}
    (hv : v ∈ type.declaredRegions s.attributes) : Region.normalize v = v := by
  obtain ⟨id, rfl⟩ | ⟨record, w, -, hattributes⟩ := h.absent_or_takenOver
  · cases type <;> cases hv
  · rw [hattributes] at hv
    cases type with
    | account =>
      have hsettled := Account.settled_hydrate record w
      change v ∈ ManagedType.account.declaredRegions (Account.hydrate record w).toAttributes at hv
      rw [declaredRegions_account, List.mem_append, Option.mem_toList] at hv
      obtain hv | hv := hv
      · exact hsettled.write v (Option.filter_eq_some_iff.1 hv).1
      · exact Region.normalize_of_mem_distinctNames (hsettled.reads.symm ▸ hv)
    | group =>
      change v ∈ ManagedType.group.declaredRegions (Group.hydrate record w).toAttributes at hv
      rw [declaredRegions_group, Option.mem_toList] at hv
      exact Group.settled_hydrate record w v (Option.filter_eq_some_iff.1 hv).1

end Reported

/-- **When an empty region is sent**, whoever answers the calls. A creation that changes anything sends
one exactly when a declared region has no name, or no region is declared and the context has none. An
update that changes anything sends one exactly when a declared region has no name, if the regions of the
state that it starts from carry names; of a state that the provider has reported this is said of the
texts themselves. A text has no name when it has nothing but separators after its last dot. -/
theorem sends_unnamed_region_iff {σ : Type} (answer : (c : Call) → σ → c.Answer × σ) (context : Context)
    (type : ManagedType) (s : σ) :
    (∀ resource : Resource, ManagedType.ofName? resource.id.type = some type →
      let asked := ((create context resource).run answer s).asked
      (Sends asked "" ↔ Mutates asked ∧ (type.DeclaresUnnamed resource.attributes ∨
        type.declaredRegions resource.attributes = [] ∧ context.region = ""))) ∧
    (∀ (id : ResourceId) (identifier : String) (current : State) (declared : Resource),
      ManagedType.ofName? id.type = some type → ¬ type.DeclaresUnnamed current.attributes →
      let asked := ((update context id identifier current declared).run answer s).asked
      (Sends asked "" ↔ Mutates asked ∧ type.DeclaresUnnamed declared.attributes)) ∧
    (∀ current : State, Reported context type current →
      ∀ v ∈ type.declaredRegions current.attributes, Region.normalize v = v) ∧
    ∀ v : String, Region.normalize v = "" ↔
      ∀ c ∈ Text.afterLast '.' v.toList, Region.isSeparator c = true := by
  refine ⟨fun resource htype => ?_, fun id identifier current declared htype hcurrent => ?_,
    fun current h v hv => h.normalize_eq hv, fun v => Region.normalize_eq_empty_iff⟩
  · rw [create, run_dispatch htype]
    exact sends_createAs_iff answer s type context resource
  · rw [update, run_dispatch htype]
    exact sends_updateAs_iff answer s context id identifier declared hcurrent

/-- An account is declared in the region `-`, and later one is to get a read region without a name: both
send an empty region. -/
theorem sends_unnamed_region_iff_hyphen :
    let context : Context := ⟨"sub", "eastus"⟩
    let id : ResourceId := ⟨Account.resourceType, "db"⟩
    let declared (write : String) (reads : List String) : Resource := ⟨id, [
      ("name", .string "acc"), ("resource_group", .string "rg"), ("kind", .string "Sql"),
      ("consistency_level", .string "Strong"), ("write_region", .string write),
      ("read_regions", .ofStrings reads)]⟩
    let current : State := .present id none (declared "eastus" []).attributes
    let creating := Memory.run (create context (declared "-" [])) {}
    let updating := Memory.run
      (update context id (Memory.accountId "rg" "acc") current (declared "eastus" [""])) {}
    ManagedType.ofName? id.type = some .account ∧
    ¬ ManagedType.account.DeclaresUnnamed current.attributes ∧
    Sends creating.asked "" ∧ Sends updating.asked "" := by
  intro context id declared current creating updating
  obtain ⟨hcreate, hupdate, -, -⟩ := sends_unnamed_region_iff Memory.answer context .account {}
  have hid : ManagedType.ofName? id.type = some .account := by decide +kernel
  have hcurrent : ¬ ManagedType.account.DeclaresUnnamed current.attributes := by
    show ¬ ∃ v ∈ ["eastus"], Region.normalize v = ""
    decide +kernel
  refine ⟨hid, hcurrent, (hcreate (declared "-" []) hid).2 ⟨?_, .inl ?_⟩,
    (hupdate id _ current (declared "eastus" [""]) hid hcurrent).2 ⟨?_, ?_⟩⟩
  · show ∃ c ∈ creating.asked, c.isMutating = true
    decide +kernel
  · exact ⟨"-", List.mem_cons_self, by decide +kernel⟩
  · show ∃ c ∈ updating.asked, c.isMutating = true
    decide +kernel
  · exact ⟨"", List.mem_cons_of_mem _ List.mem_cons_self, by decide +kernel⟩

end Provider
end AzureProvisioning
