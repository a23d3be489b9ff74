/-
# Accounts that an update has left halfway

Whatever an interrupted update has made of a created account, it is still the account that was
created, in regions of the two declarations (`Halfway`). What a refresh reports of such an account
is decoded back (`Refreshed.told`), and an update from there finds only fields that it can write
(`Refreshed.exists_changed`), so its calls are made unless they are hit
(`Refreshed.runUnder_update`). This is all that the attempts of an update need (`recoverable`).
-/

import AzureProvisioning.Proofs.Account.Creation
import AzureProvisioning.Proofs.Provider.Attempts

namespace AzureProvisioning
namespace Account

open Memory Provider

/-- The record of a created account, as far as no update writes it. -/
structure Base (base : DatabaseAccount) (group name : String) (kind : AccountKind) : Prop where
  hasId : base.id = some (accountId group name)
  hasName : base.name = some name
  hasKind : AccountKind.ofAccount? base = some kind
  documentEndpoint : base.properties.documentEndpoint ≠ some ""
  provisioningState : base.properties.provisioningState ≠ some ""
  validName : AccountName.isValid name = true
  validGroup : group ≠ ""
  slash : '/' ∉ group.toList

/-- Regions that a declaration can name: in programmatic form, and not empty. -/
structure Usable (allowed : List String) : Prop where
  normal : ∀ r ∈ allowed, Region.normalize r = r
  named : ∀ r ∈ allowed, r ≠ ""

theorem Alike.trans {a b c : DatabaseAccount} (h : Alike a b) (h' : Alike b c) : Alike a c where
  id := h'.id.trans h.id
  name := h'.name.trans h.name
  location := h'.location.trans h.location
  kind := h'.kind.trans h.kind
  provisioningState := h'.provisioningState.trans h.provisioningState
  documentEndpoint := h'.documentEndpoint.trans h.documentEndpoint
  offerType := h'.offerType.trans h.offerType
  capabilities := h'.capabilities.trans h.capabilities

theorem Halfway.trans {base a b : DatabaseAccount} {allowed : List String}
    (h : Halfway base allowed a) (h' : Halfway a allowed b) : Halfway base allowed b :=
  ⟨h.alike.trans h'.alike, h'.arranged⟩

theorem Alike.ofAccount? {a b : DatabaseAccount} (h : Alike a b) :
    AccountKind.ofAccount? b = AccountKind.ofAccount? a := by
  unfold AccountKind.ofAccount? AccountKind.hasCapability
  rw [h.kind, h.capabilities]

/-- The record `live` is what a refresh takes over from `stored`: the account that was created, in
regions that are allowed. -/
structure Refreshed (live : Account) (stored : DatabaseAccount) (allowed : List String)
    (group name : String) (kind : AccountKind) (former : String) : Prop where
  hasName : live.name = name
  hasGroup : live.group = group
  hasKind : live.kind = some kind
  hasId : live.id = some (accountId group name)
  writes : live.writeRegion = some former
  carries : Carries stored former live.regions
  within : live.regions ⊆ allowed
  told : live.Told

section Halfway

variable {base stored : DatabaseAccount} {allowed : List String} {group name : String}
  {kind : AccountKind}

/-- A refresh takes the regions over. -/
theorem Halfway.hydrate_regions (hu : Usable allowed) (h : Halfway base allowed stored)
    (before : Account) :
    ∃ former, (before.hydrate stored).writeRegion = some former ∧
      Carries stored former (before.hydrate stored).regions ∧
      (before.hydrate stored).regions ⊆ allowed := by
  obtain ⟨names, harr, hsub⟩ := h.arranged
  obtain ⟨former, reads, rfl⟩ := List.exists_cons_of_ne_nil harr.nonempty
  obtain ⟨hwrite, hperm⟩ := perm_hydrate_regions before harr fun r hr => hu.normal r (hsub hr)
  exact ⟨former, hwrite, ⟨reads, harr, hperm⟩, fun r hr => hsub (hperm.symm.subset hr)⟩

/-- It is found under the name and in the group that it was created with. -/
theorem Halfway.hydrate_names (hb : Base base group name kind) (h : Halfway base allowed stored) :
    ((addressedAt group name).hydrate stored).name = name ∧
      ((addressedAt group name).hydrate stored).group = group := by
  have hid : stored.id = some (accountId group name) := h.alike.id.trans hb.hasId
  have hgroup : ((addressedAt group name).hydrate stored).group =
      ((stored.id.bind ArmId.parse?).map (·.group)).getD group := rfl
  rw [hgroup, hid, Option.bind_some, parse?_accountId hb.validName, if_neg hb.slash]
  exact ⟨by simp [hydrate, h.alike.name, hb.hasName], rfl⟩

/-- What is taken over is told by its attributes. -/
theorem Halfway.told (hb : Base base group name kind) (hu : Usable allowed)
    (h : Halfway base allowed stored) : ((addressedAt group name).hydrate stored).Told := by
  obtain ⟨former, hwrite, hcarries, hsub⟩ := h.hydrate_regions hu (addressedAt group name)
  obtain ⟨hname, hgroup⟩ := h.hydrate_names hb
  rw [regions, hwrite, Option.toList_some, List.singleton_append] at hcarries hsub
  constructor
  case name =>
    rw [hname]
    exact AccountName.ne_empty hb.validName
  case group =>
    rw [hgroup]
    exact hb.validGroup
  case write =>
    rw [hwrite]
    exact fun he => hu.named former (hsub List.mem_cons_self) (Option.some.inj he)
  case writeNormal =>
    intro w hw
    obtain rfl := Option.some.inj (hwrite.symm.trans hw)
    exact hu.normal former (hsub List.mem_cons_self)
  case reads =>
    exact Region.distinctNames_of_normal (List.nodup_cons.1 hcarries.nodup).2
      fun r hr => hu.normal r (hsub (List.mem_cons_of_mem _ hr))
  case id =>
    show stored.id ≠ some ""
    rw [h.alike.id, hb.hasId]
    simp [accountId, AccountName.ne_empty hb.validName]
  case documentEndpoint =>
    exact fun he => hb.documentEndpoint (h.alike.documentEndpoint.symm.trans he)
  case provisioningState =>
    exact fun he => hb.provisioningState (h.alike.provisioningState.symm.trans he)

theorem Halfway.refreshed (hb : Base base group name kind) (hu : Usable allowed)
    (h : Halfway base allowed stored) :
    ∃ former, Refreshed ((addressedAt group name).hydrate stored) stored allowed group name kind
      former := by
  obtain ⟨former, hwrite, hcarries, hsub⟩ := h.hydrate_regions hu (addressedAt group name)
  obtain ⟨hname, hgroup⟩ := h.hydrate_names hb
  refine ⟨former, ?_⟩
  constructor
  case hasName => exact hname
  case hasGroup => exact hgroup
  case hasKind => exact h.alike.ofAccount?.trans hb.hasKind
  case hasId => exact h.alike.id.trans hb.hasId
  case writes => exact hwrite
  case carries => exact hcarries
  case within => exact hsub
  case told => exact h.told hb hu

end Halfway

/-- The attributes that are set at creation only. -/
theorem mem_of_immutable {k : String} (h : schema.mutability? k = some .immutable) :
    k ∈ ["name", "resource_group", "kind"] := by
  have hall : ∀ e ∈ schema.attributes, e.2.mutability = .immutable →
      e.1 ∈ ["name", "resource_group", "kind"] := by decide +kernel
  obtain ⟨e, he, rfl, himmutable⟩ := Schema.exists_of_mutability? h
  exact hall e he himmutable

section Update

variable {live desired : Account} {base stored : DatabaseAccount} {allowed : List String}
  {group name former : String} {kind : AccountKind}

/-- A declaration of the same account differs from it only in what an update writes. -/
theorem Refreshed.exists_changed (h : Refreshed live stored allowed group name kind former)
    (hname : desired.name = name) (hgroup : desired.group = group)
    (hkind : desired.kind = some kind) (htags : desired.tags.Distinct) :
    ∃ names, Plan.changed schema desired.toAttributes live.toAttributes = .ok names := by
  refine Plan.exists_changed_of_get? (withDefaults_toAttributes desired) desired.toAttributes_distinct
    (fun e he => wellFormed_of_mem_toAttributes htags he) fun k v himmutable hv => ?_
  have hk := mem_of_immutable himmutable
  simp only [List.mem_cons, List.not_mem_nil, or_false] at hk
  rw [get?_toAttributes] at hv ⊢
  rw [← hv]
  rcases hk with rfl | rfl | rfl
  · simp [fields, declaredFields, h.hasName, hname]
  · simp [fields, declaredFields, h.hasGroup, hgroup, List.lookup_cons]
  · simp [fields, declaredFields, h.hasKind, hkind, List.lookup_cons]

/-- **An update of an account that was left halfway**, under faults, leaves it halfway again.
Without faults it makes every change and succeeds, and only an update that has made every change
succeeds. -/
theorem Refreshed.runUnder_update {m : Memory} {context : Context} {given write : String}
    {accounts : Dictionary (String × String) (String × DatabaseAccount)}
    {groups : Dictionary String ResourceGroup} {policy : ConsistencyPolicy} {names : List String}
    (hits : List Bool) (hcontext : context.subscription = subscription)
    (hb : Base base group name kind) (hhalf : Halfway base allowed stored)
    (h : Refreshed live stored allowed group name kind former) (hm : m.Holds accounts groups)
    (hget : accounts.get? (accountKey group name) = some (given, stored))
    (hvalid : desired.validate = .ok (policy, write)) (hd : desired.readRegions.Nodup)
    (hdeclared : write :: desired.readRegions ⊆ allowed)
    (hchanged : Plan.changed schema desired.toAttributes live.toAttributes = .ok names)
    (hne : names ≠ []) :
    let ran := runUnder hits (desired.update context live.withoutIdleBounds names) m
    (∃ d, Halfway base allowed d ∧
      (ran.outcome = .done () → d = converged stored desired policy write) ∧
      ran.state.2.Holds (accounts.insert (accountKey group name) (given, d)) groups) ∧
    ((∀ hit ∈ hits, hit = false) → ran.outcome = .done () ∧ ran.asked =
      (changes desired live.withoutIdleBounds policy write).map (Change.call group name)) := by
  have hkey : live.withoutIdleBounds.key? context = some (group, name) :=
    key?_of_id hcontext hb.validName hb.validGroup hb.slash h.hasId
  have hextended : extendedRegions desired live.withoutIdleBounds write ⊆ allowed := by
    intro r hr
    rcases mem_extendedRegions.1 hr with hr | hr | hr
    · exact h.within hr
    · exact hdeclared (List.mem_cons_of_mem _ hr)
    · exact hdeclared (hr ▸ List.mem_cons_self)
  have hupdatable := exists_updatable_of_changed hchanged hne
  obtain ⟨⟨d, hd', hlast, hholds⟩, hdone⟩ := Account.runUnder_update hits hm hget hkey h.writes
    h.carries hvalid hd hextended hupdatable
  exact ⟨⟨d, hhalf.trans hd', hlast, hholds⟩, hdone⟩

end Update

/-- A declaration, read as `desired`, of an account that has been created, in regions that are
allowed. -/
structure Redeclared (declared : Resource) (desired : Account) (allowed : List String)
    (group name : String) (kind : AccountKind) (policy : ConsistencyPolicy) (write : String) :
    Prop where
  check : schema.check declared.attributes = .ok ()
  decoded : ofAttributes declared.attributes = .ok desired
  wellFormed : declared.attributes.WellFormed
  hasName : desired.name = name
  hasGroup : desired.group = group
  hasKind : desired.kind = some kind
  valid : desired.validate = .ok (policy, write)
  within : write :: desired.readRegions ⊆ allowed

section Redeclared

variable {declared : Resource} {desired : Account} {allowed : List String} {group name : String}
  {kind : AccountKind} {policy : ConsistencyPolicy} {write : String} {base stored : DatabaseAccount}
  {accounts : Dictionary (String × String) (String × DatabaseAccount)}
  {groups : Dictionary String ResourceGroup} {context : Context} {given : String}

theorem Redeclared.tags_distinct
    (h : Redeclared declared desired allowed group name kind policy write) :
    desired.tags.Distinct :=
  Attributes.stringMap_distinct h.wellFormed (ofAttributes_eq_ok_iff.1 h.decoded).tags

/-- What the provider finds out of an account that has been left halfway. -/
theorem Redeclared.view (h : Redeclared declared desired allowed group name kind policy write)
    (groups : Dictionary String ResourceGroup) (hcontext : context.subscription = subscription)
    (hb : Base base group name kind) (hu : Usable allowed) (hhalf : Halfway base allowed stored)
    (hget : accounts.get? (accountKey group name) = some (given, stored)) (id : ResourceId) :
    let live := (addressedAt group name).hydrate stored
    ∃ names, Plan.changed schema desired.toAttributes live.toAttributes = .ok names ∧
      View context id (accountId group name) declared accounts groups (.getAccount group name) live
        ⟨desired, live.withoutIdleBounds, names⟩ := by
  intro live
  obtain ⟨former, hr⟩ : ∃ former, Refreshed live stored allowed group name kind former :=
    hhalf.refreshed hb hu
  obtain ⟨names, hnames⟩ := hr.exists_changed h.hasName h.hasGroup h.hasKind h.tags_distinct
  refine ⟨names, hnames, ⟨?_, ?_, ?_⟩⟩
  case refine_1 => exact reads_of_stored hcontext hb.validName hb.validGroup hb.slash hget
  case refine_2 => exact prepare_reported h.check h.decoded hr.told hr.hasId hnames
  case refine_3 =>
    intro k v hv
    have hsame : Managed.toAttributes live.withoutIdleBounds = Managed.toAttributes live :=
      toAttributes_withoutIdleBounds live
    rw [← hsame]
    exact hv

/-- An account that has been updated as a whole is in its declared state, if there are priorities for
all of its regions. -/
theorem Redeclared.inPlace (h : Redeclared declared desired allowed group name kind policy write)
    (hfew : (write :: desired.readRegions).length ≤ priorityLimit)
    (hcontext : context.subscription = subscription) (hb : Base base group name kind)
    (hu : Usable allowed) (hhalf : Halfway base allowed stored)
    (hget : accounts.get? (accountKey group name) =
      some (given, converged stored desired policy write))
    (hlast : Halfway base allowed (converged stored desired policy write)) (id : ResourceId) :
    InPlace Account context id (accountId group name) declared accounts groups := by
  obtain ⟨names, hnames, hview⟩ := h.view groups hcontext hb hu hlast hget id
  refine ⟨_, _, _, hview, ?_⟩
  obtain ⟨former, hr⟩ := hhalf.refreshed hb hu
  have hvalid := valid_of_validate h.valid
  have hdecodes := ofAttributes_eq_ok_iff.1 h.decoded
  have hreads := hdecodes.readRegions_nodup
  have hlive : (addressedAt group name).hydrate (converged stored desired policy write) =
      ((addressedAt group name).hydrate stored).withUpdatable desired.withoutIdleBounds :=
    hydrate_converged hvalid hreads hfew (fun r hr => hu.normal r (h.within hr)) _ _
  have hnil : Plan.changed schema desired.toAttributes
      ((addressedAt group name).hydrate (converged stored desired policy write)).toAttributes =
      .ok [] := by
    refine changed_eq_nil h.tags_distinct ?_
    rw [hlive]
    by_cases hl : desired.consistencyLevel = some .boundedStaleness <;>
      simp [declaredFields, withUpdatable, withoutIdleBounds, hl, hr.hasName, hr.hasGroup, hr.hasKind,
        h.hasName, h.hasGroup, h.hasKind]
  exact Except.ok.inj (hnames.symm.trans hnil)

/-- **An account that has been left halfway is recovered**: every update keeps it the account that
was created, in regions of the two declarations, and one that is not hit puts it into its declared
state. -/
theorem Redeclared.recoverable
    (h : Redeclared declared desired allowed group name kind policy write)
    (hfew : (write :: desired.readRegions).length ≤ priorityLimit)
    (hcontext : context.subscription = subscription) (hb : Base base group name kind)
    (hu : Usable allowed) (id : ResourceId) :
    Recoverable Account context id (accountId group name) declared fun accounts _ =>
      ∃ given stored, accounts.get? (accountKey group name) = some (given, stored) ∧
        Halfway base allowed stored := by
  rintro accounts groups ⟨given, stored, hget, hhalf⟩
  obtain ⟨names, hnames, hview⟩ := h.view groups hcontext hb hu hhalf hget id
  obtain ⟨former, hr⟩ := hhalf.refreshed hb hu
  refine ⟨_, _, _, hview, fun hchanged m hits hm => ?_⟩
  have hreads := (ofAttributes_eq_ok_iff.1 h.decoded).readRegions_nodup
  obtain ⟨⟨d, hd, hlast, hholds⟩, hdone⟩ := hr.runUnder_update hits hcontext hb hhalf hm hget h.valid
    hreads h.within hnames hchanged
  refine ⟨_, _, hholds, ⟨given, d, Dictionary.get?_insert_self _ _ _, hd⟩, fun hnone => ?_,
    fun hall => ?_⟩
  · exact (hdone (by simp [hnone])).1
  · obtain rfl := hlast hall
    exact h.inPlace hfew hcontext hb hu hhalf (Dictionary.get?_insert_self _ _ _) hd id

end Redeclared

section Created

variable {m after : Memory} {context : Context} {resource : Resource} {s : State}
  {original desired : Account} {kind : AccountKind} {policy : ConsistencyPolicy} {write : String}

theorem Created.base (h : Created context resource m after s original kind policy write) :
    Base (storedFor original context kind policy write) original.group original.name kind := by
  constructor
  case hasId => rfl
  case hasName => rfl
  case hasKind => exact kind.ofAccount?_apply rfl
  case documentEndpoint => simp [storedFor, createdAccount]
  case provisioningState => simp [storedFor, createdAccount]
  case validName => exact h.valid.name
  case validGroup => exact h.valid.group
  case slash => exact h.slash

/-- The account that was created is one that an update may start from. -/
theorem Created.halfway (h : Created context resource m after s original kind policy write)
    {allowed : List String} (hsub : write :: original.readRegions ⊆ allowed) :
    Halfway (storedFor original context kind policy write) allowed
      (storedFor original context kind policy write) := by
  have hreads := (ofAttributes_eq_ok_iff.1 h.decoded).readRegions_nodup
  exact ⟨.refl _, _, ⟨inOrder_prioritized _, h.valid.nodup hreads, by simp⟩, hsub⟩

/-- Accounts whose attributes agree in what is set at creation have the same name, group and kind.
-/
theorem same_of_immutable
    (h : ∀ k, schema.mutability? k = some .immutable →
      desired.toAttributes.get? k = original.toAttributes.get? k) :
    desired.name = original.name ∧ desired.group = original.group ∧ desired.kind = original.kind := by
  simp only [get?_toAttributes] at h
  refine ⟨?_, ?_, ?_⟩
  · simpa [fields, declaredFields] using h "name" (by decide +kernel)
  · simpa [fields, declaredFields, List.lookup_cons] using h "resource_group" (by decide +kernel)
  · have hinjective : Function.Injective fun k : AccountKind => Value.string k.name := by
      intro k k' he
      have hparse := k.parse_name
      rw [Value.string.inj he, AccountKind.parse_name] at hparse
      exact (Except.ok.inj hparse).symm
    refine Option.map_injective hinjective ?_
    simpa [fields, declaredFields, List.lookup_cons] using h "kind" (by decide +kernel)

end Created
end Account
end AzureProvisioning
