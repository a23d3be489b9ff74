/-
# An account taken over from the service

What a valid declaration asks of the service is what a later refresh takes over from it: the level
and the bounds that count (`levelOf?_policy`, `boundedPolicy?_policy`), the data model
(`ofAccount?_apply`) and the regions (`hydrate_regions`). `hydrate_converged` says it of an account
that has been updated, and `hydrate_created` of one that has been created.
-/

import AzureProvisioning.Proofs.Account.Attributes
import AzureProvisioning.Proofs.Account.Convergence
import AzureProvisioning.Proofs.Account.Numbering

namespace AzureProvisioning

/-- A policy has the bounds of its level. -/
theorem ConsistencyLevel.policy_eq_ok {level : ConsistencyLevel} {staleness interval : Option Int64}
    {policy : ConsistencyPolicy} (h : level.policy staleness interval = .ok policy) :
    policy = {
      level := level.name
      maxStalenessPrefix := if level = .boundedStaleness then staleness else none
      maxInterval := if level = .boundedStaleness then interval else none } := by
  cases level with
  | boundedStaleness =>
    simp only [ConsistencyLevel.policy, bind_eq_ok] at h
    obtain ⟨n, hn, k, hk, -, -, -, -, h⟩ := h
    cases staleness with
    | none => cases hn
    | some n' =>
      cases interval with
      | none => cases hk
      | some k' =>
        rw [← Except.ok.inj h, ← Except.ok.inj hn, ← Except.ok.inj hk]
        rfl
  | eventual | session | strong => exact (Except.ok.inj h).symm

/-- The data model of an account is told by its kind and its capability. -/
theorem AccountKind.ofAccount?_apply (kind : AccountKind) {account : DatabaseAccount}
    (h : account.properties.capabilities = []) :
    AccountKind.ofAccount? (kind.apply account) = some kind := by
  have hcapabilities : (kind.apply account).properties.capabilities = kind.capability?.toList := by
    simp [AccountKind.apply, h]
  have hkind : (kind.apply account).kind = some kind.wireKind := rfl
  simp only [AccountKind.ofAccount?, AccountKind.hasCapability, hcapabilities, hkind]
  cases kind <;> decide

namespace Account

/-- What `validate` finds in order, with the policy and the write region that it gives. -/
structure Valid (a : Account) (policy : ConsistencyPolicy) (write : String) : Prop where
  name : AccountName.isValid a.name = true
  group : a.group ≠ ""
  level : ∃ level, a.consistencyLevel = some level ∧
    level.policy a.maxStalenessPrefix a.maxInterval = .ok policy
  writeRegion : a.writeRegion = some write
  reads : write ∉ a.readRegions

theorem Valid.regions_eq {a : Account} {policy : ConsistencyPolicy} {write : String}
    (h : a.Valid policy write) : a.regions = write :: a.readRegions := by
  rw [regions, h.writeRegion]
  rfl

theorem valid_of_validate {a : Account} {policy : ConsistencyPolicy} {write : String}
    (h : a.validate = .ok (policy, write)) : a.Valid policy write := by
  unfold validate at h
  cases hname : AccountName.check (.string a.name) with
  | error e => rw [hname] at h; cases h
  | ok =>
    have hvalid : AccountName.isValid a.name = true := by
      by_contra hnot
      simp [AccountName.check, hnot] at hname
    rw [hname] at h
    cases hgroup : a.group.isEmpty with
    | true => rw [hgroup] at h; cases h
    | false =>
      have hgroup' : a.group ≠ "" := fun he => by simp [he] at hgroup
      rw [hgroup] at h
      cases hlevel : a.consistencyLevel with
      | none => rw [hlevel] at h; cases h
      | some level =>
        rw [hlevel] at h
        obtain ⟨level', hsome, h⟩ := bind_eq_ok.1 h
        obtain rfl := Except.ok.inj hsome
        obtain ⟨policy', hpolicy, h⟩ := bind_eq_ok.1 h
        cases hwrite : a.writeRegion with
        | none => rw [hwrite] at h; cases h
        | some write' =>
          rw [hwrite] at h
          obtain ⟨write'', hsome, h⟩ := bind_eq_ok.1 h
          obtain rfl := Except.ok.inj hsome
          cases hreads : a.readRegions.contains write' with
          | true => simp only [hreads] at h; cases h
          | false =>
            simp only [hreads] at h
            obtain ⟨rfl, rfl⟩ := Prod.mk.inj (Except.ok.inj h)
            exact ⟨hvalid, hgroup', ⟨level, hlevel, hpolicy⟩, hwrite,
              fun hm => by simp [hm] at hreads⟩

/-- The service tells the level of a policy. -/
theorem levelOf?_policy {level : ConsistencyLevel} {staleness interval : Option Int64}
    {policy : ConsistencyPolicy} (h : level.policy staleness interval = .ok policy) :
    levelOf? (some policy) = some level := by
  rw [ConsistencyLevel.policy_eq_ok h]
  exact ConsistencyLevel.ofName?_name level

/-- The bounds of a policy count exactly when its level has them. -/
theorem boundedPolicy?_policy {level : ConsistencyLevel} {staleness interval : Option Int64}
    {policy : ConsistencyPolicy} (h : level.policy staleness interval = .ok policy) :
    (boundedPolicy? (some policy)).bind (·.maxInterval) =
        (if level = .boundedStaleness then interval else none) ∧
      (boundedPolicy? (some policy)).bind (·.maxStalenessPrefix) =
        (if level = .boundedStaleness then staleness else none) := by
  rw [boundedPolicy?, levelOf?_policy h, ConsistencyLevel.policy_eq_ok h]
  cases level <;> simp [Option.filter_some]

theorem map_subnet_wireNetworkRules (a : Account) :
    a.wireNetworkRules.map (·.subnet) = a.networkRules := by
  simp [wireNetworkRules, Function.comp_def]

/-- The regions of an account are taken over, with the one that takes writes; the others may come in
another order. -/
theorem perm_hydrate_regions {stored : DatabaseAccount} {former : String} {reads : List String}
    (before : Account) (h : Arranged stored (former :: reads))
    (hn : ∀ r ∈ former :: reads, Region.normalize r = r) :
    (before.hydrate stored).writeRegion = some former ∧
      (former :: reads).Perm (before.hydrate stored).regions := by
  obtain ⟨reads', hsplit, hperm⟩ := h.inOrder.exists_split h.nodup hn
  have hregions : (before.hydrate stored).regions = former :: reads' := by
    simp only [regions, hydrate, hsplit]
    rfl
  refine ⟨by simp only [hydrate, hsplit], ?_⟩
  rw [hregions]
  exact hperm.symm.cons former

/-- Locations that priorities suffice for are taken over as the first name and the others. -/
theorem hydrate_regions {before : Account} {stored : DatabaseAccount} {former : String}
    {reads : List String} (h : Arranged stored (former :: reads))
    (hlen : (former :: reads).length ≤ priorityLimit)
    (hn : ∀ r ∈ former :: reads, Region.normalize r = r) :
    (before.hydrate stored).writeRegion = some former ∧
      (before.hydrate stored).readRegions = reads := by
  have hsplit : splitLocations stored.properties.locations = (some former, reads) :=
    h.inOrder.split hlen h.nodup hn
  simp only [hydrate, hsplit, and_self]

/-- The account with the other one's values in every field that may change after creation. -/
def withUpdatable (a desired : Account) : Account :=
  { a with
    consistencyLevel := desired.consistencyLevel
    maxInterval := desired.maxInterval
    maxStalenessPrefix := desired.maxStalenessPrefix
    ipRangeFilter := desired.ipRangeFilter
    networkRules := desired.networkRules
    writeRegion := desired.writeRegion
    readRegions := desired.readRegions
    automaticFailover := desired.automaticFailover
    tags := desired.tags }

section Valid

variable {desired : Account} {policy : ConsistencyPolicy} {write : String}
  (hv : desired.Valid policy write) (hd : desired.readRegions.Nodup)
  (hlen : (write :: desired.readRegions).length ≤ priorityLimit)
  (hn : ∀ r ∈ write :: desired.readRegions, Region.normalize r = r)
include hv hd

theorem Valid.nodup : (write :: desired.readRegions).Nodup :=
  List.nodup_cons.2 ⟨hv.reads, hd⟩

include hlen hn

/-- **After a whole update a refresh takes over the declared fields**, and what no update writes. -/
theorem hydrate_converged (before : Account) (stored : DatabaseAccount) :
    before.hydrate (converged stored desired policy write) =
      (before.hydrate stored).withUpdatable desired.withoutIdleBounds := by
  obtain ⟨level, hlevel, hpolicy⟩ := hv.level
  have hsplit : splitLocations (prioritized (write :: desired.readRegions)) =
      (some write, desired.readRegions) :=
    (inOrder_prioritized _).split hlen (hv.nodup hd) hn
  have hpolicy' : (converged stored desired policy write).properties.consistencyPolicy =
      some policy := rfl
  have hlocations : (converged stored desired policy write).properties.locations =
      prioritized (write :: desired.readRegions) := rfl
  simp only [hydrate, hpolicy', hlocations, hsplit, levelOf?_policy hpolicy,
    boundedPolicy?_policy hpolicy, withUpdatable, withoutIdleBounds, hlevel, hv.writeRegion, Option.some.injEq]
  congr 1
  exact map_subnet_wireNetworkRules desired

/-- **After the creation a refresh takes over what was declared**, without bounds that the level
does not have, and what the service assigned. -/
theorem hydrate_created (before : Account) (context : Context) (kind : AccountKind)
    (group name : String) :
    before.hydrate (Memory.createdAccount group name
        (desired.toRecord context kind policy (write :: desired.readRegions))) =
      { desired.withoutIdleBounds with
        name := name
        group := ((ArmId.parse? (Memory.accountId group name)).map (·.group)).getD before.group
        kind := some kind
        id := some (Memory.accountId group name)
        documentEndpoint := some ("https://" ++ name ++ ".documents.azure.com:443/")
        provisioningState := some "Succeeded" } := by
  obtain ⟨level, hlevel, hpolicy⟩ := hv.level
  have hsplit : splitLocations (prioritized (write :: desired.readRegions)) =
      (some write, desired.readRegions) :=
    (inOrder_prioritized _).split hlen (hv.nodup hd) hn
  have hkind : AccountKind.ofAccount? (Memory.createdAccount group name
      (desired.toRecord context kind policy (write :: desired.readRegions))) = some kind :=
    kind.ofAccount?_apply rfl
  simp only [hydrate, hkind, withoutIdleBounds, hlevel, hv.writeRegion, Option.some.injEq]
  simp only [Memory.createdAccount, toRecord, AccountKind.apply, hsplit, levelOf?_policy hpolicy,
    boundedPolicy?_policy hpolicy, map_subnet_wireNetworkRules, Option.getD_some, Option.bind_some]

end Valid
end Account
end AzureProvisioning
