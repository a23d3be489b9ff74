/-
# Updating an account on the service in memory

An update reads nothing: it starts from the record of an earlier refresh, and makes the changes that
lead from it to the declaration. When the record is that of the stored account, the service refuses
none of them, so the update succeeds and the account is the declared one. Under faults the account
is one of those in between (`runUnder_update`).
-/

import AzureProvisioning.Proofs.Account.Hydration
import AzureProvisioning.Proofs.Memory

namespace AzureProvisioning
namespace Account

section Refresh

open Program

theorem quiet_takeOver (a : Account) (record : DatabaseAccount) :
    (a.takeOver record).quiet = .done (a.hydrate record) := by
  simp [takeOver, bind_eq_bind, pure_eq_done]

/-- **What a refresh makes of a record**: it changes when an account is found, and then only. -/
theorem quiet_refreshing (context : Context) (a : Account) :
    (refreshing context a).quiet =
      match a.key? context with
      | none => .done (.ok false, a)
      | some (group, name) => .ask (.getAccount group name) fun
        | .ok (some record) => .done (.ok true, a.hydrate record)
        | .ok none => .done (.ok false, a)
        | .error e => .done (.error e, a) := by
  refine (Revision.quiet_step_bind (a.lookUp context) _ a).trans ?_
  rw [quiet_lookUp]
  cases a.key? context with
  | none => rfl
  | some key =>
    refine (Revision.quiet_step_bind (Operation.request (.getAccount key.1 key.2)) _ a).trans ?_
    rw [Operation.quiet_request (.getAccount key.1 key.2), Operation.attempt_request]
    refine ask_congr fun
      | .error e => rfl
      | .ok none => rfl
      | .ok (some record) => (Revision.quiet_step_bind (a.takeOver record) _ a).trans ?_
    rw [quiet_takeOver]
    rfl

theorem quiet_refresh (context : Context) (a : Account) :
    (a.refresh context).quiet =
      match a.key? context with
      | none => .done none
      | some (group, name) =>
        (Operation.request (.getAccount group name)).bind fun record =>
          .done (record.map a.hydrate) := by
  rw [refresh, Revision.quiet_found, quiet_refreshing]
  cases a.key? context with
  | none => rfl
  | some key =>
    exact ask_congr fun
      | .error e => rfl
      | .ok none => rfl
      | .ok (some record) => rfl

/-- Taking a record over twice is taking it over once. -/
theorem hydrate_hydrate (a : Account) (record : DatabaseAccount) :
    (a.hydrate record).hydrate record = a.hydrate record := by
  have hgetD : ∀ (o : Option String) (s : String), o.getD (o.getD s) = o.getD s := by
    intro o s
    cases o <;> rfl
  simp only [hydrate, hgetD]

end Refresh

section Service

open Memory

variable {m : Memory} {accounts : Dictionary (String × String) (String × DatabaseAccount)}
  {groups : Dictionary String ResourceGroup} {context : Context} {desired current : Account}
  {group name given : String} {stored : DatabaseAccount}

/-- A refresh asks for the account under its key, and gives it taken over. -/
theorem runUnder_refresh {a : Account} (hits : List Bool) (hm : m.Holds accounts groups)
    (hkey : a.key? context = some (group, name)) :
    let ran := runUnder hits (a.refresh context) m
    ran.state.2.Holds accounts groups ∧
      (hits.headD false = false →
        ran.outcome = .done ((accounts.get? (accountKey group name)).map fun e => a.hydrate e.2) ∧
        ran.asked = [.getAccount group name]) := by
  have hquiet := quiet_refresh context a
  rw [hkey] at hquiet
  have hget := runUnder_get hits hm hquiet fun m hm => by rw [perform, account?, hm.accounts]
  rwa [Option.map_map] at hget

/-- The changed attributes that count are not none when one of them may change after creation. -/
theorem updatable_ne_nil {changed : List String}
    (h : ∃ f ∈ changed, schema.mutability? f = some .updatable) :
    (updatable changed).isEmpty = false := by
  obtain ⟨f, hf, hupdatable⟩ := h
  rw [List.isEmpty_eq_false_iff_exists_mem]
  exact ⟨f, List.mem_filter.2 ⟨hf, by simpa using hupdatable⟩⟩

/-- **An update under faults** leaves an account that its changes lead through, and only that object
is different. Without faults it makes all of its changes and succeeds. -/
theorem runUnder_update {policy : ConsistencyPolicy} {former write : String}
    {changed allowed : List String} (hits : List Bool) (hm : m.Holds accounts groups)
    (hget : accounts.get? (accountKey group name) = some (given, stored))
    (hkey : current.key? context = some (group, name)) (hw : current.writeRegion = some former)
    (h : Carries stored former current.regions) (hvalid : desired.validate = .ok (policy, write))
    (hd : desired.readRegions.Nodup) (hsub : extendedRegions desired current write ⊆ allowed)
    (hchanged : ∃ f ∈ changed, schema.mutability? f = some .updatable) :
    let ran := runUnder hits (desired.update context current changed) m
    (∃ d, Halfway stored allowed d ∧
      (ran.outcome = .done () → d = converged stored desired policy write) ∧
      ran.state.2.Holds (accounts.insert (accountKey group name) (given, d)) groups) ∧
    ((∀ hit ∈ hits, hit = false) → ran.outcome = .done () ∧
      ran.asked = (changes desired current policy write).map (Change.call group name)) := by
  intro ran
  have hquiet : (desired.update context current changed).quiet =
      Operation.inOrder ((changes desired current policy write).map (Change.call group name)) := by
    rw [quiet_update, updatable_ne_nil hchanged, hvalid, hkey]
    rfl
  have hv := valid_of_validate hvalid
  have hsteps : Change.Steps (Halfway stored allowed) (changes desired current policy write) stored
      (converged stored desired policy write) :=
    steps_changes policy hw h (hv.nodup hd) hsub
  have hran := runUnder_changes hits hm hget hsteps
  rw [← hquiet, runUnder, Program.run_quiet] at hran
  exact hran

/-- **An update converges.** The stored account has its regions in order, in programmatic form, and
the current record is the one taken over from it. A valid declaration of distinct regions in
programmatic form, with a changed field that an update writes, is then brought about: the declared
regions in order, and the declared value of every other property that an update writes. Nothing else
is different, and a refresh takes the declared values over. -/
theorem update_converges {m : Memory} {before : Account} {names changed : List String}
    {policy : ConsistencyPolicy} {write : String} (hready : m.failing = [])
    (hget : m.accounts.get? (accountKey group name) = some (given, stored))
    (h : Arranged stored names) (hnormal : ∀ r ∈ names, Region.normalize r = r)
    (hfew : names.length < priorityLimit)
    (hkey : (before.hydrate stored).key? context = some (group, name))
    (hvalid : desired.validate = .ok (policy, write))
    (hdeclared : ∀ r ∈ write :: desired.readRegions, Region.normalize r = r)
    (hd : desired.readRegions.Nodup)
    (hchanged : ∃ f ∈ changed, schema.mutability? f = some .updatable) :
    let current := before.hydrate stored
    let ran := Memory.run (desired.update context current changed) m
    ran.outcome = .done () ∧
    ran.state.accounts = m.accounts.insert (accountKey group name) (given, { stored with
      tags := desired.tags
      properties := { stored.properties with
        consistencyPolicy := some policy
        locations := prioritized (write :: desired.readRegions)
        ipRules := desired.ipRangeFilter
        networkFilterEnabled := !desired.networkRules.isEmpty
        networkRules := desired.networkRules.map fun subnet => { subnet }
        automaticFailover := desired.automaticFailover } }) ∧
    ran.state.groups = m.groups ∧
    ((write :: desired.readRegions).length < priorityLimit →
      (Memory.run (current.refresh context) ran.state).outcome =
        .done (some (current.withUpdatable desired.withoutIdleBounds))) := by
  intro current ran
  have hv := valid_of_validate hvalid
  obtain ⟨former, reads, rfl⟩ := List.exists_cons_of_ne_nil h.nonempty
  obtain ⟨hwrite, hreads⟩ : current.writeRegion = some former ∧ current.readRegions = reads :=
    hydrate_regions h hfew.le hnormal
  have hregions : current.regions = former :: reads := by
    simp [regions, hwrite, hreads]
  have hm : m.Holds m.accounts m.groups := ⟨rfl, rfl, hready⟩
  obtain ⟨⟨d, -, hlast, hholds⟩, hdone⟩ := runUnder_update [] hm hget hkey hwrite
    (hregions ▸ h.carries rfl) hvalid hd (List.Subset.refl _) hchanged
  rw [runUnder_nil] at hlast hholds hdone
  have hdone : ran.outcome = .done () := (hdone (by simp)).1
  rw [hlast hdone] at hholds
  refine ⟨hdone, hholds.accounts, hholds.groups, fun hlen => ?_⟩
  have hrefresh := (runUnder_refresh [] hholds hkey).2 rfl
  rw [runUnder_nil, Dictionary.get?_insert_self, Option.map_some,
    hydrate_converged hv hd hlen.le hdeclared, hydrate_hydrate] at hrefresh
  exact hrefresh.1

end Service

/-- The read region `westus` takes writes, `northeurope` is new, and the former write region goes.
-/
theorem update_converges_moved :
    let stored : DatabaseAccount := {
      id := some "/subscriptions/sub/resourceGroups/rg/providers/Microsoft.DocumentDB/databaseAccounts/acc"
      name := some "acc"
      kind := some "GlobalDocumentDB"
      properties := { locations := prioritized ["eastus", "westus"], ipRules := ["10.0.0.1"] } }
    let m : Memory := { accounts := [(("rg", "acc"), ("rg", stored))] }
    let desired : Account := {
      name := "acc", group := "rg", consistencyLevel := some .session
      writeRegion := some "westus", readRegions := ["northeurope"]
      networkRules := ["subnet"], tags := [("env", "prod")] }
    let ran := Memory.run (desired.update ⟨"sub", "eastus"⟩ (hydrate {} stored) ["write_region"]) m
    ran.outcome = .done () ∧
    ran.state.accounts = [(("rg", "acc"), ("rg", { stored with
      tags := [("env", "prod")]
      properties := {
        consistencyPolicy := some { level := "Session" }
        locations := prioritized ["westus", "northeurope"]
        networkFilterEnabled := true
        networkRules := [{ subnet := "subnet" }] } }))] := by
  intro stored m desired ran
  have hget : m.accounts.get? (Memory.accountKey "rg" "acc") = some ("rg", stored) := by
    decide +kernel
  have harr : Arranged stored ["eastus", "westus"] :=
    ⟨inOrder_prioritized _, by decide, by decide⟩
  have hkey : (hydrate {} stored).key? ⟨"sub", "eastus"⟩ = some ("rg", "acc") := by decide +kernel
  have hvalid : desired.validate = .ok ({ level := "Session" }, "westus") := by decide +kernel
  have hchanged : ∃ f ∈ ["write_region"], schema.mutability? f = some .updatable := by
    decide +kernel
  have h := update_converges rfl hget harr (by decide +kernel) (by decide) hkey hvalid
    (by decide +kernel) (by decide) hchanged
  exact ⟨h.1, h.2.1⟩

end Account
end AzureProvisioning
