/-
# A created resource is in its declared state

What a creation reports is what a later read reports, and an update to the same declaration finds
nothing to change: the resource is `Settled`, and the update only reads. So a plan that has been
carried out is empty from then on, in whatever spelling the declaration gives its selectors and
regions.

There are two exceptions. A region that carries no name, such as `-`, counts as declared, is reported
empty, and an empty text counts as absent. And of more regions than there are priorities some are
reported in another order than declared (`Account.InOrder.split_iff`).
-/

import AzureProvisioning.Proofs.Account.Creation
import AzureProvisioning.Proofs.Group.Creation

namespace AzureProvisioning
namespace Provider

open Memory

/-- The attribute that says where the resource is. -/
def ManagedType.regionField : ManagedType → String
  | account => "write_region"
  | group => "location"

/-- The regions of a record. -/
def ManagedType.regions : (type : ManagedType) → type.Record → List String
  | account, (a : Account) => a.regions
  | group, (g : Group) => g.location.toList

/-- There are priorities for all regions of the declaration, each counted once. -/
def ManagedType.HasPriorities (type : ManagedType) (attributes : Attributes) : Prop :=
  ∀ record : type.Record, Managed.ofAttributes attributes = .ok record →
    (type.regions record).length ≤ Account.priorityLimit

/-- The state `s` is what the service reports of the resource that the identifier names, and an
update from it to the declaration finds nothing to change, if there are priorities for the regions. -/
structure Settled (type : ManagedType) (context : Context) (declared : Resource) (after : Memory)
    (s : State) (identifier : String) (c : Call) (live : type.Record) : Prop where
  state : s = reported declared.id live
  identified : Managed.identifier? live = some identifier
  reads : Reads context identifier after.accounts after.groups c live
  ready : after.failing = []
  unchanged : type.HasPriorities declared.attributes →
    ∃ p : Preparation type.Record, prepare type.Record identifier s declared = .ok p ∧ p.changed = []

theorem Settled.holds {type : ManagedType} {context : Context} {declared : Resource} {m : Memory}
    {s : State} {identifier : String} {c : Call} {live : type.Record}
    (h : Settled type context declared m s identifier c live) : m.Holds m.accounts m.groups :=
  ⟨rfl, rfl, h.ready⟩

section Create

variable {m : Memory} {context : Context} {resource : Resource} {s : State}

theorem account_settled_of_done (hready : m.failing = [])
    (hcontext : context.subscription = subscription) (hw : resource.attributes.WellFormed)
    (hnamed : ∀ v, resource.attributes.get? "write_region" = some (.string v) → v ≠ "" →
      Region.normalize v ≠ "")
    (h : (Memory.run (createAs Account context resource) m).outcome = .done s) :
    ∃ identifier c live, Settled .account context resource
      (Memory.run (createAs Account context resource) m).state s identifier c live := by
  obtain ⟨desired, kind, policy, write, hcreated⟩ := Account.created_of_done hcontext hready h
  refine ⟨_, _, _, hcreated.state, rfl, hcreated.reads hcontext, hcreated.holds.ready, fun hfew => ?_⟩
  have hdecodes := Account.ofAttributes_eq_ok_iff.1 hcreated.decoded
  have hwrite : write ≠ "" := by
    have hne := hdecodes.writeRegion_ne_empty hnamed
    rw [hcreated.valid.writeRegion] at hne
    simpa using hne
  have hlength : desired.regions.length ≤ Account.priorityLimit := hfew desired hcreated.decoded
  rw [hcreated.valid.regions_eq] at hlength
  exact hcreated.unchanged hw hwrite hlength

theorem group_settled_of_done (hready : m.failing = [])
    (hcontext : context.subscription = subscription) (hw : resource.attributes.WellFormed)
    (hnamed : ∀ v, resource.attributes.get? "location" = some (.string v) → v ≠ "" →
      Region.normalize v ≠ "")
    (h : (Memory.run (createAs Group context resource) m).outcome = .done s) :
    ∃ identifier c live, Settled .group context resource
      (Memory.run (createAs Group context resource) m).state s identifier c live := by
  obtain ⟨desired, hcreated⟩ := Group.created_of_done hcontext hready h
  have hdecodes := Group.ofAttributes_eq_ok_iff.1 hcreated.decoded
  exact ⟨_, _, _, hcreated.state, rfl, hcreated.reads hcontext, hcreated.holds.ready,
    fun _ => hcreated.unchanged hw (hdecodes.location_ne_empty hnamed)⟩

/-- **A created resource is in its declared state.** It exists and has an identifier, and reading
that identifier reports the same state. If there are priorities for all declared regions, an update to
the same declaration only reads, reports the same state too, and leaves every object as it is. -/
theorem create_settles (hready : m.failing = []) (hcontext : context.subscription = subscription)
    (hw : resource.attributes.WellFormed)
    (hnamed : ∀ t, ManagedType.ofName? resource.id.type = some t →
      ∀ v, resource.attributes.get? t.regionField = some (.string v) → v ≠ "" →
        Region.normalize v ≠ "")
    (h : (Memory.run (create context resource) m).outcome = .done s) :
    let after := (Memory.run (create context resource) m).state
    s.found = true ∧ ∃ identifier, s.identifier = some identifier ∧
      (Memory.run (read context resource.id (some identifier)) after).outcome = .done s ∧
      ((∀ t, ManagedType.ofName? resource.id.type = some t → t.HasPriorities resource.attributes) →
        let ran := Memory.run (update context resource.id identifier s resource) after
        ran.outcome = .done s ∧ (∃ c, ran.asked = [c] ∧ c.isGet = true) ∧
        ran.state.accounts = after.accounts ∧ ran.state.groups = after.groups) := by
  intro after
  obtain ⟨t, ht, hdone⟩ := exists_type_of_done h
  have hafter : after = (Memory.run (createAs t.Record context resource) m).state :=
    congrArg Ran.state (run_dispatch_done ht hdone)
  obtain ⟨identifier, c, live, hsettled⟩ : ∃ identifier c live,
      Settled t context resource after s identifier c live := by
    rw [hafter]
    cases t with
    | account => exact account_settled_of_done hready hcontext hw (hnamed .account ht) hdone
    | group => exact group_settled_of_done hready hcontext hw (hnamed .group ht) hdone
  have hread := run_readAs resource.id hsettled.reads hsettled.holds
  rw [← hsettled.state] at hread
  have hreadRun : Memory.run (read context resource.id (some identifier)) after =
      Memory.run (readAs t.Record context resource.id (some identifier)) after :=
    run_dispatch_done ht hread.1
  refine ⟨by rw [hsettled.state]; rfl, identifier, ?_, by rw [hreadRun]; exact hread.1,
    fun hfew => ?_⟩
  · rw [hsettled.state]
    exact hsettled.identified
  · -- without a change the update is the read
    obtain ⟨p, hprepare, hchanged⟩ := hsettled.unchanged (hfew t ht)
    have hsame : updateAs t.Record context resource.id identifier s resource =
        readAs t.Record context resource.id (some identifier) :=
      updateAs_of_unchanged resource.id hprepare hchanged
    have hupdateRun : Memory.run (update context resource.id identifier s resource) after =
        Memory.run (updateAs t.Record context resource.id identifier s resource) after :=
      run_dispatch_done ht (hsame ▸ hread.1)
    rw [hupdateRun, hsame]
    obtain ⟨houtcome, hasked, haccounts, hgroups, -⟩ := hread
    exact ⟨houtcome, ⟨c, hasked, hsettled.reads.isGet⟩, haccounts, hgroups⟩

/-- An account whose regions and selectors are spelled in other ways than the service reports them.
-/
theorem create_settles_spelled :
    let resource : Resource := {
      id := ⟨"cosmosdb.database_account", "db"⟩
      attributes := [
        ("name", .string "acc"), ("resource_group", .string "rg"), ("kind", .string "Kind.mongodb"),
        ("consistency_level", .string "boundedstaleness"), ("max_interval", .int 5),
        ("max_staleness_prefix", .int 10), ("write_region", .string "East US 2"),
        ("read_regions", .list [.string "azure.Region.west_europe", .string "West Europe"]),
        ("tags", .map [("env", .string "prod")])] }
    let created := Memory.run (create ⟨"sub", "eastus"⟩ resource) {}
    ∃ s identifier, created.outcome = .done s ∧
      let ran := Memory.run (update ⟨"sub", "eastus"⟩ resource.id identifier s resource) created.state
      ran.outcome = .done s ∧ ran.state.accounts = created.state.accounts := by
  intro resource created
  obtain ⟨s, hs, -⟩ := Outcome.exists_of_satisfies
    (show created.outcome.satisfies (fun _ => true) = true by decide +kernel)
  have hw : resource.attributes.WellFormed := by
    refine ⟨by decide, ?_⟩
    simp only [resource, List.forall_mem_cons]
    have htags : Dictionary.Distinct [("env", "prod")] := by decide
    exact ⟨.string _, .string _, .string _, .string _, .int _, .int _, .string _,
      Value.wellFormed_ofStrings ["azure.Region.west_europe", "West Europe"],
      Value.wellFormed_ofStringMap htags, by simp⟩
  have hnamed : ∀ t, ManagedType.ofName? resource.id.type = some t →
      ∀ v, resource.attributes.get? t.regionField = some (.string v) → v ≠ "" →
        Region.normalize v ≠ "" := by
    intro t ht v hv _
    have htype : ManagedType.ofName? resource.id.type = some .account := by decide
    obtain rfl := Option.some.inj (htype.symm.trans ht)
    have hregion : resource.attributes.get? "write_region" = some (.string "East US 2") := rfl
    obtain rfl := Value.string.inj (Option.some.inj (hregion.symm.trans hv))
    decide
  have hfew : ∀ t, ManagedType.ofName? resource.id.type = some t →
      t.HasPriorities resource.attributes := by
    intro t ht record hrecord
    have htype : ManagedType.ofName? resource.id.type = some .account := by decide
    obtain rfl := Option.some.inj (htype.symm.trans ht)
    have hregions : (Account.ofAttributes resource.attributes).toOption.all
        (fun a => a.regions.length ≤ Account.priorityLimit) = true := by decide +kernel
    rw [show Account.ofAttributes resource.attributes = .ok record from hrecord] at hregions
    exact of_decide_eq_true hregions
  obtain ⟨-, identifier, -, -, hupdate⟩ := create_settles rfl rfl hw hnamed hs
  obtain ⟨hdone, -, haccounts, -⟩ := hupdate hfew
  exact ⟨s, identifier, hs, hdone, haccounts⟩

end Create
end Provider
end AzureProvisioning
