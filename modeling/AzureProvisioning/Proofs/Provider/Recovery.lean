/-
# Recovery from interrupted updates

A created resource is updated towards another valid declaration of it, and any number of the updates
are hit by faults, at any of their calls. One that is not hit still leads to the declared state, and
one more only reads. For an account the reason is that every account on the way
has its regions in order, and for a group that there is only one call to make.
-/

import AzureProvisioning.Proofs.Account.Recovery
import AzureProvisioning.Proofs.Group.Recovery
import AzureProvisioning.Proofs.Provider.Creation

namespace AzureProvisioning
namespace Provider

open Memory

/-- What a type asks of a record before it calls anything, besides that it is decoded. -/
def ManagedType.Validates : (t : ManagedType) → t.Record → Prop
  | account, a => ∃ found, Account.validate a = .ok found
  | group, _ => True

/-- Every region that is declared carries a name. -/
structure NamesRegions (t : ManagedType) (attributes : Attributes) : Prop where
  location : ∀ v, attributes.get? t.regionField = some (.string v) → v ≠ "" → Region.normalize v ≠ ""
  reads : ∀ items, attributes.stringList "read_regions" = .ok items →
    ∀ v ∈ items, Region.normalize v ≠ ""

/-- A valid declaration of the resource that `origin` declared, with the same attributes where they
are set at creation only. -/
structure Redeclares (t : ManagedType) (origin declared : Resource) (desired : t.Record) : Prop where
  wellFormed : declared.attributes.WellFormed
  check : t.schema.check declared.attributes = .ok ()
  decoded : Managed.ofAttributes declared.attributes = .ok desired
  validates : t.Validates desired
  same : ∀ original : t.Record, Managed.ofAttributes origin.attributes = .ok original →
    ∀ k, t.schema.mutability? k = some .immutable →
      (Managed.toAttributes desired).get? k = (Managed.toAttributes original).get? k
  named : NamesRegions t declared.attributes

/-- The regions of a declaration are in programmatic form and not empty. -/
theorem NamesRegions.regions {attributes : Attributes} {a : Account} {write : String}
    (h : NamesRegions .account attributes) (hdecodes : Account.Decodes attributes a)
    (hwrite : a.writeRegion = some write) :
    ∀ r ∈ write :: a.readRegions, Region.normalize r = r ∧ r ≠ "" := by
  rw [List.forall_mem_cons]
  refine ⟨⟨hdecodes.normalize_writeRegion hwrite, fun he => ?_⟩, fun r hr => ?_⟩
  · exact hdecodes.writeRegion_ne_empty h.location (he ▸ hwrite)
  · exact ⟨hdecodes.normalize_readRegions hr, hdecodes.readRegions_ne_empty h.reads hr⟩

/-- The regions of two declarations can be declared together. -/
theorem usable_of_named {attributes attributes' : Attributes} {a a' : Account} {write write' : String}
    (hdecodes : Account.Decodes attributes a) (hdecodes' : Account.Decodes attributes' a')
    (hwrite : a.writeRegion = some write) (hwrite' : a'.writeRegion = some write')
    (h : NamesRegions .account attributes) (h' : NamesRegions .account attributes') :
    Account.Usable ((write :: a.readRegions) ++ (write' :: a'.readRegions)) := by
  have hregions : ∀ r ∈ (write :: a.readRegions) ++ (write' :: a'.readRegions),
      Region.normalize r = r ∧ r ≠ "" := by
    intro r hr
    rcases List.mem_append.1 hr with hr | hr
    · exact h.regions hdecodes hwrite r hr
    · exact h'.regions hdecodes' hwrite' r hr
  exact ⟨fun r hr => (hregions r hr).1, fun r hr => (hregions r hr).2⟩

section Start

variable {m : Memory} {context : Context} {origin declared : Resource} {s : State}
  {identifier : String}

/-- A created account can be updated to another declaration, whatever happens to the updates. -/
theorem account_recoverable {desired : Account} (hready : m.failing = [])
    (hcontext : context.subscription = subscription)
    (hcreated : (Memory.run (createAs Account context origin) m).outcome = .done s)
    (hidentifier : s.identifier = some identifier) (h : Redeclares .account origin declared desired)
    (hnamed : NamesRegions .account origin.attributes)
    (hfew : desired.regions.length ≤ Account.priorityLimit) :
    ∃ P, Recoverable Account context origin.id identifier declared P ∧
      ∃ accounts groups,
        (Memory.run (createAs Account context origin) m).state.Holds accounts groups ∧
          P accounts groups := by
  obtain ⟨original, kind, policy₀, write₀, hc⟩ := Account.created_of_done hcontext hready hcreated
  obtain ⟨⟨policy, write⟩, hvalidate⟩ := h.validates
  have hvalid := Account.valid_of_validate hvalidate
  obtain ⟨hname, hgroup, hkind⟩ := Account.same_of_immutable (h.same original hc.decoded)
  obtain rfl : Memory.accountId original.group original.name = identifier :=
    Option.some.inj (hc.identified.symm.trans hidentifier)
  let allowed := (write₀ :: original.readRegions) ++ (write :: desired.readRegions)
  have hu : Account.Usable allowed :=
    usable_of_named (Account.ofAttributes_eq_ok_iff.1 hc.decoded)
      (Account.ofAttributes_eq_ok_iff.1 h.decoded) hc.valid.writeRegion hvalid.writeRegion hnamed
      h.named
  have hre : Account.Redeclared declared desired allowed original.group original.name kind policy
      write := by
    constructor
    case check => exact h.check
    case decoded => exact h.decoded
    case wellFormed => exact h.wellFormed
    case hasName => exact hname
    case hasGroup => exact hgroup
    case hasKind => exact hkind.trans hc.declaredKind
    case valid => exact hvalidate
    case within => exact List.subset_append_right _ _
  rw [hvalid.regions_eq] at hfew
  refine ⟨_, hre.recoverable hfew hcontext hc.base hu origin.id, _, _, hc.holds, _, _,
    Dictionary.get?_insert_self _ _ _, hc.halfway (List.subset_append_left _ _)⟩

/-- A created group can be updated to another declaration, whatever happens to the updates. -/
theorem group_recoverable {desired : Group} (hready : m.failing = [])
    (hcontext : context.subscription = subscription)
    (hcreated : (Memory.run (createAs Group context origin) m).outcome = .done s)
    (hidentifier : s.identifier = some identifier) (h : Redeclares .group origin declared desired) :
    ∃ P, Recoverable Group context origin.id identifier declared P ∧
      ∃ accounts groups,
        (Memory.run (createAs Group context origin) m).state.Holds accounts groups ∧
          P accounts groups := by
  obtain ⟨original, hc⟩ := Group.created_of_done hcontext hready hcreated
  have hdecodes := Group.ofAttributes_eq_ok_iff.1 h.decoded
  obtain ⟨hname, hlocation⟩ := Group.same_of_immutable (h.same original hc.decoded)
  obtain rfl : Memory.groupId original.name = identifier := by
    rw [hc.state] at hidentifier
    exact Option.some.inj hidentifier
  have hre : Group.Redeclared declared desired (original.storedFor context) original.name := by
    constructor
    case check => exact h.check
    case decoded => exact h.decoded
    case wellFormed => exact h.wellFormed
    case hasName => exact hname
    case location =>
      intro l hl
      have hne : l ≠ "" := fun he => hdecodes.location_ne_empty h.named.location (he ▸ hl)
      have hstored : (original.storedFor context).location = l := by
        simp [Group.storedFor, createdGroup, ← hlocation, hl]
      rw [hstored]
      exact ⟨hne, hdecodes.normalize_location hl⟩
  exact ⟨_, hre.recoverable hcontext hc.base origin.id, _, _, hc.holds, original.tags,
    Dictionary.get?_insert_self _ _ _⟩

end Start

/-- Every attribute of a valid declaration is compared. -/
theorem Redeclares.compares {t : ManagedType} {origin declared : Resource} {desired : t.Record}
    (h : Redeclares t origin declared desired) {e : String × Value}
    (he : e ∈ Managed.toAttributes desired) : Plan.compares (Managed.schema t.Record) e.1 = true := by
  cases t with
  | account => exact Account.compares_of_mem h.check h.decoded he
  | group => exact Group.compares_of_mem h.check h.decoded he

section Recover

variable {t : ManagedType} {m m' : Memory} {context : Context} {origin declared : Resource}
  {s : State} {identifier : String} {desired : t.Record}

/-- **An interrupted update is recovered by the next one.** A resource is created and then updated
to another valid declaration of it, any number of times, each time from what a read reports and with
faults at any of the calls. Then a read and an update without faults succeed, and every attribute of
the declaration is as declared; one more update succeeds too, and changes nothing. The regions of
both declarations carry names, and there are priorities for those of the second one. -/
theorem update_recovers (hready : m.failing = []) (hcontext : context.subscription = subscription)
    (ht : ManagedType.ofName? origin.id.type = some t)
    (hcreated : (Memory.run (create context origin) m).outcome = .done s)
    (hidentifier : s.identifier = some identifier) (h : Redeclares t origin declared desired)
    (hnamed : NamesRegions t origin.attributes)
    (hfew : (t.regions desired).length ≤ Account.priorityLimit)
    (hattempts : Attempts context origin.id identifier declared
      (Memory.run (create context origin) m).state m') :
    ∃ s₁ s₂ : State,
      let found := Memory.run (read context origin.id (some identifier)) m'
      let updated := Memory.run (update context origin.id identifier s₁ declared) found.state
      let again := Memory.run (update context origin.id identifier s₂ declared) updated.state
      found.outcome = .done s₁ ∧ updated.outcome = .done s₂ ∧
        (∀ e ∈ Managed.toAttributes desired, Plan.agrees s₂.attributes e.1 e.2 = true) ∧
        again.outcome = .done s₂ ∧ ∀ c ∈ again.asked, c.isMutating = false := by
  have hrun : ∃ P, Recoverable t.Record context origin.id identifier declared P ∧
      ∃ accounts groups,
        (Memory.run (create context origin) m).state.Holds accounts groups ∧ P accounts groups := by
    obtain ⟨t', ht', hdone⟩ := exists_type_of_done hcreated
    obtain rfl : t = t' := Option.some.inj (ht.symm.trans ht')
    have hsame : Memory.run (create context origin) m =
        Memory.run (createAs t.Record context origin) m := run_dispatch_done ht hdone
    rw [hsame]
    cases t with
    | account => exact account_recoverable hready hcontext hdone hidentifier h hnamed hfew
    | group => exact group_recoverable hready hcontext hdone hidentifier h
  obtain ⟨P, hrecoverable, hstart⟩ := hrun
  obtain ⟨accounts, groups, hholds, hP⟩ := hrecoverable.holds_of_attempts ht hstart hattempts
  obtain ⟨s₁, s₂, c, live, p, accounts', groups', hfound, hupdated, hs₂, hview, hchanged, hagain,
    hasked⟩ := hrecoverable.settles ht hholds hP
  refine ⟨s₁, s₂, hfound, hupdated, fun e he => ?_, hagain, fun c' hc' => ?_⟩
  · -- the record that was compared is the declared one
    have hdesired : p.desired = desired := by
      obtain ⟨-, hdecoded, -⟩ := prepare_eq_ok_iff.1 hview.prepared
      exact Except.ok.inj (hdecoded.symm.trans h.decoded)
    rw [hs₂]
    exact hview.agrees hchanged (hdesired ▸ he) (h.compares he)
  · obtain rfl : c' = c := by
      rw [hasked] at hc'
      exact List.mem_singleton.1 hc'
    exact Call.not_isMutating_of_isGet hview.reads.isGet

/-- An account whose write region moves, with a fault at the second call of the first update. -/
theorem update_recovers_moved :
    let context : Context := ⟨"sub", "eastus"⟩
    let attributes (write : String) (reads : List String) : Attributes := [
      ("name", .string "acc"), ("resource_group", .string "rg"), ("kind", .string "mongodb"),
      ("consistency_level", .string "session"), ("write_region", .string write),
      ("read_regions", .ofStrings reads)]
    let id : ResourceId := ⟨"cosmosdb.database_account", "db"⟩
    let declared : Resource := ⟨id, attributes "West US" ["northeurope"]⟩
    let identifier := Memory.accountId "rg" "acc"
    let created := Memory.run (create context ⟨id, attributes "eastus" ["westus"]⟩) {}
    let first := Memory.run (read context id (some identifier)) created.state
    ∃ s s₁ s₂ : State, first.outcome = .done s ∧
      let hit := runUnder [false, true] (update context id identifier s declared) first.state
      let found := Memory.run (read context id (some identifier)) hit.state.2
      let updated := Memory.run (update context id identifier s₁ declared) found.state
      found.outcome = .done s₁ ∧ updated.outcome = .done s₂ ∧
        Plan.agrees s₂.attributes "write_region" (.string "westus") = true := by
  intro context attributes id declared identifier created first
  obtain ⟨s₀, hcreated, hidentifier⟩ := Outcome.exists_of_satisfies
    (show created.outcome.satisfies (fun s => s.identifier = some identifier) = true by
      decide +kernel)
  obtain ⟨s, hfirst, -⟩ := Outcome.exists_of_satisfies
    (show first.outcome.satisfies (fun _ => true) = true by decide +kernel)
  have hread (write : String) (reads : List String) :
      (attributes write reads).stringList "read_regions" = .ok reads :=
    Attributes.stringList_of_get? rfl
  have hnamed (write : String) (reads : List String) (hwrite : Region.normalize write ≠ "")
      (hreads : ∀ v ∈ reads, Region.normalize v ≠ "") :
      NamesRegions .account (attributes write reads) := by
    constructor
    case location =>
      intro v hv _
      have hfield : (attributes write reads).get? "write_region" = some (.string write) := rfl
      obtain rfl := Value.string.inj (Option.some.inj (hfield.symm.trans hv))
      exact hwrite
    case reads =>
      intro items hitems
      obtain rfl := Except.ok.inj ((hread write reads).symm.trans hitems)
      exact hreads
  let desired : Account := {
    name := "acc", group := "rg", kind := some .mongoDB, consistencyLevel := some .session
    writeRegion := some "westus", readRegions := ["northeurope"] }
  let former : Account := { desired with writeRegion := some "eastus", readRegions := ["westus"] }
  have hformer : Account.ofAttributes (attributes "eastus" ["westus"]) = .ok former := by
    decide +kernel
  have hre : Redeclares .account ⟨id, attributes "eastus" ["westus"]⟩ declared desired := by
    constructor
    case wellFormed =>
      refine ⟨by decide, ?_⟩
      simp only [declared, attributes, List.forall_mem_cons]
      exact ⟨.string _, .string _, .string _, .string _, .string _,
        Value.wellFormed_ofStrings ["northeurope"], by simp⟩
    case check => decide +kernel
    case decoded => decide +kernel
    case validates => exact ⟨({ level := "Session" }, "westus"), by decide +kernel⟩
    case same =>
      intro original horiginal k hk
      obtain rfl := Except.ok.inj (hformer.symm.trans horiginal)
      have hmem := Account.mem_of_immutable hk
      simp only [List.mem_cons, List.not_mem_nil, or_false] at hmem
      rcases hmem with rfl | rfl | rfl <;> rfl
    case named => exact hnamed _ _ (by decide) (by decide)
  obtain ⟨s₁, s₂, hfound, hupdated, hagrees, -⟩ := update_recovers rfl rfl (by decide) hcreated
    (by simpa using hidentifier) hre (hnamed _ _ (by decide) (by decide)) (by decide)
    (.more [false, true] .none hfirst)
  have hwrite : ("write_region", .string "westus") ∈ desired.toAttributes :=
    Attributes.mem_ofSet.2 (by simp [Account.fields, Account.declaredFields, desired])
  exact ⟨s, s₁, s₂, hfirst, hfound, hupdated, hagrees _ hwrite⟩

end Recover
end Provider
end AzureProvisioning
