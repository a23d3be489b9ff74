/-
# Where the changes of an update lead

The service refuses a list of regions that moves the write region, and an order that does not name
every region once. From an account whose regions are in order, no change of an update is refused,
and the last one leaves the declared account (`steps_changes`). The current record has to have the
same regions and the same write region (`Carries`), but not in the same order: what an update sends
is accepted by the set of regions. Every account on the way is `Halfway`: it differs from the first
one only in what an update writes, and its regions are in order, so that the next update can start
from it.
-/

import AzureProvisioning.Proofs.Account.Changes

namespace AzureProvisioning
namespace Account

/-- Two records of one object: what no update writes is the same. -/
structure Alike (a b : DatabaseAccount) : Prop where
  id : b.id = a.id
  name : b.name = a.name
  location : b.location = a.location
  kind : b.kind = a.kind
  provisioningState : b.properties.provisioningState = a.properties.provisioningState
  documentEndpoint : b.properties.documentEndpoint = a.properties.documentEndpoint
  offerType : b.properties.offerType = a.properties.offerType
  capabilities : b.properties.capabilities = a.properties.capabilities

/-- The account has these regions in order, each once, and at least one. -/
structure Arranged (a : DatabaseAccount) (names : List String) : Prop where
  inOrder : InOrder a.properties.locations names
  nodup : names.Nodup
  nonempty : names ≠ []

/-- The account has these regions, each once. They are in order on the account from `former` on,
which takes writes, but the list may have them in another one. -/
def Carries (a : DatabaseAccount) (former : String) (regions : List String) : Prop :=
  ∃ reads, Arranged a (former :: reads) ∧ (former :: reads).Perm regions

/-- An account between an update's first change and its last: `start` with other values for what an
update writes, and with some of the `allowed` regions in order. -/
structure Halfway (start : DatabaseAccount) (allowed : List String) (a : DatabaseAccount) :
    Prop where
  alike : Alike start a
  arranged : ∃ names, Arranged a names ∧ names ⊆ allowed

/-- The account with its regions replaced. -/
def withRegions (a : DatabaseAccount) (names : List String) : DatabaseAccount :=
  { a with properties.locations := prioritized names }

/-- The account after a whole update. -/
def converged (stored : DatabaseAccount) (desired : Account) (policy : ConsistencyPolicy)
    (write : String) : DatabaseAccount :=
  withRegions (Memory.patched stored (desired.propertyUpdate policy)) (write :: desired.readRegions)

theorem Arranged.carries {a : DatabaseAccount} {names reads : List String} {former : String}
    (h : Arranged a names) (hcons : names = former :: reads) : Carries a former names :=
  ⟨reads, hcons ▸ h, hcons ▸ .refl _⟩

theorem Carries.nodup {a : DatabaseAccount} {former : String} {regions : List String}
    (h : Carries a former regions) : regions.Nodup := by
  obtain ⟨reads, harr, hperm⟩ := h
  exact hperm.nodup_iff.1 harr.nodup

theorem Alike.refl (a : DatabaseAccount) : Alike a a := ⟨rfl, rfl, rfl, rfl, rfl, rfl, rfl, rfl⟩

section Step

variable {start a : DatabaseAccount} {names allowed : List String}

theorem Alike.withRegions (h : Alike start a) (names : List String) :
    Alike start (withRegions a names) :=
  ⟨h.id, h.name, h.location, h.kind, h.provisioningState, h.documentEndpoint, h.offerType,
    h.capabilities⟩

theorem Alike.patched (h : Alike start a) (update : AccountUpdate) :
    Alike start (Memory.patched a update) :=
  ⟨h.id, h.name, h.location, h.kind, h.provisioningState, h.documentEndpoint, h.offerType,
    h.capabilities⟩

theorem arranged_withRegions (a : DatabaseAccount) {names : List String} (hd : names.Nodup)
    (hne : names ≠ []) : Arranged (withRegions a names) names :=
  ⟨inOrder_prioritized names, hd, hne⟩

theorem Halfway.withRegions (h : Halfway start allowed a) (hd : names.Nodup) (hne : names ≠ [])
    (hsub : names ⊆ allowed) : Halfway start allowed (withRegions a names) :=
  ⟨h.alike.withRegions names, names, arranged_withRegions a hd hne, hsub⟩

/-- A list of regions is accepted when it keeps the first one. -/
theorem after_regionChange {write : String} {old new : List String}
    (h : Carries a write old) :
    (regionChange (write :: new)).after? a = some (withRegions a (write :: new)) := by
  obtain ⟨reads, harr, -⟩ := h
  have hold : Memory.writeRegion? a.properties.locations = some write := harr.inOrder.writeRegion
  have hnew : Memory.writeRegion? (prioritized (write :: new)) = some write :=
    (inOrder_prioritized _).writeRegion
  have hkeeps : Memory.keepsWriteRegion a (regionUpdate (write :: new)) = true := by
    simp [Memory.keepsWriteRegion, regionUpdate, hold, hnew]
  rw [regionChange, Change.after?, if_pos hkeeps]
  rfl

/-- An order is accepted when it names the regions of the account, each once. -/
theorem after_order {order : List String} (h : Arranged a names) (hd : order.Nodup)
    (hmem : ∀ r, r ∈ order ↔ r ∈ names) :
    (Change.order (failoverOrder order)).after? a = some (withRegions a order) := by
  have hnames : Memory.namesEveryRegion a order = true := by
    simp only [Memory.namesEveryRegion, h.inOrder.named, Bool.and_eq_true, decide_eq_true_eq,
      List.all_eq_true, List.contains_iff_mem]
    exact ⟨⟨hd, fun r hr => (hmem r).1 hr⟩, fun r hr => (hmem r).2 hr⟩
  rw [Change.after?, map_location_failoverOrder, if_pos hnames, reordered_failoverOrder]
  rfl

/-- A patch of the properties is always accepted. -/
theorem after_propertyUpdate (desired : Account) (policy : ConsistencyPolicy) :
    (Change.patch (desired.propertyUpdate policy)).after? a =
      some (Memory.patched a (desired.propertyUpdate policy)) := rfl

end Step

section Chain

variable {desired current : Account} {stored : DatabaseAccount} {former write : String}
  {allowed : List String}

/-- The steps that change the set of regions. The account that they lead to may still be the first
one, so it is told by its regions and by what it is with other regions. -/
theorem steps_regionLists (hw : current.writeRegion = some former)
    (h : Carries stored former current.regions)
    (hsub : extendedRegions desired current write ⊆ allowed) :
    ∃ a, Change.Steps (Halfway stored allowed)
        ((regionLists desired current write).map regionChange) stored a ∧
      Carries a former (remainingRegions desired current write) ∧
      ∀ names, withRegions a names = withRegions stored names := by
  obtain ⟨rest, hrest⟩ := extendedRegions_eq_cons desired write hw
  obtain ⟨rest', hrest'⟩ : ∃ rest, remainingRegions desired current write = former :: rest :=
    remainingRegions_eq_cons h.nodup hw
  have hextended : (extendedRegions desired current write).Nodup := extendedRegions_nodup h.nodup
  have hremaining : (remainingRegions desired current write).Nodup := remainingRegions_nodup h.nodup
  have hstart : Halfway stored allowed stored := by
    obtain ⟨reads, harr, hperm⟩ := h
    exact ⟨.refl stored, _, harr, fun r hr => hsub (mem_extendedRegions.2 (.inl (hperm.subset hr)))⟩
  have hsub' : remainingRegions desired current write ⊆ allowed :=
    fun r hr => hsub (List.mem_filter.1 hr).1
  -- first the extension, if there is something to add
  obtain ⟨b, hsteps, hb, hsame, hhalf⟩ : ∃ b, Change.Steps (Halfway stored allowed)
      ((if (addedRegions desired current write).isEmpty then []
        else [extendedRegions desired current write]).map regionChange) stored b ∧
      Carries b former (extendedRegions desired current write) ∧
      (∀ names, withRegions b names = withRegions stored names) ∧ Halfway stored allowed b := by
    split
    · next hadded =>
      have hnone : extendedRegions desired current write = current.regions := by
        rw [extendedRegions, List.isEmpty_iff.1 hadded, List.append_nil]
      exact ⟨stored, .nil hstart, hnone ▸ h, fun _ => rfl, hstart⟩
    · have hlast := hstart.withRegions hextended (by simp [hrest]) hsub
      refine ⟨_, .single hstart ?_ hlast,
        (arranged_withRegions stored hextended (by simp [hrest])).carries hrest, fun _ => rfl, hlast⟩
      rw [hrest]
      exact after_regionChange h
  -- then the removal, if there is something to remove
  rw [regionLists, List.map_append]
  cases hany : (extendedRegions desired current write).any (isRemoved desired current write) with
  | false =>
    refine ⟨b, hsteps.append (.nil hhalf), ?_, hsame⟩
    rw [remainingRegions_of_none hany]
    exact hb
  | true =>
    have hlast := hhalf.withRegions hremaining (by simp [hrest']) hsub'
    refine ⟨_, hsteps.append (.single hhalf ?_ hlast),
      (arranged_withRegions b hremaining (by simp [hrest'])).carries hrest', hsame⟩
    rw [hrest']
    exact after_regionChange hb

/-- **No change of an update is refused, and the last one leaves the declared account**, when the
account has its regions in order, the current record has the same, and the declared regions are
pairwise distinct. Every account on the way has its regions in order. -/
theorem steps_changes (policy : ConsistencyPolicy) (hw : current.writeRegion = some former)
    (h : Carries stored former current.regions) (hd : (write :: desired.readRegions).Nodup)
    (hsub : extendedRegions desired current write ⊆ allowed) :
    Change.Steps (Halfway stored allowed) (changes desired current policy write) stored
      (converged stored desired policy write) := by
  obtain ⟨a, hsteps, ⟨reads, ha, hperm⟩, hsame⟩ := steps_regionLists hw h hsub
  have hordered : (orderedRegions desired current write).Nodup := orderedRegions_nodup hd hw
  have hsubOrder : orderedRegions desired current write ⊆ allowed := fun r hr =>
    hsub (List.mem_filter.1 ((mem_orderedRegions_iff h.nodup hw).1 hr)).1
  have hsubDeclared : write :: desired.readRegions ⊆ allowed :=
    fun r hr => hsubOrder (List.mem_append_left _ hr)
  have hwritten : ∀ names,
      withRegions (Memory.patched a (desired.propertyUpdate policy)) names =
        withRegions (Memory.patched stored (desired.propertyUpdate policy)) names :=
    fun names => congrArg (Memory.patched · (desired.propertyUpdate policy)) (hsame names)
  -- the properties
  have hpatched : Halfway stored allowed (Memory.patched a (desired.propertyUpdate policy)) :=
    ⟨hsteps.last.alike.patched _, _, ⟨ha.inOrder, ha.nodup, ha.nonempty⟩,
      fun r hr => hsub (List.mem_filter.1 (hperm.subset hr)).1⟩
  -- the order
  have horder : (Change.order (failoverOrder (orderedRegions desired current write))).after?
      (Memory.patched a (desired.propertyUpdate policy)) =
      some (withRegions (Memory.patched a (desired.propertyUpdate policy))
        (orderedRegions desired current write)) :=
    after_order ⟨ha.inOrder, ha.nodup, ha.nonempty⟩ hordered
      fun r => (mem_orderedRegions_iff h.nodup hw).trans hperm.mem_iff.symm
  have hdone := hpatched.withRegions hordered (by simp [orderedRegions]) hsubOrder
  -- the former write region
  have htail : Change.Steps (Halfway stored allowed)
      ((staleWrite? desired current write).toList.map fun _ =>
        regionChange (write :: desired.readRegions))
      (withRegions (Memory.patched a (desired.propertyUpdate policy))
        (orderedRegions desired current write))
      (converged stored desired policy write) := by
    cases hs : staleWrite? desired current write with
    | none =>
      have heq : orderedRegions desired current write = write :: desired.readRegions := by
        simp [orderedRegions, hs]
      rw [heq] at hdone ⊢
      rw [converged, ← hwritten]
      exact .nil hdone
    | some stale =>
      have heq : orderedRegions desired current write =
          write :: (desired.readRegions ++ [stale]) := by
        simp [orderedRegions, hs]
      rw [heq] at hdone hordered ⊢
      rw [converged, ← hwritten]
      exact .single hdone
        (after_regionChange ((arranged_withRegions _ hordered (by simp)).carries rfl))
        (hdone.withRegions hd (by simp) hsubDeclared)
  exact hsteps.append (.cons hsteps.last (after_propertyUpdate desired policy)
    (.cons hpatched horder htail))

end Chain
end Account
end AzureProvisioning
