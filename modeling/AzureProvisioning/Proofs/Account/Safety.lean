/-
# The regions at every step of an update

The calls of an update do not depend on what is answered, only their number does: they are the
first ones of a fixed list. So what holds of each call of that list, seen with the calls before it,
holds of every update, wherever it stops (`update_keeps_regions`).

What a call has to respect depends on the regions that the account has at that time
(`Call.heldAfter`) and on whether the priorities have changed already. `KeepsRegions` lists it: until
then the write region stays in front, nothing is removed before everything is added, the new order
names what the account has, and only afterwards the former write region may go.
-/

import AzureProvisioning.Proofs.Account.Hydration

namespace AzureProvisioning

namespace Call

/-- The list of locations that the call sends: regions with their priorities. -/
def locations? : Call → Option (List (String × Int32))
  | putAccount _ _ account => some (account.properties.locations.map fun l => (l.name, l.priority))
  | patchAccount _ _ update =>
    update.properties.locations.map fun locations => locations.map fun l => (l.name, l.priority)
  | _ => none

/-- The failover order that the call sets: regions with their priorities. -/
def order? : Call → Option (List (String × Int32))
  | changePriorities _ _ policies => some (policies.map fun p => (p.location, p.priority))
  | _ => none

/-- The regions of the last list of locations that the calls send, or the first ones when they send
none. -/
def heldAfter (first : List String) (calls : List Call) : List String :=
  ((calls.filterMap locations?).getLast?.map fun entries => entries.map Prod.fst).getD first

theorem heldAfter_concat {c : Call} {entries : List (String × Int32)}
    (h : c.locations? = some entries) (first : List String) (earlier : List Call) :
    heldAfter first (earlier ++ [c]) = entries.map Prod.fst := by
  simp [heldAfter, List.filterMap_append, h]

theorem heldAfter_concat_of_none {c : Call} (h : c.locations? = none) (first : List String)
    (earlier : List Call) : heldAfter first (earlier ++ [c]) = heldAfter first earlier := by
  simp [heldAfter, List.filterMap_append, h]

end Call

/-- Each element of the list has the property, seen with the elements before it. -/
def EachAfter {α : Type} (P : List α → α → Prop) : List α → List α → Prop
  | _, [] => True
  | earlier, a :: as => P earlier a ∧ EachAfter P (earlier ++ [a]) as

namespace EachAfter

variable {α : Type} {P : List α → α → Prop} {earlier as bs : List α}

theorem append (h : EachAfter P earlier as) (h' : EachAfter P (earlier ++ as) bs) :
    EachAfter P earlier (as ++ bs) := by
  induction as generalizing earlier with
  | nil => simpa using h'
  | cons a as ih => exact ⟨h.1, ih h.2 (by simpa using h')⟩

theorem of_initial {before : List α} {a : α} (h : EachAfter P earlier as)
    (hpre : before ++ [a] <+: as) : P (earlier ++ before) a := by
  induction before generalizing earlier as with
  | nil =>
    obtain ⟨rest, rfl⟩ := hpre
    simpa using h.1
  | cons b before ih =>
    cases as with
    | nil => simp at hpre
    | cons a' as =>
      obtain ⟨rfl, hrest⟩ := List.cons_prefix_cons.1 hpre
      simpa using ih h.2 hrest

end EachAfter

namespace Account

/-- Regions that are named once, with priorities that count from 0. -/
structure Ranked (entries : List (String × Int32)) : Prop where
  distinct : (entries.map Prod.fst).Nodup
  counted : entries.map (fun e => e.2.toInt) = (List.range entries.length).map Int.ofNat

/-- What a call of an update respects, given the calls before it: `former` takes writes before the
update, and `write` is declared to take them. -/
structure KeepsRegions (desired current : Account) (former write : String) (earlier : List Call)
    (c : Call) : Prop where
  ranked : ∀ entries, c.locations? = some entries ∨ c.order? = some entries → Ranked entries
  /-- Until the priorities change, the write region stays in front, and so does every region that is
  still declared stay. -/
  keeps : ∀ entries, c.locations? = some entries → (∀ c' ∈ earlier, c'.order? = none) →
    (entries.map Prod.fst).head? = some former ∧
      ∀ r ∈ current.regions, r ∈ write :: desired.readRegions → r ∈ entries.map Prod.fst
  /-- A region is removed only when every declared one has been added. -/
  adds : ∀ entries, c.locations? = some entries →
    ∀ r ∈ Call.heldAfter current.regions earlier, r ∉ entries.map Prod.fst →
      ∀ d ∈ write :: desired.readRegions, d ∈ Call.heldAfter current.regions earlier
  /-- The order is set once. -/
  once : c.order? ≠ none → ∀ c' ∈ earlier, c'.order? = none
  /-- It begins with the declared regions, and names exactly those that the account has. -/
  orders : ∀ entries, c.order? = some entries →
    write :: desired.readRegions <+: entries.map Prod.fst ∧
      ∀ r, r ∈ entries.map Prod.fst ↔ r ∈ Call.heldAfter current.regions earlier
  /-- The former write region goes only afterwards, and only when it is not declared. -/
  drops : ∀ entries, c.locations? = some entries → former ∉ entries.map Prod.fst →
    (∃ c' ∈ earlier, c'.order? ≠ none) ∧ former ∉ write :: desired.readRegions

/-- Regions with priorities that follow their order. -/
def ranking (names : List String) : List (String × Int32) :=
  names.zipIdx.map fun (region, i) => (region, Int32.ofNat i)

theorem map_fst_ranking (names : List String) : (ranking names).map Prod.fst = names := by
  rw [ranking, List.map_map]
  exact List.zipIdx_map_fst 0 names

theorem length_ranking (names : List String) : (ranking names).length = names.length := by
  rw [ranking, List.length_map, List.length_zipIdx]

theorem ranked_ranking {names : List String} (hd : names.Nodup)
    (hfew : names.length < priorityLimit) : Ranked (ranking names) where
  distinct := by rwa [map_fst_ranking]
  counted := by
    have hsnd : names.zipIdx.map Prod.snd = List.range names.length := by
      rw [List.zipIdx_map_snd, List.range_eq_range']
    have hpriorities : (ranking names).map (fun e => e.2.toInt) =
        (List.range names.length).map fun i => (Int32.ofNat i).toInt := by
      rw [← hsnd, List.map_map, ranking, List.map_map]
      rfl
    rw [hpriorities, length_ranking]
    refine List.map_congr_left fun i hi => Int32.toInt_ofNat_of_lt ?_
    exact Nat.lt_trans (List.mem_range.1 hi) hfew

section Calls

variable (group name : String) (names : List String)

theorem locations?_regionChange :
    ((regionChange names).call group name).locations? = some (ranking names) := by
  simp [regionChange, Change.call, Call.locations?, regionUpdate, prioritized, ranking,
    Function.comp_def]

theorem order?_failoverOrder :
    ((Change.order (failoverOrder names)).call group name).order? = some (ranking names) := by
  simp [Change.call, Call.order?, failoverOrder, ranking, Function.comp_def]

end Calls

/-- What an update starts from: regions that are named once, on either side, and can be numbered. -/
structure Start (desired current : Account) (former write : String) : Prop where
  writes : current.writeRegion = some former
  distinct : current.regions.Nodup
  declared : (write :: desired.readRegions).Nodup
  few : (current.regions ++ write :: desired.readRegions).length < priorityLimit

section Update

variable {desired current : Account} {former write group name : String} {names : List String}
  {earlier : List Call}

/-- Regions of either side can be numbered. -/
theorem Start.ranked (h : Start desired current former write) (hd : names.Nodup)
    (hsub : names ⊆ current.regions ++ write :: desired.readRegions) : Ranked (ranking names) :=
  ranked_ranking hd (Nat.lt_of_le_of_lt (hd.length_le_of_subset hsub) h.few)

theorem extendedRegions_subset :
    extendedRegions desired current write ⊆ current.regions ++ write :: desired.readRegions := by
  intro r hr
  rw [List.mem_append, List.mem_cons]
  rcases mem_extendedRegions.1 hr with hcurrent | hread | hwrite
  · exact .inl hcurrent
  · exact .inr (.inr hread)
  · exact .inr (.inl hwrite)

theorem remainingRegions_subset :
    remainingRegions desired current write ⊆ current.regions ++ write :: desired.readRegions :=
  fun _ hr => extendedRegions_subset (List.mem_filter.1 hr).1

/-- A call that sends a list of locations. -/
theorem Start.keepsRegions_of_locations (h : Start desired current former write) (hd : names.Nodup)
    (hsub : names ⊆ current.regions ++ write :: desired.readRegions)
    (hkeeps : (∀ c' ∈ earlier, c'.order? = none) → names.head? = some former ∧
      ∀ r ∈ current.regions, r ∈ write :: desired.readRegions → r ∈ names)
    (hadds : ∀ r ∈ Call.heldAfter current.regions earlier, r ∉ names →
      ∀ d ∈ write :: desired.readRegions, d ∈ Call.heldAfter current.regions earlier)
    (hdrops : former ∉ names →
      (∃ c' ∈ earlier, c'.order? ≠ none) ∧ former ∉ write :: desired.readRegions) :
    KeepsRegions desired current former write earlier ((regionChange names).call group name) := by
  have hlocations := locations?_regionChange group name names
  have horder : ((regionChange names).call group name).order? = none := rfl
  have hentries : ∀ entries, ((regionChange names).call group name).locations? = some entries →
      entries = ranking names := fun entries he => Option.some.inj (he.symm.trans hlocations)
  constructor
  case ranked =>
    rintro entries (he | he)
    · exact hentries entries he ▸ h.ranked hd hsub
    · rw [horder] at he
      cases he
  case keeps =>
    intro entries he hnone
    rw [hentries entries he, map_fst_ranking]
    exact hkeeps hnone
  case adds =>
    intro entries he
    rw [hentries entries he, map_fst_ranking]
    exact hadds
  case once => exact fun hne => absurd horder hne
  case orders =>
    intro entries he
    rw [horder] at he
    cases he
  case drops =>
    intro entries he
    rw [hentries entries he, map_fst_ranking]
    exact hdrops

/-- The call that adds what is missing, before any other. -/
theorem Start.keepsRegions_extended (h : Start desired current former write) :
    KeepsRegions desired current former write []
      ((regionChange (extendedRegions desired current write)).call group name) := by
  obtain ⟨rest, hrest⟩ := extendedRegions_eq_cons desired write h.writes
  have hall : ∀ r ∈ current.regions, r ∈ extendedRegions desired current write :=
    fun r hr => mem_extendedRegions.2 (.inl hr)
  refine h.keepsRegions_of_locations (extendedRegions_nodup h.distinct) extendedRegions_subset
    (fun _ => ⟨by rw [hrest]; rfl, fun r hr _ => hall r hr⟩) (fun r hr hnot => ?_) fun hnot => ?_
  · exact absurd (hall r hr) hnot
  · exact absurd (by rw [hrest]; exact List.mem_cons_self) hnot

/-- The call that removes what is not declared, when the account has the extended regions. -/
theorem Start.keepsRegions_remaining (h : Start desired current former write)
    (hheld : Call.heldAfter current.regions earlier = extendedRegions desired current write) :
    KeepsRegions desired current former write earlier
      ((regionChange (remainingRegions desired current write)).call group name) := by
  obtain ⟨rest, hrest⟩ : ∃ rest, remainingRegions desired current write = former :: rest :=
    remainingRegions_eq_cons h.distinct h.writes
  have hdeclared : ∀ d ∈ write :: desired.readRegions,
      d ∈ remainingRegions desired current write := by
    intro d hd
    rw [mem_remainingRegions h.distinct h.writes]
    exact .inr ((List.mem_cons.1 hd).symm)
  refine h.keepsRegions_of_locations (remainingRegions_nodup h.distinct) remainingRegions_subset
    (fun _ => ⟨by rw [hrest]; rfl, fun r _ hr => hdeclared r hr⟩) (fun _ _ _ d hd => ?_)
    fun hnot => ?_
  · rw [hheld]
    exact (List.mem_filter.1 (hdeclared d hd)).1
  · exact absurd (by rw [hrest]; exact List.mem_cons_self) hnot

/-- The call that writes the properties sends no region. -/
theorem keepsRegions_properties (policy : ConsistencyPolicy) :
    KeepsRegions desired current former write earlier
      ((Change.patch (desired.propertyUpdate policy)).call group name) where
  ranked := fun _ h => by rcases h with h | h <;> cases h
  keeps := fun _ h => nomatch h
  adds := fun _ h => nomatch h
  once := fun h => absurd rfl h
  orders := fun _ h => nomatch h
  drops := fun _ h => nomatch h

/-- The call that sets the order, when the account has the remaining regions. -/
theorem Start.keepsRegions_order (h : Start desired current former write)
    (hnone : ∀ c' ∈ earlier, c'.order? = none)
    (hheld : Call.heldAfter current.regions earlier = remainingRegions desired current write) :
    KeepsRegions desired current former write earlier
      ((Change.order (failoverOrder (orderedRegions desired current write))).call group name) := by
  have horder := order?_failoverOrder group name (orderedRegions desired current write)
  have hmem : ∀ r, r ∈ orderedRegions desired current write ↔
      r ∈ remainingRegions desired current write :=
    fun r => mem_orderedRegions_iff h.distinct h.writes
  have hsub : orderedRegions desired current write ⊆
      current.regions ++ write :: desired.readRegions :=
    fun r hr => remainingRegions_subset ((hmem r).1 hr)
  constructor
  case ranked =>
    rintro entries (he | he)
    · cases he
    · obtain rfl := Option.some.inj (he.symm.trans horder)
      exact h.ranked (orderedRegions_nodup h.declared h.writes) hsub
  case keeps => exact fun _ he => nomatch he
  case adds => exact fun _ he => nomatch he
  case once => exact fun _ => hnone
  case orders =>
    intro entries he
    obtain rfl := Option.some.inj (he.symm.trans horder)
    rw [map_fst_ranking, hheld]
    exact ⟨List.prefix_append _ _, hmem⟩
  case drops => exact fun _ he => nomatch he

/-- The call that removes the former write region, after the order has been set. -/
theorem Start.keepsRegions_declared (h : Start desired current former write)
    (hordered : ∃ c' ∈ earlier, c'.order? ≠ none)
    (hheld : Call.heldAfter current.regions earlier = remainingRegions desired current write) :
    KeepsRegions desired current former write earlier
      ((regionChange (write :: desired.readRegions)).call group name) := by
  refine h.keepsRegions_of_locations h.declared (List.subset_append_right _ _) (fun hnone => ?_)
    (fun _ _ _ d hd => ?_) fun hnot => ⟨hordered, hnot⟩
  · obtain ⟨c', hc', hne⟩ := hordered
    exact absurd (hnone c' hc') hne
  · rw [hheld, mem_remainingRegions h.distinct h.writes]
    exact .inr ((List.mem_cons.1 hd).symm)

/-- The calls that write lists of regions before the order changes. -/
def memberCalls (desired current : Account) (group name write : String) : List Call :=
  ((regionLists desired current write).map regionChange).map (Change.call group name)

/-- They respect the regions, and leave the remaining ones. -/
theorem Start.eachAfter_memberCalls (h : Start desired current former write) (group name : String) :
    EachAfter (KeepsRegions desired current former write) []
        (memberCalls desired current group name write) ∧
      Call.heldAfter current.regions (memberCalls desired current group name write) =
        remainingRegions desired current write := by
  -- first the extension, if there is something to add
  obtain ⟨added, hadded, heach, hheld⟩ : ∃ added : List Call,
      ((if (addedRegions desired current write).isEmpty then []
        else [extendedRegions desired current write]).map regionChange).map
          (Change.call group name) = added ∧
      EachAfter (KeepsRegions desired current former write) [] added ∧
      Call.heldAfter current.regions added = extendedRegions desired current write := by
    refine ⟨_, rfl, ?_⟩
    split
    · next hnone =>
      have hall : extendedRegions desired current write = current.regions := by
        rw [extendedRegions, List.isEmpty_iff.1 hnone, List.append_nil]
      exact ⟨trivial, hall.symm⟩
    · refine ⟨⟨h.keepsRegions_extended, trivial⟩, ?_⟩
      have hheld := Call.heldAfter_concat (locations?_regionChange group name
        (extendedRegions desired current write)) current.regions []
      rwa [map_fst_ranking] at hheld
  -- then the removal, if there is something to remove
  rw [memberCalls, regionLists, List.map_append, List.map_append, hadded]
  cases hany : (extendedRegions desired current write).any (isRemoved desired current write) with
  | false =>
    rw [remainingRegions_of_none hany]
    exact ⟨heach.append trivial, by simpa using hheld⟩
  | true =>
    have hlast := Call.heldAfter_concat (locations?_regionChange group name
      (remainingRegions desired current write)) current.regions added
    rw [map_fst_ranking] at hlast
    exact ⟨heach.append ⟨h.keepsRegions_remaining hheld, trivial⟩, hlast⟩

theorem order?_of_mem_memberCalls {c : Call}
    (hc : c ∈ memberCalls desired current group name write) : c.order? = none := by
  obtain ⟨change, hchange, rfl⟩ := List.mem_map.1 hc
  obtain ⟨names, -, rfl⟩ := List.mem_map.1 hchange
  rfl

/-- **Every call of an update respects the regions.** -/
theorem Start.eachAfter_changes (h : Start desired current former write) (group name : String)
    (policy : ConsistencyPolicy) :
    EachAfter (KeepsRegions desired current former write) []
      ((changes desired current policy write).map (Change.call group name)) := by
  obtain ⟨heach, hheld⟩ := h.eachAfter_memberCalls group name
  have hunordered : ∀ c' ∈ memberCalls desired current group name write ++
      [(Change.patch (desired.propertyUpdate policy)).call group name], c'.order? = none := by
    intro c' hc'
    rcases List.mem_append.1 hc' with hmember | hproperties
    · exact order?_of_mem_memberCalls hmember
    · rw [List.mem_singleton.1 hproperties]
      rfl
  -- neither the properties nor the order send a list of locations
  have hpatched : Call.heldAfter current.regions (memberCalls desired current group name write ++
      [(Change.patch (desired.propertyUpdate policy)).call group name]) =
      remainingRegions desired current write := by
    rw [Call.heldAfter_concat_of_none rfl, hheld]
  rw [changes, List.map_append]
  refine heach.append ⟨keepsRegions_properties policy, h.keepsRegions_order hunordered hpatched, ?_⟩
  cases staleWrite? desired current write with
  | none => trivial
  | some stale =>
    refine ⟨h.keepsRegions_declared ⟨_, List.mem_append_right _ List.mem_cons_self, ?_⟩ ?_, trivial⟩
    · rw [order?_failoverOrder]
      exact Option.some_ne_none _
    · rw [Call.heldAfter_concat_of_none rfl]
      exact hpatched

/-- The calls of an update are the first ones of its changes, and all of them when it succeeds with
something to write. -/
theorem asked_update {σ : Type} (answer : (c : Call) → σ → c.Answer × σ) (context : Context)
    (current : Account) (changed : List String) {policy : ConsistencyPolicy}
    (hvalid : desired.validate = .ok (policy, write)) (s : σ) :
    let ran := (desired.update context current changed).run answer s
    ∃ group name,
      ran.asked <+: (changes desired current policy write).map (Change.call group name) ∧
      (ran.outcome = .done () → updatable changed ≠ [] →
        ran.asked = (changes desired current policy write).map (Change.call group name)) := by
  intro ran
  have hquiet := quiet_update context desired current changed
  rw [hvalid] at hquiet
  rw [← Program.run_outcome_quiet, ← Program.run_asked_quiet, hquiet]
  by_cases hnone : (updatable changed).isEmpty = true
  · rw [if_pos hnone]
    exact ⟨"", "", List.nil_prefix, fun _ hne => absurd (List.isEmpty_iff.1 hnone) hne⟩
  · rw [if_neg hnone]
    cases current.key? context with
    | none => exact ⟨"", "", List.nil_prefix, fun hdone => nomatch hdone⟩
    | some key =>
      refine ⟨key.1, key.2, Operation.asked_inOrder_prefix answer _ s, fun hdone _ => ?_⟩
      rcases Operation.outcome_inOrder answer _ s with ⟨-, hasked⟩ | ⟨e, hfailed⟩
      · exact hasked
      · exact absurd (hdone.symm.trans hfailed) nofun

/-- **An update keeps the regions at every step**, whatever the service answers. The current account
takes writes in `former`, which is none of its pairwise distinct read regions; the declaration is
valid, and its read regions are pairwise distinct. Then every call that the update makes respects
the regions, given the calls before it, and an update that succeeds with something to write has set
the order. -/
theorem update_keeps_regions {σ : Type} {answer : (c : Call) → σ → c.Answer × σ} {context : Context}
    {changed : List String} {policy : ConsistencyPolicy} (hw : current.writeRegion = some former)
    (hformer : former ∉ current.readRegions) (hreads : current.readRegions.Nodup)
    (hvalid : desired.validate = .ok (policy, write)) (hdeclared : desired.readRegions.Nodup)
    (hfew : (current.regions ++ desired.regions).length < priorityLimit) (s : σ) :
    let ran := (desired.update context current changed).run answer s
    (∀ earlier c, earlier ++ [c] <+: ran.asked →
      KeepsRegions desired current former write earlier c) ∧
    (ran.outcome = .done () → updatable changed ≠ [] → ∃ c ∈ ran.asked, c.order? ≠ none) := by
  intro ran
  have hv := valid_of_validate hvalid
  have hstart : Start desired current former write := by
    refine ⟨hw, ?_, hv.nodup hdeclared, ?_⟩
    · rw [regions, hw]
      exact List.nodup_cons.2 ⟨hformer, hreads⟩
    · rwa [regions.eq_def desired, hv.writeRegion] at hfew
  obtain ⟨group, name, hprefix, hall⟩ :=
    asked_update answer context current changed hvalid s
  refine ⟨fun earlier c hc => ?_, fun hdone hne => ?_⟩
  · exact (hstart.eachAfter_changes group name policy).of_initial (hc.trans hprefix)
  · rw [hall hdone hne]
    refine ⟨(Change.order (failoverOrder (orderedRegions desired current write))).call group name,
      ?_, ?_⟩
    · exact List.mem_map_of_mem (List.mem_append_right _ (List.mem_cons_of_mem _ List.mem_cons_self))
    · rw [order?_failoverOrder]
      exact Option.some_ne_none _

end Update

/-- The read region `westus` takes writes, `northeurope` is new, `southindia` is not declared any
more, and the former write region goes last. -/
theorem update_keeps_regions_moved :
    let stored : DatabaseAccount := {
      name := some "acc"
      properties := { locations := prioritized ["eastus", "westus", "southindia"] } }
    let m : Memory := { accounts := [(("rg", "acc"), ("rg", stored))] }
    let current : Account := {
      name := "acc", group := "rg"
      writeRegion := some "eastus", readRegions := ["westus", "southindia"] }
    let desired : Account := {
      name := "acc", group := "rg", consistencyLevel := some .session
      writeRegion := some "westus", readRegions := ["northeurope"] }
    let ran := Memory.run (desired.update ⟨"sub", "eastus"⟩ current ["write_region"]) m
    ran.asked.filterMap Call.locations? = [
      [("eastus", 0), ("westus", 1), ("southindia", 2), ("northeurope", 3)],
      [("eastus", 0), ("westus", 1), ("northeurope", 2)],
      [("westus", 0), ("northeurope", 1)]] ∧
    ran.asked.filterMap Call.order? = [[("westus", 0), ("northeurope", 1), ("eastus", 2)]] ∧
    ∀ earlier c, earlier ++ [c] <+: ran.asked →
      KeepsRegions desired current "eastus" "westus" earlier c := by
  intro stored m current desired ran
  have hvalid : desired.validate = .ok ({ level := "Session" }, "westus") := by decide +kernel
  exact ⟨by decide +kernel, by decide +kernel,
    (update_keeps_regions rfl (by decide) (by decide) hvalid (by decide) (by decide) m).1⟩

end Account
end AzureProvisioning
