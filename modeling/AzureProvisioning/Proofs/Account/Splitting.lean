/-
# Locations in any order

`splitLocations` reads the locations of an account in ascending priority, those of one priority in the
order of the list, whatever names and priorities there are. With priorities that are not negative the
first location of priority 0 comes before all others, so it is found without sorting, and the others can
be sorted without it (`StableOrder.cons_of_least`). What is read after it are read regions, each where
it is named first (`foldl_placeLocation_eq`).
-/

import AzureProvisioning.Proofs.Account.Locations
import AzureProvisioning.Proofs.StableOrder

namespace AzureProvisioning

/-- The first of the items with the least key comes first, and the others follow in stable order. -/
theorem StableOrder.cons_of_least {α κ : Type} [LE κ] [DecidableEq κ] {key : α → κ}
    {before after sorted : List α} {a : α} (h : StableOrder key (before ++ after) sorted)
    (hleast : ∀ b ∈ sorted, key a ≤ key b) (hfirst : ∀ b ∈ before, key b ≠ key a) :
    StableOrder key (before ++ a :: after) (a :: sorted) where
  ascending := List.pairwise_cons.2 ⟨hleast, h.ascending⟩
  stable := by
    intro k
    have hrest := h.stable k
    rw [List.filter_append] at hrest ⊢
    by_cases hk : key a = k
    · have hnone : (before.filter fun b => key b = k) = [] := by
        refine List.filter_eq_nil_iff.2 fun b hb => ?_
        simpa [← hk] using hfirst b hb
      rw [hnone, List.nil_append] at hrest ⊢
      simp [hk, hrest]
    · simp [hk, hrest]

/-- The names of `first :: rest` in programmatic form, each at its first place. -/
theorem Region.distinctNames_cons (first : String) (rest : List String) :
    distinctNames (first :: rest) =
      normalize first :: (distinctNames rest).filter fun r => r ≠ normalize first := rfl

namespace Account

/-- Once it is known which region takes writes, if any, the locations that are read are read regions,
unless they name this one or one that has been placed. -/
theorem foldl_placeLocation_eq {write : Option String} {locations : List Location}
    (hwrite : write = none → ∀ l ∈ locations, l.priority ≠ 0) (placed : List String) :
    locations.foldl placeLocation (write, placed) =
      (write, placed ++ (Region.distinctNames (locations.map (·.name))).filter fun r =>
        some r ≠ write ∧ r ∉ placed) := by
  induction locations generalizing placed with
  | nil => simp [Region.distinctNames, Region.withoutRepeats]
  | cons l ls ih =>
    have hreads : write = none → ∀ l ∈ ls, l.priority ≠ 0 := fun h l' hl' =>
      hwrite h l' (List.mem_cons_of_mem _ hl')
    have hread : ¬ (l.priority = 0 ∧ write = none) := fun h => hwrite h.2 l List.mem_cons_self h.1
    rw [List.foldl_cons, List.map_cons, Region.distinctNames_cons, placeLocation, if_neg hread]
    by_cases hnew : some (Region.normalize l.name) ≠ write ∧ Region.normalize l.name ∉ placed
    · rw [if_pos ⟨hnew.1.symm, hnew.2⟩, ih hreads, List.filter_cons_of_pos (by simpa using hnew),
        List.filter_filter, List.append_assoc, List.singleton_append]
      congr 3
      refine List.filter_congr fun r _ => ?_
      rw [Bool.eq_iff_iff, Bool.and_eq_true, decide_eq_true_iff, decide_eq_true_iff,
        decide_eq_true_iff, List.mem_append, List.mem_singleton, not_or, and_assoc]
    · rw [if_neg fun h => hnew ⟨h.1.symm, h.2⟩, ih hreads,
        List.filter_cons_of_neg (by simpa using hnew), List.filter_filter]
      congr 2
      refine List.filter_congr fun r _ => ?_
      rw [Bool.eq_iff_iff, Bool.and_eq_true, decide_eq_true_iff, decide_eq_true_iff]
      -- a region that is kept is not the one that has been left out
      refine (and_iff_left_of_imp fun hkept => ?_).symm
      rintro rfl
      exact hnew hkept

section

variable {locations : List Location}

/-- The region that takes writes: the first location with priority 0 in the order of the list. -/
def writeLocation? (locations : List Location) : Option Location :=
  locations.find? fun l => l.priority = 0

/-- The locations apart from the one that takes writes. -/
def otherLocations (locations : List Location) : List Location :=
  locations.eraseP fun l => l.priority = 0

theorem otherLocations_of_none (h : writeLocation? locations = none) :
    (∀ l ∈ locations, l.priority ≠ 0) ∧ otherLocations locations = locations := by
  have hnone : ∀ l ∈ locations, l.priority ≠ 0 := by simpa [writeLocation?] using h
  exact ⟨hnone, List.eraseP_of_forall_not fun l hl => by simpa using hnone l hl⟩

/-- The location that takes writes stands after locations of other priorities. -/
theorem exists_of_writeLocation? {first : Location} (h : writeLocation? locations = some first) :
    first.priority = 0 ∧ ∃ before after, locations = before ++ first :: after ∧
      otherLocations locations = before ++ after ∧ ∀ l ∈ before, l.priority ≠ 0 := by
  obtain ⟨hzero, before, after, rfl, hbefore⟩ := List.find?_eq_some_iff_append.1 h
  refine ⟨by simpa using hzero, before, after, rfl, ?_, fun l hl => by simpa using hbefore l hl⟩
  rw [otherLocations, List.eraseP_append_right _ fun l hl => by simpa using hbefore l hl]
  congr 1
  exact List.eraseP_cons_of_pos hzero

/-- **The write region is found without sorting**, and the other locations are sorted without it. -/
theorem splitLocations_eq (hpriorities : ∀ l ∈ locations, 0 ≤ l.priority) {sorted : List Location}
    (h : StableOrder (·.priority) (otherLocations locations) sorted) :
    let write := (writeLocation? locations).map fun l => Region.normalize l.name
    splitLocations locations =
      (write, (Region.distinctNames (sorted.map (·.name))).filter fun r => some r ≠ write) := by
  intro write
  have hsplit := stableOrder_mergeSort (fun l : Location => l.priority) locations
  cases hwrite : writeLocation? locations with
  | none =>
    obtain ⟨hnone, hothers⟩ := otherLocations_of_none hwrite
    rw [hothers] at h
    rw [splitLocations, hsplit.unique h, foldl_placeLocation_eq fun _ l hl =>
      hnone l ((mem_iff_of_filter_eq h.stable l).1 hl)]
    simp [write, hwrite]
  | some first =>
    obtain ⟨hzero, before, after, hlocations, hothers, hbefore⟩ := exists_of_writeLocation? hwrite
    rw [hothers] at h
    rw [hlocations] at hsplit
    have hall : StableOrder (·.priority) (before ++ first :: after) (first :: sorted) := by
      refine h.cons_of_least (fun l hl => ?_) (by simpa only [hzero] using hbefore)
      have hmem := (mem_iff_of_filter_eq h.stable l).1 hl
      rw [hzero]
      refine hpriorities l ?_
      rw [hlocations, List.mem_append, List.mem_cons]
      exact (List.mem_append.1 hmem).imp_right .inr
    have hplace : placeLocation (none, []) first = (some (Region.normalize first.name), []) := by
      rw [placeLocation, if_pos ⟨hzero, rfl⟩]
    rw [splitLocations, hlocations, hsplit.unique hall, List.foldl_cons, hplace,
      foldl_placeLocation_eq (by simp)]
    simp [write, hwrite]

/-- Every location is the one that takes writes, or one of the others. -/
theorem mem_iff_of_writeLocation? {l : Location} :
    l ∈ locations ↔ writeLocation? locations = some l ∨ l ∈ otherLocations locations := by
  cases hwrite : writeLocation? locations with
  | none => simp [(otherLocations_of_none hwrite).2]
  | some first =>
    obtain ⟨-, before, after, hlocations, hothers, -⟩ := exists_of_writeLocation? hwrite
    rw [hothers, hlocations]
    simp only [List.mem_append, List.mem_cons, Option.some.injEq, eq_comm]
    exact or_left_comm

/-- **Locations are split by priority.** The write region is the first location in the order of the list
with priority 0, none if there is none. The read regions are the others in stable ascending order of
their priorities, each at its first place, without the write region. No read region is there twice or
takes writes, no region is lost or made up, and locations with different priorities are split in one
way, whatever their order is. -/
theorem splitLocations_by_priority {locations : List Location}
    (hpriorities : ∀ l ∈ locations, 0 ≤ l.priority) :
    let write := (writeLocation? locations).map fun l => Region.normalize l.name
    let split := splitLocations locations
    split.1 = write ∧
    (∃ sorted, StableOrder (·.priority) (otherLocations locations) sorted) ∧
    (∀ sorted, StableOrder (·.priority) (otherLocations locations) sorted →
      split.2 = (Region.distinctNames (sorted.map (·.name))).filter fun r => some r ≠ write) ∧
    split.2.Nodup ∧
    (∀ r ∈ split.2, split.1 ≠ some r) ∧
    (∀ r, split.1 = some r ∨ r ∈ split.2 ↔ ∃ l ∈ locations, Region.normalize l.name = r) ∧
    ((locations.map (·.priority)).Nodup →
      ∀ others, others.Perm locations → splitLocations others = split) := by
  intro write split
  have hsorted := stableOrder_mergeSort (fun l : Location => l.priority) (otherLocations locations)
  have hsplit : split = (write, _) := splitLocations_eq hpriorities hsorted
  have hmem : ∀ r, r ∈ split.2 ↔
      (∃ l ∈ otherLocations locations, Region.normalize l.name = r) ∧ write ≠ some r := by
    intro r
    simp only [hsplit, List.mem_filter, Region.mem_distinctNames, List.mem_map, List.mem_mergeSort,
      decide_eq_true_iff]
    refine and_congr ⟨?_, ?_⟩ ne_comm
    · rintro ⟨_, ⟨l, hl, rfl⟩, hname⟩
      exact ⟨l, hl, hname⟩
    · rintro ⟨l, hl, hname⟩
      exact ⟨_, ⟨l, hl, rfl⟩, hname⟩
  have hwrite : split.1 = write := by rw [hsplit]
  refine ⟨hwrite, ⟨_, hsorted⟩, fun sorted h => ?_, ?_, fun r hr => ?_, fun r => ?_, fun hd others h => ?_⟩
  · exact congrArg Prod.snd (splitLocations_eq hpriorities h)
  · rw [hsplit]
    exact (Region.distinctNames_nodup _).filter _
  · rw [hwrite]
    exact ((hmem r).1 hr).2
  · have hregion : write = some r ↔
        ∃ l, writeLocation? locations = some l ∧ Region.normalize l.name = r := Option.map_eq_some_iff
    have hall : (∃ l ∈ locations, Region.normalize l.name = r) ↔
        write = some r ∨ ∃ l ∈ otherLocations locations, Region.normalize l.name = r := by
      rw [hregion, ← exists_or]
      exact exists_congr fun l => by rw [mem_iff_of_writeLocation?, or_and_right]
    rw [hwrite, hmem, hall]
    tauto
  · exact congrArg (List.foldl placeLocation (none, [])) (mergeSort_eq_of_perm hd h)

/-- One region in two spellings, two regions of one priority, and two of priority 0. -/
theorem splitLocations_by_priority_spelled :
    let locations : List Location := [
      { name := "North Europe", priority := 2 }, { name := "West-Europe", priority := 0 },
      { name := "eastus", priority := 2 }, { name := "azure.Region.north_europe", priority := 7 },
      { name := "westus", priority := 0 }, { name := "westeurope", priority := 1 }]
    let ranked : List Location := [
      { name := "westus", priority := 5 }, { name := "East US", priority := 0 },
      { name := "northeurope", priority := 3 }]
    ((∀ l ∈ locations, 0 ≤ l.priority) ∧
      splitLocations locations = (some "westeurope", ["westus", "northeurope", "eastus"])) ∧
    (∀ l ∈ ranked, 0 ≤ l.priority) ∧ (ranked.map (·.priority)).Nodup ∧
      splitLocations ranked.reverse = splitLocations ranked := by
  intro locations ranked
  have hpriorities : ∀ l ∈ locations, 0 ≤ l.priority := by decide
  obtain ⟨hwrite, -, hreads, -⟩ := splitLocations_by_priority hpriorities
  have hsorted : StableOrder (·.priority) (otherLocations locations) [
      { name := "westus", priority := 0 }, { name := "westeurope", priority := 1 },
      { name := "North Europe", priority := 2 }, { name := "eastus", priority := 2 },
      { name := "azure.Region.north_europe", priority := 7 }] := by
    refine ⟨by decide, fun k => ?_⟩
    by_cases hk : k ∈ ([0, 1, 2, 7] : List Int32)
    · simp only [List.mem_cons, List.not_mem_nil, or_false] at hk
      obtain rfl | rfl | rfl | rfl := hk <;> decide
    · have hnone : ∀ ls : List Location, (∀ l ∈ ls, l.priority ∈ ([0, 1, 2, 7] : List Int32)) →
          (ls.filter fun l => l.priority = k) = [] := fun ls hls =>
        List.filter_eq_nil_iff.2 fun l hl h => hk (of_decide_eq_true h ▸ hls l hl)
      rw [hnone _ (by decide), hnone _ (by decide)]
  have hranked : ∀ l ∈ ranked, 0 ≤ l.priority := by decide
  have hdistinct : (ranked.map (·.priority)).Nodup := by decide
  obtain ⟨-, -, -, -, -, -, hperm⟩ := splitLocations_by_priority hranked
  exact ⟨⟨hpriorities, Prod.ext (hwrite.trans (by decide)) ((hreads _ hsorted).trans (by decide))⟩,
    hranked, hdistinct, hperm hdistinct _ (List.reverse_perm ranked)⟩

end

end Account
end AzureProvisioning
