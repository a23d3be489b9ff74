/-
# The regions of an update

An update goes from the regions of the current account to the declared ones in steps: it adds what
is missing, removes what is not declared, and orders the rest. Each list that it writes on the way
has every region once (`extendedRegions_nodup`, `remainingRegions_nodup`, `orderedRegions_nodup`)
and starts with the region that takes writes at that time. The order names exactly the regions that
remain (`mem_orderedRegions_iff`): the declared ones and the former write region.
-/

import AzureProvisioning.Account.Lifecycle
import AzureProvisioning.Proofs.Region.Delta

namespace AzureProvisioning
namespace Account

variable {desired current : Account} {former write r : String}

theorem mem_addedRegions :
    r ∈ addedRegions desired current write ↔
      (r ∈ desired.readRegions ∨ r = write) ∧ r ∉ current.regions := by
  have hreads : r ∉ current.regions → r ∉ current.readRegions :=
    fun h hr => h (List.mem_append_right _ hr)
  rw [addedRegions, List.mem_filter, Region.mem_toAdd_delta, Bool.not_eq_true', ← Bool.not_eq_true,
    List.contains_iff_mem]
  grind

theorem addedRegions_nodup : (addedRegions desired current write).Nodup :=
  Region.nodup_toAdd_delta.filter _

theorem mem_extendedRegions :
    r ∈ extendedRegions desired current write ↔
      r ∈ current.regions ∨ r ∈ desired.readRegions ∨ r = write := by
  rw [extendedRegions, List.mem_append, mem_addedRegions]
  grind

theorem extendedRegions_nodup (hd : current.regions.Nodup) :
    (extendedRegions desired current write).Nodup := by
  refine List.nodup_append.2 ⟨hd, addedRegions_nodup, ?_⟩
  intro a ha b hb hab
  exact (mem_addedRegions.1 hb).2 (hab ▸ ha)

/-- The extended regions start with the current write region. -/
theorem extendedRegions_eq_cons (desired : Account) (write : String)
    (hw : current.writeRegion = some former) :
    ∃ rest, extendedRegions desired current write = former :: rest :=
  ⟨current.readRegions ++ addedRegions desired current write, by
    simp [extendedRegions, regions, hw]⟩

/-- A read region is removed when the declaration does not name it. -/
theorem isRemoved_iff :
    isRemoved desired current write r = true ↔
      r ∈ current.readRegions ∧ r ∉ desired.readRegions ∧ r ≠ write := by
  rw [isRemoved, List.contains_iff_mem, Region.mem_toRemove_delta]

theorem remainingRegions_nodup (hd : current.regions.Nodup) :
    (remainingRegions desired current write).Nodup :=
  (extendedRegions_nodup hd).sublist List.filter_sublist

/-- Without a region to remove the extended regions are the remaining ones. -/
theorem remainingRegions_of_none
    (h : (extendedRegions desired current write).any (isRemoved desired current write) = false) :
    remainingRegions desired current write = extendedRegions desired current write := by
  rw [List.any_eq_false] at h
  rw [remainingRegions, List.filter_eq_self]
  intro r hr
  simpa using h r hr

/-- The declared regions in order, then the former write region when it is not declared. -/
def orderedRegions (desired current : Account) (write : String) : List String :=
  write :: desired.readRegions ++ (staleWrite? desired current write).toList

theorem staleWrite?_eq_some_iff (hw : current.writeRegion = some former) :
    staleWrite? desired current write = some r ↔
      r = former ∧ former ≠ write ∧ former ∉ desired.readRegions := by
  rw [staleWrite?, hw, Option.filter_some]
  grind

theorem orderedRegions_nodup (hd : (write :: desired.readRegions).Nodup)
    (hw : current.writeRegion = some former) : (orderedRegions desired current write).Nodup := by
  cases hs : staleWrite? desired current write with
  | none => simpa [orderedRegions, hs] using hd
  | some stale =>
    obtain ⟨rfl, hne, hnot⟩ := (staleWrite?_eq_some_iff hw).1 hs
    rw [orderedRegions, hs, Option.toList_some]
    refine List.nodup_append.2 ⟨hd, by simp, ?_⟩
    rintro a ha b hb rfl
    rw [List.mem_singleton.1 hb] at ha
    rcases List.mem_cons.1 ha with h | h
    · exact hne h
    · exact hnot h

section Current

variable (hd : current.regions.Nodup) (hw : current.writeRegion = some former)
include hd hw

/-- The write region of the current account stays until the order changes. -/
theorem not_isRemoved_former : isRemoved desired current write former = false := by
  have hnot : former ∉ current.readRegions := by
    rw [regions, hw] at hd
    exact (List.nodup_cons.1 hd).1
  rw [← Bool.not_eq_true, isRemoved_iff]
  exact fun h => hnot h.1

theorem mem_remainingRegions :
    r ∈ remainingRegions desired current write ↔
      r = former ∨ r ∈ desired.readRegions ∨ r = write := by
  have hformer : isRemoved desired current write former = false := not_isRemoved_former hd hw
  have hregions : r ∈ current.regions ↔ r = former ∨ r ∈ current.readRegions := by
    simp [regions, hw]
  rw [remainingRegions, List.mem_filter, mem_extendedRegions, Bool.not_eq_true',
    ← Bool.not_eq_true, isRemoved_iff, hregions]
  rw [← Bool.not_eq_true, isRemoved_iff] at hformer
  grind

/-- The order names exactly the regions that remain. -/
theorem mem_orderedRegions_iff :
    r ∈ orderedRegions desired current write ↔ r ∈ remainingRegions desired current write := by
  have hstale : r ∈ (staleWrite? desired current write).toList ↔
      r = former ∧ former ≠ write ∧ former ∉ desired.readRegions := by
    rw [Option.mem_toList, staleWrite?_eq_some_iff hw]
  rw [mem_remainingRegions hd hw, orderedRegions, List.mem_append, List.mem_cons, hstale]
  grind

/-- The remaining regions, too, start with the current write region. -/
theorem remainingRegions_eq_cons :
    ∃ rest, remainingRegions desired current write = former :: rest := by
  obtain ⟨rest, hrest⟩ := extendedRegions_eq_cons desired write hw
  rw [remainingRegions, hrest, List.filter_cons_of_pos (by simp [not_isRemoved_former hd hw])]
  exact ⟨_, rfl⟩

end Current
end Account
end AzureProvisioning
