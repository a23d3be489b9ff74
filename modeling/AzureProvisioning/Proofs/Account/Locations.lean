/-
# Locations in order

Priorities are 32-bit numbers that follow the order of the regions. `Account.InOrder` says so of a
list of locations and the names it carries; what the library writes is in order
(`inOrder_prioritized`), and so is what a change of priorities leaves (`reordered_failoverOrder`).

From locations in order the service reads the first name as the write region
(`InOrder.writeRegion`), and `splitLocations` gives the first name and the others back
(`InOrder.split`). The latter needs no more than `priorityLimit` locations: further ones would have
negative priorities and be sorted before the first.
-/

import AzureProvisioning.Account.Locations
import AzureProvisioning.Memory
import AzureProvisioning.Proofs.Region

namespace AzureProvisioning
namespace Account

/-- How many regions can be numbered from 0 by priorities of 32 bits. -/
def priorityLimit : Nat := 2147483648

/-- The locations carry these names, and their priorities follow the order. -/
structure InOrder (locations : List Location) (names : List String) : Prop where
  named : locations.map (·.name) = names
  ranked : locations.map (·.priority) = (List.range names.length).map Int32.ofNat

theorem inOrder_prioritized (names : List String) : InOrder (prioritized names) names where
  named := by
    rw [prioritized, List.map_map]
    exact List.zipIdx_map_fst 0 names
  ranked := by
    have h : names.zipIdx.map Prod.snd = List.range names.length := by
      rw [List.zipIdx_map_snd, List.range_eq_range']
    rw [prioritized, List.map_map, ← h, List.map_map]
    rfl

/-- A change to the priorities of `names` leaves the locations that a list of `names` is written as.
-/
theorem reordered_failoverOrder (account : DatabaseAccount) (names : List String) :
    Memory.reordered account (failoverOrder names) =
      { account with properties.locations := prioritized names } := by
  simp [Memory.reordered, failoverOrder, prioritized, Function.comp_def]

theorem map_location_failoverOrder (names : List String) :
    (failoverOrder names).map (·.location) = names := by
  rw [failoverOrder, List.map_map]
  exact List.zipIdx_map_fst 0 names

namespace InOrder

variable {locations : List Location} {names : List String}

/-- The first location takes writes. -/
theorem writeRegion {write : String} {reads : List String} (h : InOrder locations (write :: reads)) :
    Memory.writeRegion? locations = some write := by
  obtain ⟨hnamed, hranked⟩ := h
  cases locations with
  | nil => cases hnamed
  | cons l ls =>
    have hname : l.name = write := (List.cons.inj hnamed).1
    have hpriority : l.priority = 0 := by
      rw [List.length_cons, List.range_succ_eq_map] at hranked
      exact (List.cons.inj hranked).1
    simp [Memory.writeRegion?, hpriority, hname]

theorem pairwise_priority (h : InOrder locations names) (hlen : names.length ≤ priorityLimit) :
    locations.Pairwise fun a b => decide (a.priority ≤ b.priority) = true := by
  unfold priorityLimit at hlen
  have hrange : ((List.range names.length).map Int32.ofNat).Pairwise (· ≤ ·) := by
    refine List.pairwise_map.2 (List.pairwise_lt_range.imp_of_mem fun {i j} hi hj hij => ?_)
    have hi' := List.mem_range.1 hi
    have hj' := List.mem_range.1 hj
    exact (Int32.ofNat_le_iff_le (by omega) (by omega)).2 (Nat.le_of_lt hij)
  rw [← h.ranked] at hrange
  simpa using List.pairwise_map.1 hrange

/-- After the write region every other location is placed as a read region. -/
theorem foldl_placeLocation {write : String} {placed : List String}
    (hd : (write :: placed ++ locations.map fun l => Region.normalize l.name).Nodup) :
    locations.foldl placeLocation (some write, placed) =
      (some write, placed ++ locations.map fun l => Region.normalize l.name) := by
  induction locations generalizing placed with
  | nil => simp
  | cons l ls ih =>
    have hplace : placeLocation (some write, placed) l =
        (some write, placed ++ [Region.normalize l.name]) := by
      have hwrite : write ≠ Region.normalize l.name := by
        intro he
        exact (List.nodup_cons.1 hd).1 (by simp [he])
      have hplaced : Region.normalize l.name ∉ placed := by
        intro hm
        have hdisjoint := (List.nodup_append.1 hd).2.2
        exact hdisjoint _ (List.mem_cons_of_mem _ hm) (Region.normalize l.name) (by simp) rfl
      simp [placeLocation, hwrite, hplaced]
    rw [List.foldl_cons, hplace, ih (by simpa using hd)]
    simp

/-- **Locations in order are split into their first name and the others**, when the names are
pairwise distinct programmatic forms. -/
theorem split {write : String} {reads : List String} (h : InOrder locations (write :: reads))
    (hlen : (write :: reads).length ≤ priorityLimit) (hd : (write :: reads).Nodup)
    (hn : ∀ r ∈ write :: reads, Region.normalize r = r) :
    splitLocations locations = (some write, reads) := by
  rw [splitLocations, List.mergeSort_of_pairwise (h.pairwise_priority hlen)]
  have hnamed := h.named
  have hranked := h.ranked
  cases locations with
  | nil => cases hnamed
  | cons l ls =>
    obtain ⟨hname, hrest⟩ := List.cons.inj hnamed
    have hpriority : l.priority = 0 := by
      rw [List.length_cons, List.range_succ_eq_map] at hranked
      exact (List.cons.inj hranked).1
    have hplace : placeLocation (none, []) l = (some write, []) := by
      simp [placeLocation, hpriority, hname, hn write List.mem_cons_self]
    have hreads : (ls.map fun l => Region.normalize l.name) = reads := by
      rw [← hrest]
      refine List.map_congr_left fun l' hl' => hn _ (List.mem_cons_of_mem _ ?_)
      rw [← hrest]
      exact List.mem_map_of_mem hl'
    rw [List.foldl_cons, hplace, foldl_placeLocation (by simpa [hreads] using hd), hreads]
    rfl

end InOrder
end Account
end AzureProvisioning
