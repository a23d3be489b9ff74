/-
# Locations of any number

The priority of a location is its place in the list, as a number of 32 bits. The places from
`priorityLimit` on have negative numbers, and far behind these the numbers start again with 0.

When locations in order are read, the first one is the write region all the same: negative priorities do
not take writes, and of those with priority 0 it comes first. So the others are the read regions, in some
order (`InOrder.exists_split`). It is the order of the list exactly when the priorities suffice
(`InOrder.split_iff`): otherwise a location with a negative priority is read before the second one.
-/

import AzureProvisioning.Proofs.Account.Splitting

namespace AzureProvisioning

/-- The first of the given items stands behind items with other keys. -/
theorem StableOrder.exists_of_first {α κ : Type} [LE κ] [DecidableEq κ] {key : α → κ} {a : α}
    {rest sorted : List α} (h : StableOrder key (a :: rest) sorted) :
    ∃ before after, sorted = before ++ a :: after ∧ ∀ b ∈ before, key b ≠ key a := by
  have hstable := h.stable (key a)
  rw [List.filter_cons_of_pos (by simp)] at hstable
  obtain ⟨before, after, hsorted, hbefore, -, -⟩ := List.filter_eq_cons_iff.1 hstable
  exact ⟨before, after, hsorted, fun b hb => by simpa using hbefore b hb⟩

namespace Account

variable {locations : List Location}

/-- Locations that name different regions are read in ascending order of priority: the first one with
priority 0 is the write region, and those before and behind it are the read regions. -/
theorem splitLocations_of_sorted {before after : List Location} {first : Location}
    (hsorted : (locations.mergeSort fun a b => a.priority ≤ b.priority) = before ++ first :: after)
    (hbefore : ∀ l ∈ before, l.priority ≠ 0) (hzero : first.priority = 0)
    (hd : (locations.map (·.name)).Nodup)
    (hn : ∀ l ∈ locations, Region.normalize l.name = l.name) :
    splitLocations locations = (some first.name, (before ++ after).map (·.name)) := by
  have hperm : (before ++ first :: after).Perm locations := hsorted ▸ List.mergeSort_perm _ _
  have hnormal : ∀ l ∈ before ++ first :: after, Region.normalize l.name = l.name :=
    fun l hl => hn l (hperm.subset hl)
  have hnodup : ((first :: (before ++ after)).map (·.name)).Nodup :=
    ((List.perm_middle.symm.trans hperm).map _).nodup_iff.2 hd
  have hstart : before.foldl placeLocation (none, []) = (none, before.map (·.name)) := by
    rw [foldl_placeLocation_eq fun _ => hbefore, List.nil_append, Region.distinctNames_of_normal]
    · simp
    · rw [List.map_cons, List.map_append] at hnodup
      exact (List.nodup_append.1 (List.nodup_cons.1 hnodup).2).1
    · rw [List.forall_mem_map]
      exact fun l hl => hnormal l (List.mem_append_left _ hl)
  have hplace : placeLocation (none, before.map (·.name)) first =
      (some first.name, before.map (·.name)) := by
    rw [placeLocation, if_pos ⟨hzero, rfl⟩, hnormal first (by simp)]
  have hafter : (after.map fun l => Region.normalize l.name) = after.map (·.name) :=
    List.map_congr_left fun l hl =>
      hnormal l (List.mem_append_right _ (List.mem_cons_of_mem _ hl))
  rw [splitLocations, hsorted, List.foldl_append, hstart, List.foldl_cons, hplace,
    InOrder.foldl_placeLocation, hafter, List.map_append]
  simpa [hafter] using hnodup

namespace InOrder

variable {write : String} {reads : List String}

/-- The first location has priority 0. -/
theorem exists_cons (h : InOrder locations (write :: reads)) :
    ∃ first rest, locations = first :: rest ∧ first.name = write ∧ first.priority = 0 ∧
      rest.map (·.name) = reads := by
  obtain ⟨hnamed, hranked⟩ := h
  rw [List.length_cons, List.range_succ_eq_map] at hranked
  cases locations with
  | nil => cases hnamed
  | cons first rest =>
    obtain ⟨hname, hrest⟩ := List.cons.inj hnamed
    exact ⟨first, rest, rfl, hname, (List.cons.inj hranked).1, hrest⟩

/-- The second location has priority 1. -/
theorem priority_second {first second : Location} {rest : List Location} {names : List String}
    (h : InOrder (first :: second :: rest) names) : second.priority = 1 := by
  obtain ⟨rfl, hranked⟩ := h
  simp only [List.map_cons, List.length_cons, List.range_succ_eq_map] at hranked
  exact (List.cons.inj (List.cons.inj hranked).2).1

/-- Where the priorities do not suffice, one is the least number of all. -/
theorem exists_negative {names : List String} (h : InOrder locations names)
    (hmany : priorityLimit < names.length) :
    ∃ l ∈ locations, l.priority = Int32.ofNat priorityLimit := by
  have hpriority : Int32.ofNat priorityLimit ∈ locations.map (·.priority) := by
    rw [h.ranked]
    exact List.mem_map_of_mem (List.mem_range.2 hmany)
  exact List.mem_map.1 hpriority

section

variable (h : InOrder locations (write :: reads)) (hd : (write :: reads).Nodup)
  (hn : ∀ r ∈ write :: reads, Region.normalize r = r)
include h hd hn

/-- The read regions are the locations before and behind the first one in ascending order. -/
theorem exists_sorted_split :
    ∃ first rest before after, locations = first :: rest ∧ first.priority = 0 ∧
      rest.map (·.name) = reads ∧
      (locations.mergeSort fun a b => a.priority ≤ b.priority) = before ++ first :: after ∧
      splitLocations locations = (some write, (before ++ after).map (·.name)) := by
  obtain ⟨first, rest, rfl, hname, hzero, hrest⟩ := h.exists_cons
  obtain ⟨before, after, hsorted, hbefore⟩ :=
    (stableOrder_mergeSort (fun l : Location => l.priority) (first :: rest)).exists_of_first
  refine ⟨first, rest, before, after, rfl, hzero, hrest, hsorted, ?_⟩
  rw [← hname]
  refine splitLocations_of_sorted hsorted (by simpa only [hzero] using hbefore) hzero
    (h.named ▸ hd) fun l hl => hn _ ?_
  rw [← h.named]
  exact List.mem_map_of_mem hl

/-- **The first of any number of locations is read as the write region**, and the others as read
regions in some order. -/
theorem exists_split :
    ∃ reads', splitLocations locations = (some write, reads') ∧ reads'.Perm reads := by
  obtain ⟨first, rest, before, after, rfl, -, hrest, hsorted, hsplit⟩ := h.exists_sorted_split hd hn
  have hperm : (before ++ first :: after).Perm (first :: rest) := hsorted ▸ List.mergeSort_perm _ _
  refine ⟨_, hsplit, ?_⟩
  rw [← hrest]
  exact (List.perm_middle.symm.trans hperm).cons_inv.map _

/-- **Locations are read in the order of the list exactly when there are priorities for all.** -/
theorem split_iff :
    splitLocations locations = (some write, reads) ↔ (write :: reads).length ≤ priorityLimit := by
  refine ⟨fun hsame => ?_, fun hlen => h.split hlen hd hn⟩
  by_contra hmany
  obtain ⟨first, rest, before, after, rfl, hzero, hrest, hsorted, hsplit⟩ :=
    h.exists_sorted_split hd hn
  obtain ⟨least, hleast, hnegative⟩ := h.exists_negative (Nat.lt_of_not_le hmany)
  have hnames : (before ++ after).map (·.name) = rest.map (·.name) := by
    rw [hrest]
    exact (Prod.mk.inj (hsplit.symm.trans hsame)).2
  have hmem : ∀ l, l ∈ before ++ first :: after ↔ l ∈ first :: rest := fun l => by
    rw [← hsorted, List.mem_mergeSort]
  -- the location that is read before all others has a negative priority
  have hhead : ∀ l ls, before ++ first :: after = l :: ls → l.priority ≤ Int32.ofNat priorityLimit := by
    intro l ls hl
    have hascending :=
      (stableOrder_mergeSort (fun l : Location => l.priority) (first :: rest)).ascending
    rw [hsorted, hl] at hascending
    rw [← hmem, hl] at hleast
    exact hnegative ▸ key_le_of_ascending hascending hleast
  cases before with
  | nil =>
    have hle := hhead first after rfl
    rw [hzero] at hle
    exact absurd hle (by decide)
  | cons s before =>
    cases rest with
    | nil => cases hnames
    | cons second rest =>
      -- so it is not the second one of the list
      obtain rfl : s = second :=
        List.inj_on_of_nodup_map (f := fun l : Location => l.name) (h.named ▸ hd)
          ((hmem s).1 List.mem_cons_self) (by simp) (List.cons.inj hnames).1
      have hle := hhead s _ rfl
      rw [h.priority_second] at hle
      exact absurd hle (by decide)

end

end InOrder
end Account
end AzureProvisioning
