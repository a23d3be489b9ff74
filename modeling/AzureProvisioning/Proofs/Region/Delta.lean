/-
# Differences between region lists

What `delta` lists is what leads from the read regions of an account to the declared ones: with the
additions made, the removals made and the write region in place, the account has the declared regions
and no other one (`delta_reconciles`). A region is in at most one of the two lists, and once there. The
write region comes last of the additions or is a declared read region, and it is never removed.

The lists are filters of what is given, without its repeats, so they keep its order. `withoutRepeats`
keeps each item at its first place (`byFirstPlace_withoutRepeats`), and it does not matter whether
items are left out before it or after it (`withoutRepeats_filter`).
-/

import AzureProvisioning.Proofs.Region
import AzureProvisioning.Region.Delta
import Mathlib.Data.Finset.Dedup
import Mathlib.Data.Finset.Insert
import Mathlib.Data.Finset.SDiff

namespace AzureProvisioning
namespace Region

section Repeats

variable {α : Type} [DecidableEq α]

/-- The items come in the order of their first places in the given list, each of them once. -/
def ByFirstPlace (given items : List α) : Prop :=
  items.Pairwise fun a b => given.idxOf a < given.idxOf b

theorem byFirstPlace_withoutRepeats (given : List α) : ByFirstPlace given (withoutRepeats given) := by
  induction given with
  | nil => exact .nil
  | cons a as ih =>
    have hlater {b : α} (hb : b ∈ (withoutRepeats as).filter (· ≠ a)) :
        (a :: as).idxOf b = as.idxOf b + 1 := by
      have hne : b ≠ a := by simpa using (List.mem_filter.1 hb).2
      exact List.idxOf_cons_ne _ hne.symm
    refine List.pairwise_cons.2 ⟨fun b hb => ?_, ?_⟩
    · rw [List.idxOf_cons_self, hlater hb]
      exact Nat.succ_pos _
    · refine (ih.filter _).imp_of_mem fun hb hc hlt => ?_
      rw [hlater hb, hlater hc]
      exact Nat.succ_lt_succ hlt

theorem withoutRepeats_filter (p : α → Bool) (as : List α) :
    withoutRepeats (as.filter p) = (withoutRepeats as).filter p := by
  induction as with
  | nil => rfl
  | cons a as ih =>
    by_cases h : p a = true
    · rw [List.filter_cons_of_pos h, withoutRepeats, withoutRepeats, ih, List.filter_cons_of_pos h,
        List.filter_filter, List.filter_filter]
      exact congrArg (a :: ·) (List.filter_congr fun b _ => Bool.and_comm _ _)
    · rw [List.filter_cons_of_neg h, ih, withoutRepeats, List.filter_cons_of_neg h,
        List.filter_filter]
      -- an item that is kept is not the one that has been left out
      refine List.filter_congr fun b _ => (Bool.and_eq_left_iff_imp.2 fun hb => ?_).symm
      exact decide_eq_true fun heq => h (heq ▸ hb)

end Repeats

variable {desiredRead currentRead : List String} {desiredWrite r : String}

/-- The declared read regions that are missing, then the write region unless it is one of them. -/
theorem toAdd_delta (desiredRead currentRead : List String) (desiredWrite : String) :
    (delta desiredRead currentRead desiredWrite).toAdd =
      (withoutRepeats desiredRead).filter (fun r => !currentRead.contains r) ++
        if desiredWrite ∈ desiredRead then [] else [desiredWrite] := by
  simp only [delta, withoutRepeats_filter, List.contains_iff_mem]

theorem mem_toAdd_delta :
    r ∈ (delta desiredRead currentRead desiredWrite).toAdd ↔
      r ∈ desiredRead ∧ r ∉ currentRead ∨ r = desiredWrite ∧ desiredWrite ∉ desiredRead := by
  rw [toAdd_delta, List.mem_append, List.mem_filter, mem_withoutRepeats]
  refine or_congr (by simp) ?_
  by_cases h : desiredWrite ∈ desiredRead <;> simp [h]

theorem nodup_toAdd_delta : (delta desiredRead currentRead desiredWrite).toAdd.Nodup := by
  have hreads := (nodup_withoutRepeats desiredRead).filter fun r => !currentRead.contains r
  rw [toAdd_delta]
  by_cases h : desiredWrite ∈ desiredRead
  · rwa [if_pos h, List.append_nil]
  · rw [if_neg h]
    refine hreads.append (List.nodup_singleton _) (List.disjoint_singleton.2 fun hmem => h ?_)
    exact mem_withoutRepeats.1 (List.mem_filter.1 hmem).1

theorem mem_toRemove_delta :
    r ∈ (delta desiredRead currentRead desiredWrite).toRemove ↔
      r ∈ currentRead ∧ r ∉ desiredRead ∧ r ≠ desiredWrite := by
  simp [delta, mem_withoutRepeats]

/-- What leads from the read regions of an account to the declared ones. -/
structure Delta.Reconciles (d : Delta) (desiredRead currentRead : List String)
    (desiredWrite : String) : Prop where
  /-- Where the read regions of the account, with the additions and without the removals, are joined by
  the write region, they are the declared regions. -/
  regions : insert desiredWrite ((currentRead.toFinset ∪ d.toAdd.toFinset) \ d.toRemove.toFinset) =
    insert desiredWrite desiredRead.toFinset
  nodup_toAdd : d.toAdd.Nodup
  nodup_toRemove : d.toRemove.Nodup
  disjoint : d.toAdd.Disjoint d.toRemove
  /-- The additions are the declared read regions that the account does not have, in the order in which
  they are declared first, and at the end the write region, unless it is a declared read region. -/
  toAdd : ∃ reads, d.toAdd = reads ++ (if desiredWrite ∈ desiredRead then [] else [desiredWrite]) ∧
    (∀ r, r ∈ reads ↔ r ∈ desiredRead ∧ r ∉ currentRead) ∧ ByFirstPlace desiredRead reads
  mem_toRemove : ∀ r, r ∈ d.toRemove ↔ r ∈ currentRead ∧ r ∉ desiredRead ∧ r ≠ desiredWrite
  write_not_removed : desiredWrite ∉ d.toRemove
  toRemove : d.toRemove.Sublist currentRead

/-- **The delta reconciles the two lists**, repeats in them and the write region among them or not. -/
theorem delta_reconciles (desiredRead currentRead : List String) (desiredWrite : String) :
    (delta desiredRead currentRead desiredWrite).Reconciles desiredRead currentRead desiredWrite where
  regions := by
    ext r
    simp only [Finset.mem_insert, Finset.mem_sdiff, Finset.mem_union, List.mem_toFinset,
      mem_toAdd_delta, mem_toRemove_delta]
    tauto
  nodup_toAdd := nodup_toAdd_delta
  nodup_toRemove := nodup_withoutRepeats _
  disjoint r hadd hremove := by
    obtain ⟨hcurrent, hdesired, hwrite⟩ := mem_toRemove_delta.1 hremove
    obtain ⟨hread, -⟩ | ⟨hlast, -⟩ := mem_toAdd_delta.1 hadd
    · exact hdesired hread
    · exact hwrite hlast
  toAdd := by
    refine ⟨_, toAdd_delta desiredRead currentRead desiredWrite, fun r => ?_,
      (byFirstPlace_withoutRepeats desiredRead).filter _⟩
    rw [List.mem_filter, mem_withoutRepeats]
    simp
  mem_toRemove _ := mem_toRemove_delta
  write_not_removed h := (mem_toRemove_delta.1 h).2.2 rfl
  toRemove := (withoutRepeats_sublist _).trans List.filter_sublist

/-- A region that is declared twice, one that stays, and a read region that takes the writes. -/
example : delta ["c", "a", "b", "a"] ["w", "b", "d"] "w" = ⟨["c", "a", "w"], ["d"]⟩ := by decide

end Region
end AzureProvisioning
