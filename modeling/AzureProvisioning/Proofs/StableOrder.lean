/-
# Sorting by a key

Sorting brings items into ascending order of their keys and leaves items with one key in the order in
which they were given. These two properties, `StableOrder`, tell what comes out: there is one such
arrangement (`StableOrder.unique`), and sorting finds it (`stableOrder_mergeSort`). So the order of what
is given counts among items with one key only (`mergeSort_eq_iff`), and it does count among these
(`eq_of_mergeSort_reverse`).
-/

import Mathlib.Data.List.Nodup

namespace AzureProvisioning

/-- The given items in ascending order of their keys, those with one key in the given order. -/
structure StableOrder {α κ : Type} [LE κ] [DecidableEq κ] (key : α → κ) (given sorted : List α) :
    Prop where
  ascending : sorted.Pairwise fun a b => key a ≤ key b
  stable : ∀ k, (sorted.filter fun a => key a = k) = given.filter fun a => key a = k

/-- Lists of one item at most, with the same items, are the same. -/
theorem eq_of_perm_of_forall_eq {α : Type} {as bs : List α} (h : as.Perm bs)
    (hone : ∀ a ∈ bs, ∀ b ∈ bs, a = b) : as = bs :=
  h.eq_of_pairwise (fun a b ha hb _ _ => hone a (h.subset ha) b hb)
    (List.pairwise_of_forall fun _ _ => trivial) (List.pairwise_of_forall fun _ _ => trivial)

/-- A list without repetitions that is its own reverse has one item at most. -/
theorem eq_of_reverse_eq {α : Type} {as : List α} (hd : as.Nodup) (h : as.reverse = as) {a b : α}
    (ha : a ∈ as) (hb : b ∈ as) : a = b := by
  rcases as with _ | ⟨x, _ | ⟨y, as⟩⟩
  · cases ha
  · rw [List.mem_singleton.1 ha, List.mem_singleton.1 hb]
  · have hlast : (x :: y :: as).getLast? = some x := by
      rw [← List.head?_reverse, h]
      rfl
    rw [List.getLast?_cons_cons] at hlast
    exact absurd (List.mem_of_getLast? hlast) (List.nodup_cons.1 hd).1

/-- The first item in ascending order has the least key. -/
theorem key_le_of_ascending {α κ : Type} [LE κ] [Std.IsLinearOrder κ] {key : α → κ} {a b : α}
    {as : List α} (h : (a :: as).Pairwise fun a b => key a ≤ key b) (hb : b ∈ a :: as) : key a ≤ key b := by
  obtain rfl | hb := List.mem_cons.1 hb
  · exact Std.le_refl _
  · exact List.rel_of_pairwise_cons h hb

section

variable {α κ : Type} [DecidableEq κ] {key : α → κ} {as bs : List α}

/-- Lists that hold the same items with each key hold the same items. -/
theorem mem_iff_of_filter_eq
    (h : ∀ k, (as.filter fun a => key a = k) = bs.filter fun a => key a = k) (a : α) :
    a ∈ as ↔ a ∈ bs := by
  have hfilter : a ∈ (as.filter fun b => key b = key a) ↔ a ∈ bs.filter fun b => key b = key a := by
    rw [h]
  simpa using hfilter

variable [LE κ] [Std.IsLinearOrder κ]

/-- Lists in ascending order are the same when they hold the same items with each key, in one order. -/
theorem eq_of_ascending (has : as.Pairwise fun a b => key a ≤ key b)
    (hbs : bs.Pairwise fun a b => key a ≤ key b)
    (h : ∀ k, (as.filter fun a => key a = k) = bs.filter fun a => key a = k) : as = bs := by
  have hmem := mem_iff_of_filter_eq h
  induction as generalizing bs with
  | nil => exact (List.eq_nil_iff_forall_not_mem.2 fun b hb => List.not_mem_nil ((hmem b).2 hb)).symm
  | cons a as ih =>
    cases bs with
    | nil => exact absurd ((hmem a).1 List.mem_cons_self) List.not_mem_nil
    | cons b bs =>
      -- the first items are the least of both lists, so they have one key
      have hab : key a ≤ key b := key_le_of_ascending has ((hmem b).2 List.mem_cons_self)
      have hba : key b ≤ key a := key_le_of_ascending hbs ((hmem a).1 List.mem_cons_self)
      have hfirst := h (key a)
      simp only [Std.le_antisymm hba hab, decide_true, List.filter_cons_of_pos, List.cons.injEq] at hfirst
      obtain ⟨rfl, hsame⟩ := hfirst
      have hrest : ∀ k, (as.filter fun b => key b = k) = bs.filter fun b => key b = k := by
        intro k
        by_cases hk : key a = k
        · rw [← hk]
          exact hsame
        · simpa [hk] using h k
      rw [ih has.of_cons hbs.of_cons hrest (mem_iff_of_filter_eq hrest)]

/-- There is one stable order. -/
theorem StableOrder.unique {given : List α} (h : StableOrder key given as)
    (h' : StableOrder key given bs) : as = bs :=
  eq_of_ascending h.ascending h'.ascending fun k => (h.stable k).trans (h'.stable k).symm

end

section

variable {α κ : Type} [DecidableEq κ] [LE κ] [DecidableLE κ] [Std.IsLinearOrder κ]

/-- **Sorting finds the stable order.** -/
theorem stableOrder_mergeSort (key : α → κ) (given : List α) :
    StableOrder key given (given.mergeSort fun a b => key a ≤ key b) := by
  have htrans : ∀ a b c, decide (key a ≤ key b) = true → decide (key b ≤ key c) = true →
      decide (key a ≤ key c) = true := fun a b c hab hbc =>
    decide_eq_true (Std.le_trans (of_decide_eq_true hab) (of_decide_eq_true hbc))
  have htotal : ∀ a b, (decide (key a ≤ key b) || decide (key b ≤ key a)) = true := fun a b => by
    simpa using Std.le_total
  refine ⟨by simpa using List.pairwise_mergeSort htrans htotal given, fun k => ?_⟩
  -- items with one key are in ascending order as they are given, and such a part keeps its order
  have hpart : (given.filter fun a => key a = k).Pairwise fun a b => decide (key a ≤ key b) = true := by
    refine List.pairwise_of_forall_mem_list fun a ha b hb => ?_
    have ha : key a = k := by simpa using (List.mem_filter.1 ha).2
    have hb : key b = k := by simpa using (List.mem_filter.1 hb).2
    rw [ha, hb]
    exact decide_eq_true (Std.le_refl k)
  have hsub := (List.sublist_mergeSort htrans htotal hpart List.filter_sublist).filter
    fun a => decide (key a = k)
  rw [List.filter_filter] at hsub
  simp only [Bool.and_self] at hsub
  exact (hsub.eq_of_length ((List.mergeSort_perm given _).filter _).length_eq.symm).symm

/-- **Lists are sorted into one when they hold the same items with each key, in one order.** -/
theorem mergeSort_eq_iff {key : α → κ} {given other : List α} :
    (given.mergeSort fun a b => key a ≤ key b) = (other.mergeSort fun a b => key a ≤ key b) ↔
      ∀ k, (given.filter fun a => key a = k) = other.filter fun a => key a = k := by
  have h := stableOrder_mergeSort key given
  have h' := stableOrder_mergeSort key other
  constructor
  · intro heq k
    rw [← h.stable k, heq, h'.stable k]
  · intro hfilter
    refine eq_of_ascending h.ascending h'.ascending fun k => ?_
    rw [h.stable k, h'.stable k, hfilter k]

/-- Items with different keys are sorted in one way, whatever their order is. -/
theorem mergeSort_eq_of_perm {key : α → κ} {given other : List α} (hd : (given.map key).Nodup)
    (h : other.Perm given) :
    (other.mergeSort fun a b => key a ≤ key b) = given.mergeSort fun a b => key a ≤ key b := by
  refine mergeSort_eq_iff.2 fun k => ?_
  have hkey : ∀ a ∈ (given.filter fun a => key a = k), a ∈ given ∧ key a = k := fun a ha => by
    simpa using ha
  refine eq_of_perm_of_forall_eq (h.filter _) fun a ha b hb => ?_
  obtain ⟨ha, hak⟩ := hkey a ha
  obtain ⟨hb, hbk⟩ := hkey b hb
  exact List.inj_on_of_nodup_map hd ha hb (hak.trans hbk.symm)

/-- Items with one key are told apart by the order in which they are given. -/
theorem eq_of_mergeSort_reverse {key : α → κ} {given : List α} (hd : given.Nodup)
    (h : (given.reverse.mergeSort fun a b => key a ≤ key b) = given.mergeSort fun a b => key a ≤ key b)
    {a b : α} (ha : a ∈ given) (hb : b ∈ given) (hab : key a = key b) : a = b := by
  have hfilter := mergeSort_eq_iff.1 h (key b)
  rw [List.filter_reverse] at hfilter
  exact eq_of_reverse_eq (hd.filter _) hfilter (List.mem_filter.2 ⟨ha, decide_eq_true hab⟩)
    (List.mem_filter.2 ⟨hb, decide_eq_true rfl⟩)

end

end AzureProvisioning
