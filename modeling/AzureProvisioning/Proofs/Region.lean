/-
# Programmatic forms of regions

The programmatic form of a region is read back as itself (`normalize_normalize`), so a region
survives any number of passes through declarations, records and locations.

The reason is a fact about single characters: each character of the small form of `c` is its own
small form, and small forms neither bring in a dot nor a separator (`settled_of_mem_lowerChar`). For
the characters outside ASCII it is read off the table of small letters, run by run.
-/

import AzureProvisioning.Region.Basic
import Mathlib.Data.List.TakeWhile

namespace AzureProvisioning
namespace Region

/-- Whether the character passes unchanged through `normalize`: its own small form, no dot, no
separator. -/
def settled (c : Char) : Bool :=
  Text.lowerChar c == [c] && c != '.' && !isSeparator c

theorem settled_iff {c : Char} :
    settled c = true ↔ Text.lowerChar c = [c] ∧ c ≠ '.' ∧ isSeparator c = false := by
  simp [settled, and_assoc]

/-- Whether no character of a run moves into the other run. Runs whose ranges overlap are kept apart
by the parity of their characters. -/
def apart (run other : Text.LowerRun) : Bool :=
  Nat.blt (run.move run.last) other.first || Nat.blt other.last (run.move run.first) ||
    ((Nat.beq run.step 2 || Nat.beq run.first run.last) && Nat.beq other.step 2 &&
      Nat.beq ((run.move run.first + other.first) % 2) 1)

/-- Whether a run moves to characters outside ASCII that are no capital letters. -/
def landsSmall (run : Text.LowerRun) : Bool :=
  let first := run.move run.first
  let last := run.move run.last
  Nat.ble 128 first && (Nat.blt last 0x130 || Nat.blt 0x130 first) &&
    (Nat.blt last 0xD800 || (Nat.blt 0xDFFF first && Nat.blt last 0x110000)) &&
    Text.lowerRuns.all (apart run)

/-- All runs do, except that of the Kelvin sign, which moves to `k`. -/
theorem lowerRuns_landSmall :
    Text.lowerRuns.all (fun run =>
      Int.toNat (-run.distance) ≤ run.first && (landsSmall run || run.first == 0x212A &&
        run.last == 0x212A && run.distance == -8383)) = true := by
  decide +kernel

theorem ascii_settles : ∀ n : Fin 128,
    let c := Char.ofNat n
    c ≠ '.' → isSeparator c = false → settled c.toLower = true := by
  decide +kernel

theorem holds_iff {run : Text.LowerRun} {n : Nat} :
    run.holds n = true ↔ run.first ≤ n ∧ n ≤ run.last ∧ (n - run.first) % run.step = 0 := by
  simp [Text.LowerRun.holds, and_assoc]

theorem move_mono (run : Text.LowerRun) {n m : Nat} (h : n ≤ m) : run.move n ≤ run.move m := by
  unfold Text.LowerRun.move
  omega

theorem not_holds_of_apart {run other : Text.LowerRun} (h : apart run other = true) {n : Nat}
    (hn : run.holds n = true) (hd : Int.toNat (-run.distance) ≤ run.first) :
    other.holds (run.move n) = false := by
  simp only [apart, Bool.or_eq_true, Bool.and_eq_true, Nat.beq_eq, Nat.blt_eq] at h
  obtain ⟨hfirst, hlast, hmod⟩ := holds_iff.1 hn
  have hlow := move_mono run hfirst
  have hhigh := move_mono run hlast
  rw [Bool.eq_false_iff]
  intro ho
  obtain ⟨hofirst, holast, homod⟩ := holds_iff.1 ho
  rcases h with (h | h) | ⟨⟨hstep, hostep⟩, hodd⟩
  · omega
  · omega
  · -- both runs go by twos, so the parity of their first characters decides
    have hparity : (run.move n) % 2 = (run.move run.first) % 2 := by
      unfold Text.LowerRun.move
      rcases hstep with hstep | hstep
      · rw [hstep] at hmod
        omega
      · have : n = run.first := by omega
        rw [this]
    rw [hostep] at homod
    omega

theorem settled_of_landsSmall {run : Text.LowerRun} (h : landsSmall run = true) {n : Nat}
    (hn : run.holds n = true) (hd : Int.toNat (-run.distance) ≤ run.first) :
    settled (Char.ofNat (run.move n)) = true := by
  simp only [landsSmall, Bool.or_eq_true, Bool.and_eq_true, Nat.ble_eq, Nat.blt_eq] at h
  obtain ⟨⟨⟨hascii, hI⟩, hvalid⟩, hall⟩ := h
  obtain ⟨hlow, hhigh, -⟩ := holds_iff.1 hn
  have hmoveLow := move_mono run hlow
  have hmoveHigh := move_mono run hhigh
  have hscalar : (run.move n).isValidChar := by
    simp only [Nat.isValidChar]
    omega
  have htoNat : (Char.ofNat (run.move n)).toNat = run.move n := by
    rw [Char.ofNat, dif_pos hscalar]
    rfl
  have hfind : Text.lowerRuns.find? (·.holds (run.move n)) = none := by
    rw [List.find?_eq_none]
    intro other ho
    rw [not_holds_of_apart (List.all_eq_true.1 hall other ho) hn hd]
    exact Bool.false_ne_true
  refine settled_iff.2 ⟨?_, ?_, ?_⟩
  · have h128 : ¬ run.move n < 128 := by omega
    have h130 : run.move n ≠ 0x130 := by omega
    simp only [Text.lowerChar, htoNat, if_neg h128, if_neg h130, hfind]
  · intro he
    have := congrArg Char.toNat he
    rw [htoNat] at this
    simp at this
    omega
  · simp only [isSeparator, Bool.or_eq_false_iff, beq_eq_false_iff_ne, ne_eq]
    refine ⟨⟨?_, ?_⟩, ?_⟩ <;>
    · intro he
      have := congrArg Char.toNat he
      rw [htoNat] at this
      simp at this
      omega

theorem settled_of_run {run : Text.LowerRun} (hrun : run ∈ Text.lowerRuns) {n : Nat}
    (hn : run.holds n = true) : settled (Char.ofNat (run.move n)) = true := by
  have h := List.all_eq_true.1 lowerRuns_landSmall run hrun
  simp only [Bool.or_eq_true, Bool.and_eq_true, decide_eq_true_eq, beq_iff_eq] at h
  obtain ⟨hd, hsmall | ⟨⟨hfirst, hlast⟩, hdist⟩⟩ := h
  · exact settled_of_landsSmall hsmall hn hd
  · obtain ⟨hlow, hhigh, -⟩ := holds_iff.1 hn
    have hn' : n = 0x212A := by omega
    rw [Text.LowerRun.move, hdist, hn']
    decide +kernel

/-- **Small forms are settled.** A character that is neither a dot nor a separator has only settled
characters in its small form. -/
theorem settled_of_mem_lowerChar {c d : Char} (hdot : c ≠ '.') (hsep : isSeparator c = false)
    (h : d ∈ Text.lowerChar c) : settled d = true := by
  unfold Text.lowerChar at h
  split at h
  · next hc =>
    have h' := ascii_settles ⟨c.toNat, hc⟩
    simp only [Char.ofNat_toNat] at h'
    rw [List.mem_singleton.1 h]
    exact h' hdot hsep
  · next hc =>
    split at h
    · have hI : ['i', Char.ofNat 0x307].all settled = true := by decide +kernel
      exact List.all_eq_true.1 hI d h
    · next hI =>
      split at h
      · next run hfind =>
        rw [List.mem_singleton.1 h]
        exact settled_of_run (List.mem_of_find?_eq_some hfind) (by simpa using List.find?_some hfind)
      · next hfind =>
        have hlow : Text.lowerChar c = [c] := by
          simp only [Text.lowerChar, if_neg hc, if_neg hI, hfind]
        rw [List.mem_singleton.1 h]
        exact settled_iff.2 ⟨hlow, hdot, hsep⟩

theorem not_mem_afterLast (sep : Char) (s : List Char) : sep ∉ Text.afterLast sep s := by
  intro h
  have h' := List.all_eq_true.1 List.all_takeWhile sep (List.mem_reverse.1 h)
  simp at h'

theorem afterLast_of_not_mem {sep : Char} {s : List Char} (h : sep ∉ s) :
    Text.afterLast sep s = s := by
  have hw : s.reverse.takeWhile (· ≠ sep) = s.reverse := by
    refine List.takeWhile_eq_self_iff.2 fun c hc => ?_
    have hne : c ≠ sep := fun he => h (he ▸ List.mem_reverse.1 hc)
    simpa using hne
  rw [Text.afterLast, hw, List.reverse_reverse]

/-- Every character of a programmatic form is settled. -/
theorem settled_of_mem_normalizeChars {s : List Char} {d : Char} (h : d ∈ normalizeChars s) :
    settled d = true := by
  obtain ⟨c, hc, hd⟩ := List.mem_flatMap.1 h
  obtain ⟨hlast, hsep⟩ := List.mem_filter.1 hc
  have hdot : c ≠ '.' := fun he => not_mem_afterLast '.' s (he ▸ hlast)
  exact settled_of_mem_lowerChar hdot (by simpa using hsep) hd

/-- A text of settled characters is its own programmatic form. -/
theorem normalizeChars_of_settled {s : List Char} (h : ∀ c ∈ s, settled c = true) :
    normalizeChars s = s := by
  have hdot : '.' ∉ s := fun hm => (settled_iff.1 (h _ hm)).2.1 rfl
  have hsep : s.filter (fun c => !isSeparator c) = s :=
    List.filter_eq_self.2 fun c hc => by simp [(settled_iff.1 (h c hc)).2.2]
  rw [normalizeChars, afterLast_of_not_mem hdot, hsep]
  clear hdot hsep
  induction s with
  | nil => rfl
  | cons c s ih =>
    have hc : Text.lowerChar c = [c] := (settled_iff.1 (h c List.mem_cons_self)).1
    rw [List.flatMap_cons, hc, ih fun d hd => h d (List.mem_cons_of_mem _ hd)]
    rfl

/-- **A programmatic form is its own programmatic form.** -/
@[simp] theorem normalize_normalize (s : String) : normalize (normalize s) = normalize s := by
  have h : normalizeChars (normalizeChars s.toList) = normalizeChars s.toList :=
    normalizeChars_of_settled fun _ hd => settled_of_mem_normalizeChars hd
  simp only [normalize, String.toList_ofList, h]

theorem lowerChar_ne_nil (c : Char) : Text.lowerChar c ≠ [] := by
  unfold Text.lowerChar
  split
  · simp
  · split
    · simp
    · split <;> simp

/-- Nothing is left of a spelling exactly when it has only separators after its last dot. -/
theorem normalize_eq_empty_iff {s : String} :
    normalize s = "" ↔ ∀ c ∈ Text.afterLast '.' s.toList, isSeparator c = true := by
  have hchars : normalize s = "" ↔ normalizeChars s.toList = [] := by
    rw [normalize, ← String.toList_inj, String.toList_ofList]
    rfl
  rw [hchars, normalizeChars, List.flatMap_eq_nil_iff]
  simp [lowerChar_ne_nil]

theorem mem_distinctNames {regions : List String} {r : String} :
    r ∈ distinctNames regions ↔ ∃ s ∈ regions, normalize s = r := by
  rw [distinctNames, mem_withoutRepeats, List.mem_map]

theorem normalize_of_mem_distinctNames {regions : List String} {r : String}
    (h : r ∈ distinctNames regions) : normalize r = r := by
  obtain ⟨s, -, rfl⟩ := mem_distinctNames.1 h
  exact normalize_normalize s

theorem distinctNames_nodup (regions : List String) : (distinctNames regions).Nodup :=
  nodup_withoutRepeats _

theorem withoutRepeats_sublist {α : Type} [DecidableEq α] (as : List α) :
    (withoutRepeats as).Sublist as := by
  induction as with
  | nil => exact .slnil
  | cons a as ih => exact (List.filter_sublist.trans ih).cons_cons a

/-- Pairwise distinct programmatic forms stay as they are. -/
theorem distinctNames_of_normal {regions : List String} (hd : regions.Nodup)
    (hn : ∀ r ∈ regions, normalize r = r) : distinctNames regions = regions := by
  have hmap : regions.map normalize = regions := by
    rw [List.map_congr_left hn, List.map_id']
  rw [distinctNames, hmap, withoutRepeats_of_nodup hd]

end Region
end AzureProvisioning
