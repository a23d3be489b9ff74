/-
# Spellings of a region

A region is spelled anew by a separator at any place, by a qualifier in front of it, up to a dot, and by
the other case of a letter of ASCII (`Respelled`). Each of these leaves the programmatic form as it is,
so any number of them does (`Respelled.normalizeChars_eq`). In ASCII there is no other way to spell a
region: a text is a respelling of its programmatic form (`respelled_normalizeChars`).

The programmatic form therefore stands for all spellings of a region, and the programmatic forms of a
list, without their repeats, for the regions of the list (`normalize_canonical`).
-/

import AzureProvisioning.Proofs.Ascii
import AzureProvisioning.Proofs.Region.Delta

namespace AzureProvisioning
namespace Text

variable {sep : Char}

/-- Characters that are left out do not count for where a text is cut, as long as those where it is cut
stay. -/
theorem takeWhile_filter {p q : Char → Bool} (h : ∀ c, q c = false → p c = true) (s : List Char) :
    (s.filter p).takeWhile q = (s.takeWhile q).filter p := by
  induction s with
  | nil => rfl
  | cons c s ih =>
    cases hq : q c with
    | false =>
      rw [List.filter_cons_of_pos (h c hq), List.takeWhile_cons_of_neg (by simp [hq]),
        List.takeWhile_cons_of_neg (by simp [hq])]
      rfl
    | true =>
      rw [List.takeWhile_cons_of_pos hq]
      by_cases hp : p c = true
      · rw [List.filter_cons_of_pos hp, List.filter_cons_of_pos hp, List.takeWhile_cons_of_pos hq, ih]
      · rw [List.filter_cons_of_neg hp, List.filter_cons_of_neg hp, ih]

theorem afterLast_filter {p : Char → Bool} (h : p sep = true) (s : List Char) :
    afterLast sep (s.filter p) = (afterLast sep s).filter p := by
  have hkept : ∀ c : Char, decide (c ≠ sep) = false → p c = true := by
    intro c hc
    have heq : c = sep := by simpa using hc
    rwa [heq]
  rw [afterLast, ← List.filter_reverse, takeWhile_filter hkept, ← List.filter_reverse, afterLast]

theorem afterLast_map {f : Char → Char} (h : ∀ c, f c = sep ↔ c = sep) (s : List Char) :
    afterLast sep (s.map f) = (afterLast sep s).map f := by
  have hsame : (fun c => decide (c ≠ sep)) ∘ f = fun c => decide (c ≠ sep) := by
    funext c
    simp [h]
  rw [afterLast, ← List.map_reverse, List.takeWhile_map, hsame, ← List.map_reverse, afterLast]

/-- What stands before a separator does not count. -/
theorem afterLast_append_cons (before after : List Char) :
    afterLast sep (before ++ sep :: after) = afterLast sep after := by
  have hcut : (sep :: before.reverse).takeWhile (· ≠ sep) = [] :=
    List.takeWhile_cons_of_neg (by simp)
  rw [afterLast, List.reverse_append, List.reverse_cons, List.append_assoc, List.singleton_append,
    List.takeWhile_append, hcut, List.append_nil, ite_eq_right_iff.2, afterLast]
  intro hlength
  exact ((List.takeWhile_prefix _).eq_of_length hlength).symm

/-- A text is its part after the last separator, or has a separator right before this part. -/
theorem eq_afterLast_or (sep : Char) (s : List Char) :
    s = afterLast sep s ∨ ∃ before, s = before ++ sep :: afterLast sep s := by
  by_cases hmem : sep ∈ s.reverse
  · obtain ⟨last, before, hs, hlast⟩ := List.eq_append_cons_of_mem hmem
    have hs' : s = before.reverse ++ sep :: last.reverse := by
      rw [← List.reverse_reverse s, hs]
      simp
    have hafter : afterLast sep s = last.reverse := by
      rw [hs', afterLast_append_cons, Region.afterLast_of_not_mem fun h => hlast (List.mem_reverse.1 h)]
    exact .inr ⟨before.reverse, by rw [hafter]; exact hs'⟩
  · exact .inl (Region.afterLast_of_not_mem fun h => hmem (List.mem_reverse.2 h)).symm

/-- What letter case does not change in ASCII it does not change at all: other characters are their own
small form. -/
theorem apply_toLower {β : Type} {f : Char → β}
    (h : ∀ n : Fin 128, f (Char.ofNat n).toLower = f (Char.ofNat n)) (c : Char) :
    f c.toLower = f c := by
  by_cases hc : c.toNat < 128
  · simpa using h ⟨c.toNat, hc⟩
  · have hnot : ¬ (c.val ≥ 'A'.val ∧ c.val ≤ 'Z'.val) := by
      rintro ⟨-, hlast⟩
      have hlast : c.toNat ≤ 90 := UInt32.le_iff_toNat_le.1 hlast
      omega
    rw [show c.toLower = c from dif_neg hnot]

theorem lowerChar_toLower : ∀ c : Char, lowerChar c.toLower = lowerChar c :=
  apply_toLower (by decide +kernel)

theorem toLower_toLower : ∀ c : Char, c.toLower.toLower = c.toLower :=
  apply_toLower (by decide +kernel)

theorem toLower_eq_dot_iff (c : Char) : c.toLower = '.' ↔ c = '.' := by
  have hdot : ∀ c : Char, (c.toLower == '.') = (c == '.') := 
    apply_toLower (f := (· == '.')) (by decide +kernel)
  rw [← beq_iff_eq, hdot, beq_iff_eq]

end Text

namespace Region

variable {s t before after : List Char}

theorem isSeparator_toLower : ∀ c : Char, isSeparator c.toLower = isSeparator c :=
  Text.apply_toLower (by decide +kernel)

/-- Separators do not count, wherever they are. -/
theorem normalizeChars_filter (s : List Char) :
    normalizeChars (s.filter fun c => !isSeparator c) = normalizeChars s := by
  rw [normalizeChars, Text.afterLast_filter rfl, List.filter_filter, normalizeChars]
  simp only [Bool.and_self]

/-- A qualifier does not count. -/
theorem normalizeChars_append_dot (qualifier s : List Char) :
    normalizeChars (qualifier ++ '.' :: s) = normalizeChars s := by
  rw [normalizeChars, Text.afterLast_append_cons, normalizeChars]

/-- Nor does the case of letters of ASCII. -/
theorem normalizeChars_map_toLower (s : List Char) :
    normalizeChars (s.map Char.toLower) = normalizeChars s := by
  have hsame : (fun c => !isSeparator c) ∘ Char.toLower = fun c => !isSeparator c := by
    funext c
    simp [isSeparator_toLower]
  rw [normalizeChars, Text.afterLast_map Text.toLower_eq_dot_iff, List.filter_map, hsame,
    List.flatMap_map, normalizeChars]
  simp only [Text.lowerChar_toLower]

/-- The characters spell anew what the text spells. -/
inductive Respelled (s : List Char) : List Char → Prop
  | self : Respelled s s
  /-- With a separator at some place. -/
  | separated {before after : List Char} {c : Char} (h : Respelled s (before ++ after))
      (hc : c ∈ [' ', '_', '-']) : Respelled s (before ++ c :: after)
  /-- With a qualifier in front. -/
  | qualified {t : List Char} (h : Respelled s t) (qualifier : List Char) :
      Respelled s (qualifier ++ '.' :: t)
  /-- With the other case of a letter. -/
  | cased {before after : List Char} {c d : Char} (h : Respelled s (before ++ c :: after))
      (hcase : c.toLower = d.toLower) : Respelled s (before ++ d :: after)

/-- **A respelling has the same programmatic form.** -/
theorem Respelled.normalizeChars_eq (h : Respelled s t) : normalizeChars t = normalizeChars s := by
  induction h with
  | self => rfl
  | separated h hc ih =>
    have hsep := List.all_eq_true.1 (show [' ', '_', '-'].all isSeparator = true from rfl)
    rw [← ih, ← normalizeChars_filter, List.filter_append,
      List.filter_cons_of_neg (by simp [hsep _ hc]), ← List.filter_append, normalizeChars_filter]
  | qualified h qualifier ih => rw [normalizeChars_append_dot, ih]
  | @cased before after c d h hcase ih =>
    have hfold : (before ++ d :: after).map Char.toLower = (before ++ c :: after).map Char.toLower := by
      simp [hcase]
    rw [← ih, ← normalizeChars_map_toLower, hfold, normalizeChars_map_toLower]

/-- Letters get their case back. -/
theorem Respelled.of_map_toLower (h : Respelled s (before ++ after.map Char.toLower)) :
    Respelled s (before ++ after) := by
  induction after generalizing before with
  | nil => exact h
  | cons c after ih =>
    have hfirst : Respelled s (before ++ [c] ++ after.map Char.toLower) := by
      rw [List.append_assoc]
      exact h.cased (Text.toLower_toLower c)
    rw [List.append_cons]
    exact ih hfirst

/-- Separators get their places back. -/
theorem Respelled.of_filter (h : Respelled s (before ++ after.filter fun c => !isSeparator c)) :
    Respelled s (before ++ after) := by
  induction after generalizing before with
  | nil => exact h
  | cons c after ih =>
    rw [List.append_cons]
    refine ih ?_
    rw [List.append_assoc]
    cases hc : isSeparator c with
    | false => rwa [List.filter_cons_of_pos (by simp [hc])] at h
    | true =>
      rw [List.filter_cons_of_neg (by simp [hc])] at h
      exact h.separated (by simpa [isSeparator, or_assoc] using hc)

/-- **A text of ASCII is a respelling of its programmatic form.** -/
theorem respelled_normalizeChars (h : ∀ c ∈ s, c.toNat < 128) : Respelled (normalizeChars s) s := by
  have hlast : Respelled (normalizeChars s) (Text.afterLast '.' s) := by
    have hform : normalizeChars s =
        ((Text.afterLast '.' s).filter fun c => !isSeparator c).map Char.toLower := by
      rw [normalizeChars, List.map_eq_flatMap]
      refine List.flatMap_congr fun c hc => if_pos (h c ?_)
      have hmem := (List.takeWhile_sublist _).subset (List.mem_reverse.1 (List.mem_of_mem_filter hc))
      exact List.mem_reverse.1 hmem
    have hself : Respelled (normalizeChars s)
        ([] ++ ((Text.afterLast '.' s).filter fun c => !isSeparator c).map Char.toLower) := by
      rw [List.nil_append, ← hform]
      exact .self
    exact hself.of_map_toLower.of_filter
  obtain hwhole | ⟨qualifier, hqualified⟩ := Text.eq_afterLast_or '.' s
  · rwa [← hwhole] at hlast
  · have hagain := hlast.qualified qualifier
    rwa [← hqualified] at hagain

theorem settled_of_mem_normalize {r : String} {c : Char} (h : c ∈ (normalize r).toList) :
    settled c = true := by
  rw [normalize, String.toList_ofList] at h
  exact settled_of_mem_normalizeChars h

/-- **The programmatic form is canonical.** It is its own programmatic form, without dots and
separators, and every respelling of a text has the same one; the spellings in ASCII of a programmatic
form are its respellings. The names of a list of regions are programmatic forms, those of its items,
each of them once and in the order of their first places, and they are their own names. -/
theorem normalize_canonical :
    (∀ s, normalize (normalize s) = normalize s) ∧
    (∀ s, ∀ c ∈ ['.', ' ', '_', '-'], c ∉ (normalize s).toList) ∧
    (∀ s t : String, Respelled s.toList t.toList → normalize t = normalize s) ∧
    (∀ s t, normalize s = s → Text.IsAscii t → normalize t = s → Respelled s.toList t.toList) ∧
    ∀ regions,
      (distinctNames regions).Nodup ∧ (∀ r ∈ distinctNames regions, normalize r = r) ∧
      (∀ r, r ∈ distinctNames regions ↔ r ∈ regions.map normalize) ∧
      ByFirstPlace (regions.map normalize) (distinctNames regions) ∧
      distinctNames (distinctNames regions) = distinctNames regions := by
  refine ⟨normalize_normalize, fun s c hc hmem => ?_, fun s t h => ?_, fun s t hs ht h => ?_,
    fun regions => ?_⟩
  · have hunsettled := List.any_eq_false.1 (show ['.', ' ', '_', '-'].any settled = false from by decide)
    exact hunsettled c hc (settled_of_mem_normalize hmem)
  · rw [normalize, h.normalizeChars_eq, normalize]
  · have hchars : s.toList = normalizeChars t.toList := by
      rw [← h, normalize, String.toList_ofList]
    rw [hchars]
    exact respelled_normalizeChars ht
  · have hnormal : ∀ r ∈ distinctNames regions, normalize r = r := fun r hr =>
      normalize_of_mem_distinctNames hr
    exact ⟨distinctNames_nodup regions, hnormal, fun r => mem_withoutRepeats,
      byFirstPlace_withoutRepeats _, distinctNames_of_normal (distinctNames_nodup regions) hnormal⟩

/-- A qualified spelling with separators and other letter case, of a region that starts with a letter
whose small form has two characters; a spelling in ASCII; and three spellings of two regions. -/
theorem normalize_canonical_istanbul :
    let form := normalize "İstanbul2"
    form.toList.length = 10 ∧ normalize "azure.Region.İsTan_bul-2" = form ∧
      Respelled "eastus2".toList "azure.Region.East US 2".toList ∧
      distinctNames ["West US", "azure.East-us", "west_us"] = ["westus", "eastus"] ∧
      normalize "eastus" = "eastus" := by
  obtain ⟨-, -, hrespelled, hascii, hnames⟩ := normalize_canonical
  have hcased : Respelled "İstanbul2".toList ("İs".toList ++ 'T' :: "anbul2".toList) :=
    .cased (c := 't') .self rfl
  have hline : Respelled "İstanbul2".toList ("İsTan".toList ++ '_' :: "bul2".toList) :=
    .separated hcased (by decide)
  have hhyphen : Respelled "İstanbul2".toList ("İsTan_bul".toList ++ '-' :: ['2']) :=
    .separated hline (by decide)
  have hlist : distinctNames ["West US", "azure.East-us", "west_us"] = ["westus", "eastus"] := by
    decide
  refine ⟨by decide +kernel, hrespelled _ _ (hhyphen.qualified "azure.Region".toList),
    hascii "eastus2" "azure.Region.East US 2" (by decide) (by decide) (by decide), hlist, ?_⟩
  exact (hnames ["West US", "azure.East-us", "west_us"]).2.1 "eastus" (by rw [hlist]; decide)

end Region
end AzureProvisioning
