/-
# Texts of ASCII

Two readings of letter case meet in the library: keys of the store are full small forms
(`Text.lowercase`), and a comparison makes the letters `A` to `Z` small (`Text.foldCase`). Texts of
ASCII cannot tell them apart (`lowercase_eq_iff`), and what an id of ASCII names is of ASCII
(`ArmId.isAscii_of_parse?`).
-/

import AzureProvisioning.ArmId
import AzureProvisioning.Text.Lowercase

namespace AzureProvisioning
namespace Text

/-- A text of ASCII. -/
def IsAscii (s : String) : Prop :=
  ∀ c ∈ s.toList, c.toNat < 128

instance (s : String) : Decidable (IsAscii s) :=
  List.decidableBAll (fun c : Char => c.toNat < 128) s.toList

/-- No character of ASCII has a small form that depends on its neighbours. -/
theorem lowerAfter_of_ascii {s : List Char} (h : ∀ c ∈ s, c.toNat < 128) (before : List Char) :
    lowerAfter before s = s.map Char.toLower := by
  induction s generalizing before with
  | nil => rfl
  | cons c s ih =>
    have hc := h c List.mem_cons_self
    have hsigma : c ≠ 'Σ' := by
      rintro rfl
      exact absurd hc (by decide)
    rw [lowerAfter, if_neg hsigma, lowerChar, if_pos hc,
      ih fun d hd => h d (List.mem_cons_of_mem c hd)]
    rfl

theorem toList_lowercase {s : String} (h : IsAscii s) : (lowercase s).toList = foldCase s := by
  rw [lowercase, String.toList_ofList, lowerAfter_of_ascii h, foldCase]

/-- **Texts of ASCII have the same small form when they differ in letter case only.** -/
theorem lowercase_eq_iff {a b : String} (ha : IsAscii a) (hb : IsAscii b) :
    lowercase a = lowercase b ↔ foldCase a = foldCase b := by
  rw [← String.toList_inj, toList_lowercase ha, toList_lowercase hb]

theorem mem_of_mem_split {sep c : Char} {s part : List Char} (hpart : part ∈ split sep s)
    (hc : c ∈ part) : c ∈ s := by
  induction s generalizing part with
  | nil =>
    obtain rfl := List.mem_singleton.1 hpart
    exact hc
  | cons d s ih =>
    rw [split] at hpart
    split at hpart
    · obtain rfl | hpart := List.mem_cons.1 hpart
      · cases hc
      · exact List.mem_cons_of_mem d (ih hpart hc)
    · split at hpart
      · next hnil => exact absurd hnil (split_ne_nil sep s)
      · next first parts hsplit =>
        obtain rfl | hpart := List.mem_cons.1 hpart
        · obtain rfl | hc := List.mem_cons.1 hc
          · exact List.mem_cons_self
          · exact List.mem_cons_of_mem d (ih (hsplit ▸ List.mem_cons_self) hc)
        · exact List.mem_cons_of_mem d (ih (hsplit ▸ List.mem_cons_of_mem first hpart) hc)

theorem mem_of_mem_trimBoth {c d : Char} {s : List Char} (h : c ∈ trimBoth d s) : c ∈ s := by
  have h := (List.dropWhile_sublist _).subset (List.mem_reverse.1 h)
  exact (List.dropWhile_sublist _).subset (List.mem_reverse.1 h)

end Text

namespace ArmId

/-- Group and name of an id are segments of it. -/
theorem mem_of_ofSegments? {parts : List String} {id : ArmId} (h : ofSegments? parts = some id) :
    id.group ∈ parts ∧ id.name ∈ parts := by
  unfold ofSegments? at h
  split at h
  · obtain rfl := Option.some.inj (Option.ite_none_right_eq_some.1 h).2
    simp [name]
  · obtain rfl := Option.some.inj (Option.ite_none_right_eq_some.1 h).2
    simp [name]
  · cases h

theorem isAscii_of_mem_segments {s part : String} (hs : Text.IsAscii s) (h : part ∈ segments s) :
    Text.IsAscii part := by
  obtain ⟨chars, hchars, rfl⟩ := List.mem_map.1 h
  intro c hc
  rw [String.toList_ofList] at hc
  exact hs c (Text.mem_of_mem_trimBoth (Text.mem_of_mem_split hchars hc))

theorem isAscii_of_parse? {s : String} {id : ArmId} (hs : Text.IsAscii s)
    (h : parse? s = some id) : Text.IsAscii id.group ∧ Text.IsAscii id.name := by
  obtain ⟨hgroup, hname⟩ := mem_of_ofSegments? h
  exact ⟨isAscii_of_mem_segments hs hgroup, isAscii_of_mem_segments hs hname⟩

end ArmId
end AzureProvisioning
