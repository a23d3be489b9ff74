/-
# The segments of a path

Splitting a path at a slash gives the parts on its two sides (`split_append_cons`), and the slashes at
its two ends are trimmed (`trimBoth_padded`). So the segments of a path are those of the parts that it is
written from (`segments_of_join`), and nothing is lost in them but slashes at the two ends
(`exists_join_segments`). An id is read from four or eight segments.
-/

import AzureProvisioning.ArmId
import Mathlib.Data.List.TakeWhile

namespace AzureProvisioning
namespace Text

theorem split_of_not_mem {sep : Char} {s : List Char} (h : sep ∉ s) : split sep s = [s] := by
  induction s with
  | nil => rfl
  | cons c s ih =>
    have hc : c ≠ sep := fun he => h (he ▸ List.mem_cons_self)
    rw [split, if_neg hc, ih fun hm => h (List.mem_cons_of_mem _ hm)]

/-- A separator ends the parts before it. -/
theorem split_append_cons (sep : Char) (s t : List Char) :
    split sep (s ++ sep :: t) = split sep s ++ split sep t := by
  induction s with
  | nil => simp [split]
  | cons c s ih =>
    rw [List.cons_append, split, split, ih]
    by_cases hc : c = sep
    · simp [hc]
    · rw [if_neg hc, if_neg hc]
      cases hs : split sep s with
      | nil => exact absurd hs (split_ne_nil sep s)
      | cons part parts => rfl

/-- A text with a separator has at least two parts. -/
theorem two_le_length_split {sep : Char} {s : List Char} (h : sep ∈ s) :
    2 ≤ (split sep s).length := by
  obtain ⟨before, after, rfl⟩ := List.append_of_mem h
  have hbefore := List.length_pos_iff.2 (split_ne_nil sep before)
  have hafter := List.length_pos_iff.2 (split_ne_nil sep after)
  rw [split_append_cons, List.length_append]
  omega

/-- The parts of joined parts are the parts of each. -/
theorem split_join (sep : Char) {parts : List (List Char)} (h : parts ≠ []) :
    split sep (join sep parts) = parts.flatMap (split sep) := by
  induction parts with
  | nil => exact absurd rfl h
  | cons part parts ih =>
    cases parts with
    | nil => simp [join]
    | cons next parts =>
      have hjoin : join sep (part :: next :: parts) = part ++ sep :: join sep (next :: parts) := rfl
      simp only [hjoin, split_append_cons, ih (List.cons_ne_nil _ _), List.flatMap_cons]

theorem head?_join {sep : Char} {part : List Char} (h : part ≠ []) (parts : List (List Char)) :
    (join sep (part :: parts)).head? = part.head? := by
  obtain ⟨c, part, rfl⟩ := List.exists_cons_of_ne_nil h
  cases parts <;> rfl

theorem getLast?_join {sep : Char} {part : List Char} (h : part ≠ []) (parts : List (List Char)) :
    (join sep (parts ++ [part])).getLast? = part.getLast? := by
  obtain ⟨d, hd⟩ := Option.ne_none_iff_exists'.1 (mt List.getLast?_eq_none_iff.1 h)
  induction parts with
  | nil => rfl
  | cons first parts ih =>
    have hjoin : join sep (first :: parts ++ [part]) = first ++ sep :: join sep (parts ++ [part]) := by
      cases parts <;> rfl
    rw [hjoin, List.getLast?_append, List.getLast?_cons, ih, hd]
    rfl

/-- The characters at the two ends are trimmed, when there are no more of them than that. -/
theorem trimBoth_padded {c : Char} {s : List Char} (hhead : s.head? ≠ some c)
    (hlast : s.getLast? ≠ some c) (m n : Nat) :
    trimBoth c (List.replicate m c ++ s ++ List.replicate n c) = s := by
  have hdrop : ∀ (k : Nat) {t : List Char}, t.head? ≠ some c →
      (List.replicate k c ++ t).dropWhile (· = c) = t := by
    intro k t ht
    rw [List.dropWhile_append_of_pos (by simp)]
    cases t with
    | nil => rfl
    | cons d t =>
      have hd : d ≠ c := fun he => ht (he ▸ rfl)
      rw [List.dropWhile_cons_of_neg (by simpa using hd)]
  cases s with
  | nil => simp [trimBoth]
  | cons d s =>
    rw [trimBoth, List.append_assoc, hdrop m (by simpa using hhead), List.reverse_append,
      List.reverse_replicate, hdrop n (by rwa [List.head?_reverse]), List.reverse_reverse]

/-- Nothing else is trimmed. -/
theorem exists_padded (c : Char) (s : List Char) :
    ∃ m n, s = List.replicate m c ++ trimBoth c s ++ List.replicate n c := by
  have htake : ∀ t : List Char, t.takeWhile (· = c) = List.replicate (t.takeWhile (· = c)).length c :=
    fun t => List.eq_replicate_of_mem fun d hd => by simpa using List.mem_takeWhile_imp hd
  refine ⟨_, _, (?_ : s = List.replicate (s.takeWhile (· = c)).length c ++ trimBoth c s ++
    List.replicate ((s.dropWhile (· = c)).reverse.takeWhile (· = c)).length c)⟩
  have hend : s.dropWhile (· = c) = trimBoth c s ++
      List.replicate ((s.dropWhile (· = c)).reverse.takeWhile (· = c)).length c := by
    rw [trimBoth, ← List.reverse_replicate, ← htake, ← List.reverse_append,
      List.takeWhile_append_dropWhile, List.reverse_reverse]
  rw [List.append_assoc, ← hend, ← htake, List.takeWhile_append_dropWhile]

end Text

namespace ArmId

/-- A text that is one segment of an id. -/
structure IsSegment (s : String) : Prop where
  ne_empty : s ≠ ""
  slash : '/' ∉ s.toList

theorem IsSegment.toList_ne_nil {s : String} (h : IsSegment s) : s.toList ≠ [] :=
  fun hnil => h.ne_empty (String.toList_inj.1 hnil)

/-- The segments of a path are those of its parts, when a segment is at each end. -/
theorem segments_of_join {first last s : String} {m n : Nat} (hfirst : IsSegment first)
    (middle : List String) (hlast : IsSegment last)
    (hs : s.toList = List.replicate m '/' ++
      Text.join '/' ((first :: middle ++ [last]).map String.toList) ++ List.replicate n '/') :
    segments s = [first] ++
      (middle.flatMap fun part => (Text.split '/' part.toList).map String.ofList) ++ [last] := by
  have hhead : (Text.join '/' ((first :: middle ++ [last]).map String.toList)).head? ≠ some '/' := by
    rw [List.cons_append, List.map_cons, Text.head?_join hfirst.toList_ne_nil]
    exact fun h => hfirst.slash (List.mem_of_mem_head? h)
  have hend : (Text.join '/' ((first :: middle ++ [last]).map String.toList)).getLast? ≠ some '/' := by
    rw [List.map_append, List.map_singleton, Text.getLast?_join hlast.toList_ne_nil]
    exact fun h => hlast.slash (List.mem_of_getLast? h)
  rw [segments, hs, Text.trimBoth_padded hhead hend, Text.split_join '/' (by simp)]
  simp [List.flatMap_map, List.map_flatMap, Text.split_of_not_mem hfirst.slash,
    Text.split_of_not_mem hlast.slash]

/-- Nothing but slashes at the two ends is lost in the segments. -/
theorem exists_join_segments (s : String) :
    ∃ m n, s.toList = List.replicate m '/' ++ Text.join '/' ((segments s).map String.toList) ++
      List.replicate n '/' := by
  obtain ⟨m, n, hs⟩ := Text.exists_padded '/' s.toList
  refine ⟨m, n, ?_⟩
  have hparts : (segments s).map String.toList = Text.split '/' (Text.trimBoth '/' s.toList) := by
    simp [segments, Function.comp_def]
  rwa [hparts, Text.join_split]

theorem slash_not_mem_of_mem_segments {s part : String} (h : part ∈ segments s) :
    '/' ∉ part.toList := by
  obtain ⟨chars, hchars, rfl⟩ := List.mem_map.1 h
  rw [String.toList_ofList]
  exact Text.not_mem_of_mem_split hchars

theorem length_of_ofSegments? {parts : List String} {id : ArmId} (h : ofSegments? parts = some id) :
    parts.length = 4 ∨ parts.length = 8 := by
  unfold ofSegments? at h
  split at h
  · exact .inl rfl
  · exact .inr rfl
  · cases h

-- The equation that `simp` makes of the definition is slow: it compares the texts letter by letter.
theorem groupText_eq (subscription group : String) :
    groupText subscription group = "/subscriptions/" ++ subscription ++ "/resourceGroups/" ++ group :=
  rfl

/-- What an id names has a name. -/
theorem name_ne_empty_of_parse? {s : String} {id : ArmId} (h : parse? s = some id) : id.name ≠ "" := by
  unfold parse? ofSegments? at h
  split at h
  · split at h
    · next hcheck =>
      obtain rfl := Option.some.inj h
      simpa [name] using (Bool.and_eq_true_iff.1 hcheck).2
    · cases h
  · split at h
    · next hcheck =>
      obtain rfl := Option.some.inj h
      simpa [name] using (Bool.and_eq_true_iff.1 hcheck).2
    · cases h
  · cases h

end ArmId
end AzureProvisioning
