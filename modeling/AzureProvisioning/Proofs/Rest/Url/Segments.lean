/-
# Parts of a path that stand for themselves

A path is written as a row of parts, each after a slash. A part that holds a mark is cut there or loses
it, one of one or two dots is resolved, and one with a written byte is read as something else; what is
left is `isPlain`. Plain parts are the segments of the path, and are read back from them
(`segments_of_isPlain`).

For the converse the bytes are counted. What the segments stand for is never longer than the parts
without their marks: resolving takes segments away (`weight_resolve_le`), and a written byte is three
bytes of its part (`length_percentDecode_add_le`). So when the segments stand for the parts, nothing has
been lost anywhere, and every part is plain (`isPlain_of_segments`).
-/

import AzureProvisioning.Proofs.ArmId
import AzureProvisioning.Proofs.Rest.Url.Percent
import AzureProvisioning.Rest.Url.Path
import Mathlib.Algebra.Order.BigOperators.Group.List

namespace AzureProvisioning
namespace Url

/-- The parts in a row, each after a slash. -/
def pathText (parts : List (List Char)) : List Char :=
  parts.flatMap ('/' :: ·)

/-- Whether the character is dropped from an address. -/
def isBreak (c : Char) : Bool :=
  c == '\t' || c == '\n' || c == '\r'

/-- Whether the character ends the path of an address. -/
def endsPath (c : Char) : Bool :=
  c == '?' || c == '#'

/-- Whether the character does not stay in the segment that it is written in. -/
def isMark (c : Char) : Bool :=
  c == '/' || c == '\\' || endsPath c || isBreak c

/-- Whether the text stands for itself when it is written as a part of a path. -/
def isPlain (s : List Char) : Bool :=
  s.all (!isMark ·) && !hasWrittenByte s && s != ['.'] && s != ['.', '.']

/-- What is left of the path of an address: breaks are dropped, and a mark ends it. -/
def pathPlace (s : List Char) : List Char :=
  (s.filter (!isBreak ·)).takeWhile (!endsPath ·)

theorem isPlain_iff {s : List Char} :
    isPlain s = true ↔ (∀ c ∈ s, isMark c = false) ∧ hasWrittenByte s = false ∧ s ≠ ['.'] ∧
      s ≠ ['.', '.'] := by
  simp only [isPlain, Bool.and_eq_true, List.all_eq_true, Bool.not_eq_true', bne_iff_ne, and_assoc]

/-- Whether the segment is resolved: dots, which may be written as bytes. -/
def isDots (s : List Char) : Bool :=
  plainDots s = ['.'] || plainDots s = ['.', '.']

theorem hasWrittenByte_of_cons {c : Char} {s : List Char} (h : hasWrittenByte (c :: s) = false) :
    hasWrittenByte s = false := by
  unfold hasWrittenByte at h
  split at h
  · next heq =>
    obtain ⟨-, rfl⟩ := List.cons.inj heq
    exact (Bool.or_eq_false_iff.1 h).2
  · next heq =>
    obtain ⟨-, rfl⟩ := List.cons.inj heq
    exact h
  · next heq => cases heq

theorem plainDots_of_hasWrittenByte {s : List Char} (h : hasWrittenByte s = false) :
    plainDots s = s := by
  induction s using plainDots.induct with
  | case1 c r hc ih =>
    have hn : (Text.natural? 16 ['2', c]).isSome = true := by
      rcases (by simpa using hc : c = 'e' ∨ c = 'E') with rfl | rfl <;> decide
    rw [hasWrittenByte, hn] at h
    cases h
  | case2 c r hc ih =>
    rw [plainDots, if_neg hc, ih (hasWrittenByte_of_cons (hasWrittenByte_of_cons h))]
  | case3 c r hc ih =>
    rw [plainDots, ih (hasWrittenByte_of_cons h)]
    exact hc
  | case4 => rfl

section Resolving

/-- How many bytes the segments stand for. -/
def weight (segments : List (List Char)) : Nat :=
  (segments.map fun s => (percentDecode s).length).sum

/-- How many bytes of a segment are left when it is resolved. -/
def kept (s : List Char) : Nat :=
  if isDots s then 0 else (percentDecode s).length

theorem weight_dropSegment_le (done : List (List Char)) : weight (dropSegment done) ≤ weight done := by
  unfold dropSegment
  split
  · exact Nat.le_refl _
  · cases done with
    | nil => exact Nat.le_refl _
    | cons s done => simp [weight]

theorem weight_pushSegment_le (done : List (List Char)) (s : List Char) (isLast : Bool) :
    weight (pushSegment done s isLast) ≤ weight done + kept s := by
  have hdrop := weight_dropSegment_le done
  have hempty (segments : List (List Char)) : weight ([] :: segments) = weight segments := by
    simp [weight, percentDecode]
  unfold pushSegment
  split_ifs
  · rw [hempty]; omega
  · omega
  · rw [hempty]; omega
  · omega
  · next htwo hone =>
    have hdots : isDots s = false := by simp [isDots, htwo, hone]
    simp only [weight, kept, hdots, List.map_cons, List.sum_cons, percentDecode_percentEncode pathSet_spec,
      Bool.false_eq_true, if_false]
    omega

theorem weight_resolve_le (done parts : List (List Char)) :
    weight (resolve done parts) ≤ weight done + (parts.map kept).sum := by
  induction parts generalizing done with
  | nil => exact Nat.le_refl _
  | cons s parts ih =>
    have hpush := weight_pushSegment_le done s
    cases parts with
    | nil => simpa [resolve] using hpush true
    | cons next parts =>
      have hrest := ih (pushSegment done s false)
      have := hpush false
      rw [resolve, List.map_cons, List.sum_cons]
      · omega
      · simp

/-- Parts that are not resolved are the segments, with some characters written as bytes. -/
theorem resolve_of_not_dots (done : List (List Char)) {parts : List (List Char)}
    (h : ∀ s ∈ parts, isDots s = false) :
    resolve done parts = (parts.map (percentEncode pathSet)).reverse ++ done := by
  induction parts generalizing done with
  | nil => rfl
  | cons s parts ih =>
    have hs := h s List.mem_cons_self
    simp only [isDots, Bool.or_eq_false_iff, decide_eq_false_iff_not] at hs
    have hpush (isLast : Bool) : pushSegment done s isLast = percentEncode pathSet s :: done := by
      rw [pushSegment, if_neg hs.2, if_neg hs.1]
    cases parts with
    | nil => exact hpush true
    | cons next parts =>
      rw [resolve, hpush, ih _ fun t ht => h t (List.mem_cons_of_mem _ ht)]
      · simp
      · simp

end Resolving

section Counting

/-- The number of bytes of a text. -/
def size (s : List Char) : Nat := (utf8 s).length

@[simp] theorem size_append (s t : List Char) : size (s ++ t) = size s + size t := by
  simp [size]

theorem size_cons (c : Char) (s : List Char) :
    size (c :: s) = (String.utf8EncodeChar c).length + size s := by
  simp [size]

theorem size_le_of_sublist {s t : List Char} (h : s.Sublist t) : size s ≤ size t := by
  induction h with
  | slnil => exact Nat.le_refl _
  | cons c _ ih =>
    rw [size_cons]
    omega
  | cons_cons c _ ih =>
    rw [size_cons, size_cons]
    omega

theorem eq_nil_of_size {s : List Char} (h : size s = 0) : s = [] := by
  cases s with
  | nil => rfl
  | cons c s =>
    have := length_utf8EncodeChar_pos c
    rw [size_cons] at h
    omega

/-- A text that loses no byte loses no character. -/
theorem eq_of_sublist_of_size {s t : List Char} (h : s.Sublist t) (hsize : size t ≤ size s) :
    s = t := by
  induction h with
  | slnil => rfl
  | cons c h ih =>
    have hle := size_le_of_sublist h
    have := length_utf8EncodeChar_pos c
    rw [size_cons] at hsize
    omega
  | cons_cons c h ih =>
    rw [size_cons, size_cons] at hsize
    rw [ih (by omega)]

/-- Splitting loses the separators alone. -/
theorem sum_size_split (sep : Char) (s : List Char) :
    ((Text.split sep s).map size).sum = size (s.filter (· ≠ sep)) := by
  induction s with
  | nil => rfl
  | cons c s ih =>
    unfold Text.split
    by_cases hc : c = sep
    · rw [if_pos hc, List.filter_cons_of_neg (by simpa using hc), ← ih, List.map_cons, List.sum_cons]
      exact Nat.zero_add _
    · rw [if_neg hc, List.filter_cons_of_pos (by simpa using hc), size_cons, ← ih]
      cases hs : Text.split sep s with
      | nil => exact absurd hs (Text.split_ne_nil sep s)
      | cons part parts =>
        simp only [List.map_cons, List.sum_cons, size_cons]
        omega

theorem kept_le (s : List Char) : kept s ≤ size s := by
  have := length_percentDecode_add_le s
  unfold kept size
  split_ifs at * <;> omega

/-- What loses nothing is not resolved and holds no written byte. -/
theorem plain_of_kept {s : List Char} (h : size s ≤ kept s) :
    hasWrittenByte s = false ∧ s ≠ ['.'] ∧ s ≠ ['.', '.'] := by
  have hle := length_percentDecode_add_le s
  unfold kept at h
  split_ifs at h with hdots
  · obtain rfl := eq_nil_of_size (Nat.le_zero.1 h)
    exact absurd hdots (by decide)
  · refine ⟨?_, ?_, ?_⟩
    · unfold size at h
      cases hwritten : hasWrittenByte s with
      | false => rfl
      | true =>
        rw [hwritten, if_pos rfl] at hle
        omega
    · rintro rfl
      exact hdots (by decide)
    · rintro rfl
      exact hdots (by decide)

end Counting

section Path

variable {parts : List (List Char)}

/-- Without its marks a row of parts is the parts without theirs. -/
theorem filter_pathText (parts : List (List Char)) :
    (pathText parts).filter (!isMark ·) = parts.flatMap (·.filter (!isMark ·)) := by
  induction parts with
  | nil => rfl
  | cons s parts ih =>
    rw [pathText, List.flatMap_cons, List.flatMap_cons, List.cons_append,
      List.filter_cons_of_neg (by decide), List.filter_append]
    exact congrArg (_ ++ ·) ih

theorem size_flatMap (f : List Char → List Char) (parts : List (List Char)) :
    size (parts.flatMap f) = (parts.map fun s => size (f s)).sum := by
  induction parts with
  | nil => rfl
  | cons s parts ih => rw [List.flatMap_cons, size_append, ih, List.map_cons, List.sum_cons]

/-- A row of parts without slashes is split into them. -/
theorem split_pathText (s : List Char) (h : ∀ t ∈ s :: parts, '/' ∉ t) :
    Text.split '/' (s ++ pathText parts) = s :: parts := by
  induction parts generalizing s with
  | nil => rw [pathText, List.flatMap_nil, List.append_nil, Text.split_of_not_mem (h s List.mem_cons_self)]
  | cons t parts ih =>
    have hrest := ih t fun u hu => h u (List.mem_cons_of_mem _ hu)
    rw [pathText, List.flatMap_cons, List.cons_append, Text.split_append_cons,
      Text.split_of_not_mem (h s List.mem_cons_self)]
    exact congrArg (s :: ·) hrest

theorem pathPlace_append_mark (s q : List Char) : pathPlace (s ++ '?' :: q) = pathPlace s := by
  have hmark : ('?' :: q).filter (!isBreak ·) = '?' :: q.filter (!isBreak ·) :=
    List.filter_cons_of_pos (by decide)
  rw [pathPlace, pathPlace, List.filter_append, hmark, List.takeWhile_append]
  split
  · next h =>
    rw [List.takeWhile_cons_of_neg (by decide), List.append_nil]
    exact ((List.takeWhile_prefix _).eq_of_length h).symm
  · rfl

theorem not_isBreak_of_mem_pathText (h : ∀ s ∈ parts, ∀ c ∈ s, isMark c = false) :
    ∀ c ∈ pathText parts, isBreak c = false ∧ endsPath c = false := by
  intro c hc
  obtain ⟨s, hs, hc⟩ := List.mem_flatMap.1 hc
  obtain rfl | hc := List.mem_cons.1 hc
  · decide
  · have hmark := h s hs c hc
    simp only [isMark, Bool.or_eq_false_iff] at hmark
    exact ⟨hmark.2, hmark.1.2⟩

/-- Of the parts without marks nothing is dropped or cut. -/
theorem pathPlace_pathText (h : ∀ s ∈ parts, ∀ c ∈ s, isMark c = false) :
    pathPlace (pathText parts) = pathText parts := by
  have hchars := not_isBreak_of_mem_pathText h
  have hfilter : (pathText parts).filter (!isBreak ·) = pathText parts :=
    List.filter_eq_self.2 fun c hc => by rw [(hchars c hc).1]; rfl
  rw [pathPlace, hfilter, List.takeWhile_eq_self_iff]
  exact fun c hc => by rw [(hchars c hc).2]; rfl

variable {form : Form}

theorem isSlash_eq (hform : form ≠ .other) (c : Char) :
    form.isSlash c = (c == '/' || c == '\\') := by
  cases form with
  | other => exact absurd rfl hform
  | network n => exact congrArg (_ || ·) (Bool.and_true _)
  | file => exact congrArg (_ || ·) (Bool.and_true _)

/-- Among parts without marks the slashes before them are the only ones. -/
theorem segments_pathText (hform : form ≠ .other) (hne : parts ≠ [])
    (h : ∀ s ∈ parts, ∀ c ∈ s, isMark c = false) :
    segments form (pathText parts) = (resolve [] parts).reverse := by
  have hslashed : (pathText parts).map (fun c => if form.isSlash c then '/' else c) =
      pathText parts := by
    refine (List.map_congr_left fun c hc => ?_).trans (List.map_id _)
    obtain ⟨s, hs, hc⟩ := List.mem_flatMap.1 hc
    obtain rfl | hc := List.mem_cons.1 hc
    · exact ite_self _
    · have hmark := h s hs c hc
      simp only [isMark, Bool.or_eq_false_iff] at hmark
      rw [isSlash_eq hform, hmark.1.1.1, hmark.1.1.2]
      rfl
  cases parts with
  | nil => exact absurd rfl hne
  | cons s parts =>
    have hsplit : Text.split '/' (s ++ pathText parts) = s :: parts :=
      split_pathText s fun t ht hslash => absurd (h t ht '/' hslash) (by decide)
    unfold segments
    dsimp only
    rw [hslashed, if_pos (by rfl)]
    show (resolve [] (Text.split '/' (s ++ pathText parts))).reverse = _
    rw [hsplit]

/-- **Plain parts are the segments of their path**, with some characters written as bytes. -/
theorem segments_of_isPlain (hform : form ≠ .other) (hne : parts ≠ [])
    (h : ∀ s ∈ parts, isPlain s = true) :
    segments form (pathText parts) = parts.map (percentEncode pathSet) := by
  have hdots : ∀ s ∈ parts, isDots s = false := by
    intro s hs
    obtain ⟨-, hwritten, hone, htwo⟩ := isPlain_iff.1 (h s hs)
    simp [isDots, plainDots_of_hasWrittenByte hwritten, hone, htwo]
  rw [segments_pathText hform hne fun s hs => (isPlain_iff.1 (h s hs)).1, resolve_of_not_dots _ hdots,
    List.append_nil, List.reverse_reverse]

/-- What is written of a plain part is read back as the part. -/
theorem percentDecode_of_isPlain {s : List Char} (h : isPlain s = true) :
    percentDecode (percentEncode pathSet s) = utf8 s := by
  rw [percentDecode_percentEncode pathSet_spec, percentDecode_of_hasWrittenByte (isPlain_iff.1 h).2.1]

/-- A text is split into segments, which are resolved; its slashes alone are lost before that. -/
theorem exists_segments_eq (form : Form) (s : List Char) :
    ∃ raws, segments form s = (resolve [] raws).reverse ∧
      (raws.map size).sum = size (s.filter (!form.isSlash ·)) := by
  have hkept : (s.map fun c => if form.isSlash c then '/' else c).filter (· ≠ '/') =
      s.filter (!form.isSlash ·) := by
    induction s with
    | nil => rfl
    | cons c s ih =>
      rw [List.map_cons]
      cases hc : form.isSlash c with
      | true =>
        rw [if_pos rfl, List.filter_cons_of_neg (by simp), List.filter_cons_of_neg (by simp [hc]), ih]
      | false =>
        have hne : c ≠ '/' := fun h => by simp [h, Form.isSlash] at hc
        rw [if_neg (by simp), List.filter_cons_of_pos (by simpa using hne),
          List.filter_cons_of_pos (by simp [hc]), ih]
  unfold segments
  dsimp only
  refine ⟨_, rfl, ?_⟩
  rw [sum_size_split, ← hkept]
  split
  · next h =>
    cases hslashed : s.map fun c => if form.isSlash c then '/' else c with
    | nil => rfl
    | cons c rest =>
      rw [hslashed] at h
      obtain rfl := Option.some.inj h
      exact congrArg size (List.filter_cons_of_neg (by simp)).symm
  · rfl

theorem weight_reverse (segments : List (List Char)) : weight segments.reverse = weight segments := by
  rw [weight, weight, List.map_reverse, List.sum_reverse]

theorem sum_kept_le (raws : List (List Char)) : (raws.map kept).sum ≤ (raws.map size).sum :=
  List.sum_le_sum fun s _ => kept_le s

/-- The segments of a path stand for no more bytes than its parts have without their marks. -/
theorem weight_segments_le (hform : form ≠ .other) (parts : List (List Char)) :
    weight (segments form (pathPlace (pathText parts))) ≤
      (parts.map fun s => size (s.filter (!isMark ·))).sum := by
  obtain ⟨raws, hsegments, hraws⟩ := exists_segments_eq form (pathPlace (pathText parts))
  have hplace : (pathPlace (pathText parts)).filter (!form.isSlash ·) =
      (pathPlace (pathText parts)).filter (!isMark ·) := by
    refine List.filter_congr fun c hc => ?_
    have hbreak : (!isBreak c) = true :=
      (List.mem_filter.1 ((List.takeWhile_sublist _).subset hc)).2
    have hends : (!endsPath c) = true :=
      List.mem_takeWhile_imp (p := (!endsPath ·)) hc
    rw [Bool.not_eq_true'] at hbreak hends
    rw [isSlash_eq hform, isMark, hbreak, hends, Bool.or_false, Bool.or_false]
  have hsublist : ((pathPlace (pathText parts)).filter (!isMark ·)).Sublist
      ((pathText parts).filter (!isMark ·)) :=
    ((List.takeWhile_sublist _).trans List.filter_sublist).filter _
  calc weight (segments form (pathPlace (pathText parts)))
      ≤ (raws.map kept).sum := by
        rw [hsegments, weight_reverse]
        exact (weight_resolve_le [] raws).trans_eq (Nat.zero_add _)
    _ ≤ (raws.map size).sum := sum_kept_le raws
    _ = size ((pathPlace (pathText parts)).filter (!isMark ·)) := by rw [hraws, hplace]
    _ ≤ size ((pathText parts).filter (!isMark ·)) := size_le_of_sublist hsublist
    _ = (parts.map fun s => size (s.filter (!isMark ·))).sum := by
        rw [filter_pathText, size_flatMap]

theorem weight_of_forall₂ {segments : List (List Char)}
    (h : List.Forall₂ (fun s t => percentDecode s = utf8 t) segments parts) :
    weight segments = (parts.map size).sum := by
  induction h with
  | nil => rfl
  | cons hs _ ih =>
    rw [weight, List.map_cons, List.map_cons, List.sum_cons, List.sum_cons, hs]
    exact congrArg (_ + ·) ih

/-- When terms are no larger than others and their sum is no smaller, none of them is smaller. -/
theorem le_of_sum_map_le {f g : List Char → Nat} (hle : ∀ s, g s ≤ f s)
    (hsum : (parts.map f).sum ≤ (parts.map g).sum) : ∀ s ∈ parts, f s ≤ g s := by
  intro s hs
  by_contra hlt
  exact (List.sum_lt_sum _ _ (fun t _ => hle t) ⟨s, hs, Nat.lt_of_not_le hlt⟩).not_ge hsum

/-- **Parts that the segments of their path stand for are plain.** -/
theorem isPlain_of_segments (hform : form ≠ .other)
    (h : List.Forall₂ (fun s t => percentDecode s = utf8 t)
      (segments form (pathPlace (pathText parts))) parts) :
    ∀ s ∈ parts, isPlain s = true := by
  have hweight := weight_of_forall₂ h
  -- No mark is lost, so the parts are what the path is split into.
  have hmarks : ∀ s ∈ parts, ∀ c ∈ s, isMark c = false := by
    have hle (s : List Char) : size (s.filter (!isMark ·)) ≤ size s :=
      size_le_of_sublist List.filter_sublist
    have hall := le_of_sum_map_le hle (hweight.ge.trans (weight_segments_le hform parts))
    intro s hs c hc
    have hfilter := eq_of_sublist_of_size List.filter_sublist (hall s hs)
    simpa using List.filter_eq_self.1 hfilter c hc
  intro s hs
  have hne : parts ≠ [] := List.ne_nil_of_mem hs
  rw [pathPlace_pathText hmarks, segments_pathText hform hne hmarks, weight_reverse] at hweight
  have hkept := le_of_sum_map_le kept_le
    (hweight.ge.trans ((weight_resolve_le [] parts).trans_eq (Nat.zero_add _))) s hs
  exact isPlain_iff.2 ⟨hmarks s hs, plain_of_kept hkept⟩

end Path

end Url
end AzureProvisioning
