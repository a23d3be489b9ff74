/-
# Written bytes read back

A part of an address stands for bytes: those that are written in it, and the UTF-8 form of all else.
Writing characters as bytes does not change what a text stands for (`percentDecode_percentEncode`). A
text that holds a written byte from the start stands for fewer bytes than its own UTF-8 form has, and
any other text for that form (`length_percentDecode_add_le`, `percentDecode_of_hasWrittenByte`).
-/

import AzureProvisioning.Rest.Url.Percent
import Mathlib.Tactic.IntervalCases

namespace AzureProvisioning

namespace Text

/-- A digit has one of sixteen values, and is a visible character of ASCII. -/
theorem digit?_bounds {c : Char} {n : Nat} (h : digit? c = some n) :
    n < 16 ∧ 0x30 ≤ c.toNat ∧ c.toNat ≤ 0x66 := by
  unfold digit? at h
  split_ifs at h with hdecimal hsmall hcapital
  all_goals
    obtain rfl := Option.some.inj h
    simp only [Char.isDigit, Bool.and_eq_true, decide_eq_true_eq, Char.le_def, UInt32.le_iff_toNat_le]
      at *
    simp only [Char.toNat]
    simp at *
    omega

/-- The number of two digits. -/
theorem natural?_pair (a b : Char) :
    natural? 16 [a, b] = (digit? a).bind fun n => (digit? b).map (n * 16 + ·) := by
  have happend (n : Nat) (c : Char) : appendDigit? 16 n c = (digit? c).map (n * 16 + ·) := by
    rw [appendDigit?]
    cases h : digit? c with
    | none => rfl
    | some d => rw [Option.filter_some, if_pos (by simpa using (digit?_bounds h).1)]
  show (appendDigit? 16 0 a).bind (fun n => (appendDigit? 16 n b).bind some) = _
  rw [happend]
  cases digit? a with
  | none => rfl
  | some n =>
    show (appendDigit? 16 (0 * 16 + n) b).bind some = (digit? b).map _
    rw [happend, Nat.zero_mul, Nat.zero_add, Option.bind_fun_some]

end Text

namespace Url

/-- The UTF-8 form of a text. -/
def utf8 (s : List Char) : List UInt8 :=
  s.flatMap String.utf8EncodeChar

@[simp] theorem utf8_nil : utf8 [] = [] := rfl

@[simp] theorem utf8_cons (c : Char) (s : List Char) :
    utf8 (c :: s) = String.utf8EncodeChar c ++ utf8 s := rfl

@[simp] theorem utf8_append (s t : List Char) : utf8 (s ++ t) = utf8 s ++ utf8 t :=
  List.flatMap_append

theorem percentDecoded?_eq_some_iff {s : List Char} {t : String} :
    percentDecoded? s = some t ↔ percentDecode s = utf8 t.toList := by
  have hbytes : ByteArray.mk (percentDecode s).toArray = (percentDecode s).toByteArray := by
    ext1
    simp
  have hutf8 : (utf8 t.toList).toByteArray = t.toByteArray := String.utf8Encode_toList
  rw [percentDecoded?, hbytes, ← List.toByteArray_inj, hutf8]
  unfold String.fromUTF8?
  split
  · next hvalid =>
    rw [Option.some_inj, ← String.toByteArray_inj]
    rfl
  · next hvalid =>
    refine ⟨nofun, fun h => absurd ?_ hvalid⟩
    rw [h]
    exact t.isValidUTF8

/-- Whether the text holds a byte that is written as a percent sign and two digits. -/
def hasWrittenByte : List Char → Bool
  | '%' :: a :: b :: r => (Text.natural? 16 [a, b]).isSome || hasWrittenByte (a :: b :: r)
  | _ :: r => hasWrittenByte r
  | [] => false

theorem hasWrittenByte_percent (a b : Char) (r : List Char) :
    hasWrittenByte ('%' :: a :: b :: r) =
      ((Text.natural? 16 [a, b]).isSome || hasWrittenByte (a :: b :: r)) := rfl

theorem hasWrittenByte_cons {c : Char} {r : List Char}
    (h : ∀ a b r', c = '%' → r = a :: b :: r' → False) :
    hasWrittenByte (c :: r) = hasWrittenByte r := by
  rw [hasWrittenByte]
  exact h

theorem hasWrittenByte_of_not_mem {s : List Char} (h : '%' ∉ s) : hasWrittenByte s = false := by
  induction s with
  | nil => rfl
  | cons c s ih =>
    rw [List.mem_cons, not_or] at h
    rw [hasWrittenByte_cons fun _ _ _ hc => absurd hc.symm h.1]
    exact ih h.2

/-- A text without written bytes stands for its UTF-8 form. -/
theorem percentDecode_of_hasWrittenByte {s : List Char} (h : hasWrittenByte s = false) :
    percentDecode s = utf8 s := by
  induction s using percentDecode.induct with
  | case1 a b r n hn =>
    rw [hasWrittenByte_percent, hn] at h
    cases h
  | case2 a b r hn ih =>
    rw [hasWrittenByte_percent, hn] at h
    rw [percentDecode_noByte hn]
    exact congrArg (_ :: ·) (ih h)
  | case3 c r hc ih =>
    rw [hasWrittenByte_cons hc] at h
    rw [percentDecode_cons hc, ih h, utf8_cons]
  | case4 => rfl

theorem length_utf8EncodeChar_pos (c : Char) : 0 < (String.utf8EncodeChar c).length := by
  rw [String.length_utf8EncodeChar]
  exact c.utf8Size_pos

/-- A text stands for no more bytes than its UTF-8 form has, and for fewer if some are written. -/
theorem length_percentDecode_add_le (s : List Char) :
    (percentDecode s).length + (if hasWrittenByte s then 1 else 0) ≤ (utf8 s).length := by
  induction s using percentDecode.induct with
  | case1 a b r n hn ih =>
    have ha := length_utf8EncodeChar_pos a
    have hb := length_utf8EncodeChar_pos b
    have hpercent := length_utf8EncodeChar_pos '%'
    rw [percentDecode_byte hn, hasWrittenByte_percent, hn]
    simp only [List.length_cons, utf8_cons, List.length_append, Option.isSome_some, Bool.true_or,
      if_true]
    split_ifs at ih <;> omega
  | case2 a b r hn ih =>
    have hpercent := length_utf8EncodeChar_pos '%'
    rw [percentDecode_noByte hn, hasWrittenByte_percent, hn, utf8_cons, List.length_append]
    simp only [List.length_cons, Option.isSome_none, Bool.false_or]
    omega
  | case3 c r hc ih =>
    rw [percentDecode_cons hc, hasWrittenByte_cons hc, utf8_cons, List.length_append,
      List.length_append]
    omega
  | case4 => exact Nat.le_refl 0

section Encoding

variable {set : Char → Bool}

/-- A character as it is written in an address. -/
def written (set : Char → Bool) (c : Char) : List Char :=
  if c.toNat < 0x20 || 0x7f ≤ c.toNat || set c then (String.utf8EncodeChar c).flatMap percentByte
  else [c]

theorem percentEncode_cons (c : Char) (s : List Char) :
    percentEncode set (c :: s) = written set c ++ percentEncode set s :=
  List.flatMap_cons

theorem digit?_hexDigit {n : Nat} (h : n < 16) : Text.digit? (hexDigit n) = some n := by
  interval_cases n <;> decide

theorem percentDecode_percentByte (b : UInt8) (s : List Char) :
    percentDecode (percentByte b ++ s) = b :: percentDecode s := by
  have hb : b.toNat < 256 := b.toNat_lt
  have hn : Text.natural? 16 [hexDigit (b.toNat / 16), hexDigit (b.toNat % 16)] = some b.toNat := by
    rw [Text.natural?_pair, digit?_hexDigit (by omega), digit?_hexDigit (by omega)]
    simp only [Option.bind_some, Option.map_some]
    congr 1
    omega
  show percentDecode ('%' :: _ :: _ :: s) = _
  rw [percentDecode_byte hn]
  exact congrArg (· :: _) UInt8.ofNat_toNat

theorem percentDecode_percentBytes (bytes : List UInt8) (s : List Char) :
    percentDecode (bytes.flatMap percentByte ++ s) = bytes ++ percentDecode s := by
  induction bytes with
  | nil => rfl
  | cons b bytes ih =>
    rw [List.flatMap_cons, List.append_assoc, percentDecode_percentByte, ih, List.cons_append]

/-- A character that is no percent sign is read back. -/
theorem percentDecode_written {c : Char} (hc : c ≠ '%') (s : List Char) :
    percentDecode (written set c ++ s) = String.utf8EncodeChar c ++ percentDecode s := by
  unfold written
  split
  · exact percentDecode_percentBytes _ s
  · exact percentDecode_cons fun _ _ _ he => absurd he hc

/-- Whether the text begins with two digits. -/
def beginsWithByte : List Char → Bool
  | a :: b :: _ => (Text.natural? 16 [a, b]).isSome
  | _ => false

theorem percentDecode_percent {s : List Char} (h : beginsWithByte s = false) :
    percentDecode ('%' :: s) = '%'.toUInt8 :: percentDecode s := by
  match s with
  | [] | [_] => rfl
  | a :: b :: r =>
    have hn : Text.natural? 16 [a, b] = none := Option.not_isSome_iff_eq_none.1 (by
      rw [beginsWithByte] at h
      exact Bool.eq_false_iff.1 h)
    exact percentDecode_noByte hn r

/-- What is written of a character that is no digit begins with none. -/
theorem exists_written {c : Char} (h : Text.digit? c = none) :
    ∃ d rest, written set c = d :: rest ∧ Text.digit? d = none := by
  unfold written
  split
  · obtain ⟨b, bytes, hbytes⟩ := List.exists_cons_of_length_pos (length_utf8EncodeChar_pos c)
    rw [hbytes]
    exact ⟨'%', _, rfl, by decide⟩
  · exact ⟨c, [], rfl, h⟩

/-- Writing characters as bytes brings no slash. -/
theorem not_mem_percentEncode {s : List Char} (h : '/' ∉ s) : '/' ∉ percentEncode set s := by
  have hdigit : ∀ n < 16, hexDigit n ≠ '/' := by decide
  intro hmem
  obtain ⟨c, hc, hmem⟩ := List.mem_flatMap.1 hmem
  split at hmem
  · obtain ⟨b, -, hmem⟩ := List.mem_flatMap.1 hmem
    have hb : b.toNat < 256 := b.toNat_lt
    simp only [percentByte, List.mem_cons, List.not_mem_nil, or_false] at hmem
    obtain hmem | hmem | hmem := hmem
    · exact absurd hmem (by decide)
    · exact hdigit _ (by omega) hmem.symm
    · exact hdigit _ (by omega) hmem.symm
  · rw [List.mem_singleton.1 hmem] at h
    exact h hc

variable (hset : ∀ c, set c = true → c ≠ '%' ∧ Text.digit? c = none)
include hset

theorem written_percent : written set '%' = ['%'] := by
  have hnot : set '%' = false := Bool.eq_false_iff.2 fun h => (hset '%' h).1 rfl
  rw [written, hnot]
  decide

theorem written_of_digit? {c : Char} {n : Nat} (h : Text.digit? c = some n) : written set c = [c] := by
  have hnot : set c = false := Bool.eq_false_iff.2 fun hc => by simp [(hset c hc).2] at h
  obtain ⟨-, hlow, hhigh⟩ := Text.digit?_bounds h
  refine if_neg ?_
  simp only [hnot, Bool.or_false, Bool.or_eq_true, decide_eq_true_eq]
  omega

theorem beginsWithByte_percentEncode (s : List Char) :
    beginsWithByte (percentEncode set s) = beginsWithByte s := by
  have hpair (a b : Char) (r : List Char) : beginsWithByte (a :: b :: r) =
      ((Text.digit? a).isSome && (Text.digit? b).isSome) := by
    rw [beginsWithByte, Text.natural?_pair]
    cases Text.digit? a <;> cases Text.digit? b <;> rfl
  cases s with
  | nil => rfl
  | cons a s =>
    rw [percentEncode_cons]
    cases ha : Text.digit? a with
    | none =>
      obtain ⟨d, rest, hd, hdigit⟩ := @exists_written set a ha
      have hleft : beginsWithByte (d :: (rest ++ percentEncode set s)) = false := by
        cases rest ++ percentEncode set s with
        | nil => rfl
        | cons => rw [hpair, hdigit]; rfl
      have hright : beginsWithByte (a :: s) = false := by
        cases s with
        | nil => rfl
        | cons => rw [hpair, ha]; rfl
      rw [hd, List.cons_append, hleft, hright]
    | some n =>
      rw [written_of_digit? hset ha]
      cases s with
      | nil => rfl
      | cons b s =>
        rw [percentEncode_cons, hpair]
        cases hb : Text.digit? b with
        | none =>
          obtain ⟨d, rest, hd, hdigit⟩ := @exists_written set b hb
          rw [hd]
          show beginsWithByte (a :: d :: _) = _
          rw [hpair, hdigit]
        | some m =>
          rw [written_of_digit? hset hb]
          show beginsWithByte (a :: b :: _) = _
          rw [hpair, hb]

/-- **Writing characters as bytes does not change what a text stands for**, as long as neither the
percent sign nor a digit is among them. -/
theorem percentDecode_percentEncode (s : List Char) :
    percentDecode (percentEncode set s) = percentDecode s := by
  induction s using percentDecode.induct with
  | case1 a b r n hn ih =>
    have hdigits : ∃ x y, Text.digit? a = some x ∧ Text.digit? b = some y := by
      rw [Text.natural?_pair] at hn
      obtain ⟨x, hx, hn⟩ := Option.bind_eq_some_iff.1 hn
      obtain ⟨y, hy, -⟩ := Option.map_eq_some_iff.1 hn
      exact ⟨x, y, hx, hy⟩
    obtain ⟨x, y, hx, hy⟩ := hdigits
    rw [percentEncode_cons, percentEncode_cons, percentEncode_cons, written_percent hset,
      written_of_digit? hset hx, written_of_digit? hset hy]
    show percentDecode ('%' :: a :: b :: percentEncode set r) = _
    rw [percentDecode_byte hn, percentDecode_byte hn, ih]
  | case2 a b r hn ih =>
    have hbegins : beginsWithByte (percentEncode set (a :: b :: r)) = false := by
      rw [beginsWithByte_percentEncode hset, beginsWithByte, hn]
      rfl
    rw [percentEncode_cons, written_percent hset, List.singleton_append, percentDecode_percent hbegins,
      ih, percentDecode_noByte hn]
  | case3 c r hc ih =>
    rw [percentEncode_cons]
    by_cases hpercent : c = '%'
    · subst hpercent
      have hbegins : beginsWithByte r = false := by
        match r, hc with
        | [], _ | [_], _ => rfl
        | a :: b :: r, hc => exact (hc a b r rfl rfl).elim
      rw [written_percent hset, List.singleton_append,
        percentDecode_percent ((beginsWithByte_percentEncode hset r).trans hbegins),
        percentDecode_percent hbegins, ih]
    · rw [percentDecode_written hpercent, ih, percentDecode_cons hc]
  | case4 => rfl

end Encoding

/-- The characters that are written as bytes in a path. -/
theorem pathSet_spec (c : Char) (h : pathSet c = true) : c ≠ '%' ∧ Text.digit? c = none := by
  simp only [pathSet, Bool.or_eq_true, beq_iff_eq, or_assoc] at h
  rcases h with rfl | rfl | rfl | rfl | rfl | rfl | rfl | rfl | rfl <;> decide

end Url
end AzureProvisioning
