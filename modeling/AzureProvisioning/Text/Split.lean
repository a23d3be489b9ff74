/-
# Parts of a text

Splitting at a separator, the part after the last separator, and trimming one character from both
ends. `join_split` says that nothing is lost in splitting.
-/

namespace AzureProvisioning
namespace Text

/-- The parts between the separators; a text without separator is one part. -/
def split (sep : Char) : List Char → List (List Char)
  | [] => [[]]
  | c :: r =>
    if c = sep then [] :: split sep r
    else
      match split sep r with
      | [] => [[c]]
      | part :: parts => (c :: part) :: parts

/-- Parts with a separator between neighbours. -/
def join (sep : Char) : List (List Char) → List Char
  | [] => []
  | [part] => part
  | part :: parts => part ++ sep :: join sep parts

/-- The part after the last separator; the whole text when there is none. -/
def afterLast (sep : Char) (s : List Char) : List Char :=
  (s.reverse.takeWhile (· ≠ sep)).reverse

/-- The text without the given character at its two ends. -/
def trimBoth (c : Char) (s : List Char) : List Char :=
  ((s.dropWhile (· = c)).reverse.dropWhile (· = c)).reverse

/-- The text without the given character at its end. -/
def trimEnd (c : Char) (s : List Char) : List Char :=
  (s.reverse.dropWhile (· = c)).reverse

/-- The part of a selector after its last dot: `Kind.Sql` selects `Sql`. -/
def lastPart (s : String) : String :=
  String.ofList (afterLast '.' s.toList)

/-- Texts in a row, with a separator between neighbours. -/
def listed (sep : String) (parts : List String) : String :=
  sep.intercalate parts

theorem split_ne_nil (sep : Char) (s : List Char) : split sep s ≠ [] := by
  cases s with
  | nil => simp [split]
  | cons c r =>
    unfold split
    split
    · simp
    · split <;> simp

theorem join_split (sep : Char) (s : List Char) : join sep (split sep s) = s := by
  induction s with
  | nil => rfl
  | cons c r ih =>
    unfold split
    by_cases h : c = sep
    · rw [if_pos h]
      match hs : split sep r with
      | [] => exact absurd hs (split_ne_nil sep r)
      | part :: parts => rw [hs] at ih; simp [join, h, ih]
    · rw [if_neg h]
      match hs : split sep r with
      | [] => exact absurd hs (split_ne_nil sep r)
      | [part] => rw [hs] at ih; simpa [join] using ih
      | part :: next :: parts => rw [hs] at ih; simpa [join] using ih

/-- No part holds the separator. -/
theorem not_mem_of_mem_split {sep : Char} {s part : List Char} (h : part ∈ split sep s) :
    sep ∉ part := by
  induction s generalizing part with
  | nil => simp only [split, List.mem_singleton] at h; simp [h]
  | cons c r ih =>
    unfold split at h
    by_cases hc : c = sep
    · rw [if_pos hc] at h
      rcases List.mem_cons.1 h with rfl | h
      · simp
      · exact ih h
    · rw [if_neg hc] at h
      match hs : split sep r with
      | [] => exact absurd hs (split_ne_nil sep r)
      | first :: parts =>
        rw [hs] at h
        rcases List.mem_cons.1 h with rfl | h
        · have hfirst : sep ∉ first := ih (by rw [hs]; simp)
          simpa [Ne.symm hc] using hfirst
        · exact ih (by rw [hs]; exact List.mem_cons_of_mem _ h)

end Text
end AzureProvisioning
