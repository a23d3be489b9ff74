/-
# Regions

A region has many spellings: `East US 2`, `azure.Region.east_us_2`, `eastus2`. The programmatic form
keeps what stands after the last dot, without blanks, underscores and hyphens, in small letters.
-/

import AzureProvisioning.Text.Lowercase
import AzureProvisioning.Text.Split

namespace AzureProvisioning
namespace Region

/-- The characters that only separate the words of a spelling. -/
def isSeparator (c : Char) : Bool :=
  c == ' ' || c == '_' || c == '-'

/-- The programmatic form of a region, as characters. -/
def normalizeChars (s : List Char) : List Char :=
  ((Text.afterLast '.' s).filter fun c => !isSeparator c).flatMap Text.lowerChar

/-- The programmatic form of a region. -/
def normalize (s : String) : String :=
  String.ofList (normalizeChars s.toList)

/-- The items without the later repeats of an earlier one. -/
def withoutRepeats {α : Type} [DecidableEq α] : List α → List α
  | [] => []
  | a :: as => a :: (withoutRepeats as).filter (· ≠ a)

/-- The programmatic forms of a list of regions, each at its first place only. -/
def distinctNames (regions : List String) : List String :=
  withoutRepeats (regions.map normalize)

example : normalize "East US 2" = "eastus2" := by decide

example : normalize "azure.Region.west_europe" = "westeurope" := by decide

theorem mem_withoutRepeats {α : Type} [DecidableEq α] {a : α} {as : List α} :
    a ∈ withoutRepeats as ↔ a ∈ as := by
  induction as with
  | nil => simp [withoutRepeats]
  | cons b as ih =>
    by_cases h : a = b
    · simp [withoutRepeats, h]
    · simp [withoutRepeats, h, ih]

theorem nodup_withoutRepeats {α : Type} [DecidableEq α] (as : List α) :
    (withoutRepeats as).Nodup := by
  induction as with
  | nil => simp [withoutRepeats]
  | cons b as ih => simp [withoutRepeats, List.nodup_cons, ih.sublist List.filter_sublist]

theorem withoutRepeats_of_nodup {α : Type} [DecidableEq α] {as : List α} (h : as.Nodup) :
    withoutRepeats as = as := by
  induction as with
  | nil => rfl
  | cons b as ih =>
    obtain ⟨hb, has⟩ := List.nodup_cons.1 h
    rw [withoutRepeats, ih has, List.filter_eq_self.2]
    intro a ha
    simp only [ne_eq, decide_eq_true_eq]
    exact fun hab => hb (hab ▸ ha)

end Region
end AzureProvisioning
