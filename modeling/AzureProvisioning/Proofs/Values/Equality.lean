/-
# Equality of values

`Value.Equal` says when two values are equal, at any depth: texts, numbers and truth values when they
are the same, lists when they are equal place by place, and maps when they have the same keys with
equal values, in whatever order their entries are visited. `Value.same` decides it for values that hold
no key twice (`same_iff`).
-/

import AzureProvisioning.Proofs.Values
import Mathlib.Data.List.Perm.Subperm

namespace AzureProvisioning
namespace Value

/-- Two values are equal; the order of a map's entries does not count. -/
inductive Equal : Value → Value → Prop
  | string (s : String) : Equal (.string s) (.string s)
  | int (i : Int64) : Equal (.int i) (.int i)
  | bool (b : Bool) : Equal (.bool b) (.bool b)
  | list {items others : List Value} (hlength : items.length = others.length)
      (h : ∀ e ∈ items.zip others, Equal e.1 e.2) : Equal (.list items) (.list others)
  | map {entries others : List (String × Value)}
      (hkeys : ∀ k, k ∈ entries.map Prod.fst ↔ k ∈ others.map Prod.fst)
      (h : ∀ k v w, (k, v) ∈ entries → (k, w) ∈ others → Equal v w) :
      Equal (.map entries) (.map others)

theorem sameItems_iff {items others : List Value} :
    sameItems items others = true ↔
      items.length = others.length ∧ ∀ e ∈ items.zip others, same e.1 e.2 = true := by
  induction items generalizing others with
  | nil => cases others <;> simp [sameItems]
  | cons v items ih =>
    cases others with
    | nil => simp [sameItems]
    | cons w others =>
      rw [sameItems, Bool.and_eq_true, ih, List.zip_cons_cons, List.forall_mem_cons]
      simp only [List.length_cons, Nat.add_right_cancel_iff]
      exact and_left_comm

theorem sameEntries_iff {part whole : List (String × Value)} :
    sameEntries part whole = true ↔
      ∀ e ∈ part, ∃ w, Dictionary.get? whole e.1 = some w ∧ same e.2 w = true := by
  induction part with
  | nil => simp [sameEntries]
  | cons e part ih =>
    obtain ⟨k, v⟩ := e
    rw [sameEntries, Bool.and_eq_true, ih, List.forall_mem_cons]
    refine and_congr_left' ?_
    cases Dictionary.get? whole k <;> simp

/-- Maps of one size are the same when each entry of the first one has an equal one in the second. -/
theorem same_map_iff {entries others : List (String × Value)} (hd : (entries.map Prod.fst).Nodup)
    (hd' : (others.map Prod.fst).Nodup) :
    same (.map entries) (.map others) = true ↔
      (∀ k, k ∈ entries.map Prod.fst ↔ k ∈ others.map Prod.fst) ∧
        ∀ k v w, (k, v) ∈ entries → (k, w) ∈ others → same v w = true := by
  rw [same, Bool.and_eq_true, beq_iff_eq, sameEntries_iff]
  constructor
  · rintro ⟨hlength, h⟩
    have hsub : entries.map Prod.fst ⊆ others.map Prod.fst := by
      intro k hk
      obtain ⟨e, he, rfl⟩ := List.mem_map.1 hk
      obtain ⟨w, hw, -⟩ := h e he
      exact List.mem_map.2 ⟨_, Dictionary.mem_of_get? hw, rfl⟩
    have hperm : (entries.map Prod.fst).Perm (others.map Prod.fst) :=
      (List.subperm_of_subset hd hsub).perm_of_length_le (by simp [hlength])
    refine ⟨fun k => hperm.mem_iff, fun k v w hv hw => ?_⟩
    obtain ⟨w', hw', hsame⟩ := h (k, v) hv
    rwa [← Option.some.inj (hw'.symm.trans (Dictionary.get?_of_mem hd' hw))]
  · rintro ⟨hkeys, h⟩
    have hperm := (List.perm_ext_iff_of_nodup hd hd').2 hkeys
    refine ⟨by simpa using hperm.length_eq, fun e he => ?_⟩
    obtain ⟨f, hf, hkey⟩ := List.mem_map.1 ((hkeys e.1).1 (List.mem_map.2 ⟨e, he, rfl⟩))
    have hmem : (e.1, f.2) ∈ others := hkey ▸ hf
    exact ⟨f.2, Dictionary.get?_of_mem hd' hmem, h e.1 e.2 f.2 he hmem⟩

/-- Values of different shape are neither the same nor equal. -/
theorem same_iff_of_typeName_ne {v w : Value} (h : v.typeName ≠ w.typeName) :
    same v w = true ↔ Equal v w := by
  refine iff_of_false ?_ ?_
  · cases v <;> cases w <;> simp_all [same, typeName]
  · intro hequal
    cases hequal <;> exact h rfl

/-- **Equality is decided**, for values that hold no key twice. -/
theorem same_iff {v w : Value} (hv : v.WellFormed) (hw : w.WellFormed) :
    same v w = true ↔ Equal v w := by
  induction hv generalizing w with
  | string s =>
    cases w with
    | string t =>
      rw [same, beq_iff_eq]
      exact ⟨fun h => h ▸ .string s, fun h => by cases h; rfl⟩
    | int | bool | list | map => exact same_iff_of_typeName_ne (by simp [typeName])
  | int i =>
    cases w with
    | int j =>
      rw [same, beq_iff_eq]
      exact ⟨fun h => h ▸ .int i, fun h => by cases h; rfl⟩
    | string | bool | list | map => exact same_iff_of_typeName_ne (by simp [typeName])
  | bool b =>
    cases w with
    | bool c =>
      rw [same, beq_iff_eq]
      exact ⟨fun h => h ▸ .bool b, fun h => by cases h; rfl⟩
    | string | int | list | map => exact same_iff_of_typeName_ne (by simp [typeName])
  | @list items _ ih =>
    cases hw with
    | @list others hothers =>
      rw [same, sameItems_iff]
      have hitem : ∀ e ∈ items.zip others, (same e.1 e.2 = true ↔ Equal e.1 e.2) := by
        rintro ⟨a, b⟩ he
        obtain ⟨ha, hb⟩ := List.of_mem_zip he
        exact ih a ha (hothers b hb)
      constructor
      · rintro ⟨hlength, h⟩
        exact .list hlength fun e he => (hitem e he).1 (h e he)
      · rintro (_ | _ | _ | ⟨hlength, h⟩)
        exact ⟨hlength, fun e he => (hitem e he).2 (h e he)⟩
    | string | int | bool | map => exact same_iff_of_typeName_ne (by simp [typeName])
  | @map entries hd _ ih =>
    cases hw with
    | @map others hd' hothers =>
      rw [same_map_iff hd hd']
      have hentry : ∀ k a b, (k, a) ∈ entries → (k, b) ∈ others → (same a b = true ↔ Equal a b) :=
        fun k a b ha hb => ih (k, a) ha (hothers (k, b) hb)
      constructor
      · rintro ⟨hkeys, h⟩
        exact .map hkeys fun k a b ha hb => (hentry k a b ha hb).1 (h k a b ha hb)
      · rintro (_ | _ | _ | _ | ⟨hkeys, h⟩)
        exact ⟨hkeys, fun k a b ha hb => (hentry k a b ha hb).2 (h k a b ha hb)⟩
    | string | int | bool | list => exact same_iff_of_typeName_ne (by simp [typeName])

end Value
end AzureProvisioning
