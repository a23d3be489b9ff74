/-
# Dictionaries and values that hold no key twice

A dictionary is a list of entries, so writing to it has an effect on the list as well as on the
look-ups: writing the value that is there changes nothing (`insert_of_get?`), and of two writes
under one key only the second counts (`insert_insert`). Entries with different keys are what they
make when they are written one after the other (`ofEntries_of_distinct`).

`Value.WellFormed` says of a value that none of its maps holds a key twice, at any depth. Such a
value equals itself (`same_refl`); a map that listed a key twice would not, as only the first of the
two entries is ever found.
-/

import AzureProvisioning.Value

namespace AzureProvisioning
namespace Dictionary

variable {κ α : Type} [DecidableEq κ]

instance (d : Dictionary κ α) : Decidable d.Distinct :=
  inferInstanceAs (Decidable d.keys.Nodup)

/-- Writing the value that is there changes nothing. -/
theorem insert_of_get? {d : Dictionary κ α} {k : κ} {v : α} (h : d.get? k = some v) :
    d.insert k v = d := by
  induction d with
  | nil => simp [get?_nil] at h
  | cons e d ih =>
    rw [get?_cons] at h
    unfold insert
    by_cases he : e.1 = k
    · rw [if_pos he] at h ⊢
      rw [← he, ← Option.some.inj h]
    · rw [if_neg he] at h ⊢
      rw [ih h]

/-- Of two writes under one key the second counts. -/
@[simp] theorem insert_insert (d : Dictionary κ α) (k : κ) (v w : α) :
    (d.insert k v).insert k w = d.insert k w := by
  induction d with
  | nil => simp [insert]
  | cons e d ih =>
    unfold insert
    by_cases he : e.1 = k
    · simp [he, insert]
    · simp [he, insert, ih]

@[simp] theorem get?_insert_self (d : Dictionary κ α) (k : κ) (v : α) :
    (d.insert k v).get? k = some v := by
  rw [get?_insert, if_pos rfl]

theorem mem_of_get? {d : Dictionary κ α} {k : κ} {v : α} (h : d.get? k = some v) : (k, v) ∈ d := by
  induction d with
  | nil => simp [get?_nil] at h
  | cons e d ih =>
    rw [get?_cons] at h
    split at h
    · next he =>
      rw [← he, ← Option.some.inj h]
      exact List.mem_cons_self
    · exact List.mem_cons_of_mem _ (ih h)

/-- In a dictionary an entry is found under its key. -/
theorem get?_of_mem {d : Dictionary κ α} (hd : d.Distinct) {k : κ} {v : α} (h : (k, v) ∈ d) :
    d.get? k = some v := by
  induction d with
  | nil => cases h
  | cons e d ih =>
    obtain ⟨hnot, hrest⟩ := List.nodup_cons.1 hd
    rw [get?_cons]
    rcases List.mem_cons.1 h with rfl | h
    · rw [if_pos rfl]
    · have hne : e.1 ≠ k := fun he => hnot (he ▸ List.mem_map_of_mem h)
      rw [if_neg hne, ih hrest h]

/-- An entry is there after a write because it is the written one, or was there before. -/
theorem mem_of_mem_insert {d : Dictionary κ α} {k : κ} {v : α} {e : κ × α} (h : e ∈ d.insert k v) :
    e = (k, v) ∨ e ∈ d := by
  induction d with
  | nil => exact .inl (List.mem_singleton.1 h)
  | cons e' d ih =>
    rw [insert] at h
    split at h
    · obtain rfl | h := List.mem_cons.1 h
      · exact .inl rfl
      · exact .inr (List.mem_cons_of_mem _ h)
    · obtain rfl | h := List.mem_cons.1 h
      · exact .inr List.mem_cons_self
      · exact (ih h).imp_right (List.mem_cons_of_mem _)

/-- A key that is new goes to the end. -/
theorem insert_of_notMem {d : Dictionary κ α} {k : κ} (h : k ∉ d.keys) (v : α) :
    d.insert k v = d ++ [(k, v)] := by
  induction d with
  | nil => rfl
  | cons e d ih =>
    simp only [keys, List.map_cons, List.mem_cons, not_or] at h
    rw [insert, if_neg (Ne.symm h.1), ih h.2, List.cons_append]

/-- Entries with different keys are written one after the other. -/
theorem foldl_insert_of_distinct {start entries : Dictionary κ α}
    (h : Distinct (start ++ entries)) :
    entries.foldl (fun d e => d.insert e.1 e.2) start = start ++ entries := by
  induction entries generalizing start with
  | nil => rw [List.foldl_nil, List.append_nil]
  | cons e entries ih =>
    have hnodup : (start.keys ++ e.1 :: keys entries).Nodup := by
      simpa [Distinct, keys] using h
    have hnew : e.1 ∉ start.keys := fun hmem =>
      (List.nodup_append.1 hnodup).2.2 _ hmem _ List.mem_cons_self rfl
    rw [List.foldl_cons, insert_of_notMem hnew, ih (by simpa using h), List.append_assoc]
    rfl

/-- Entries with different keys are a dictionary as they stand. -/
theorem ofEntries_of_distinct {d : Dictionary κ α} (h : d.Distinct) : ofEntries d = d :=
  @foldl_insert_of_distinct _ _ _ [] d h

end Dictionary

/-- No map in the value holds a key twice. -/
inductive Value.WellFormed : Value → Prop
  | string (s : String) : WellFormed (.string s)
  | int (i : Int64) : WellFormed (.int i)
  | bool (b : Bool) : WellFormed (.bool b)
  | list {items : List Value} (h : ∀ v ∈ items, WellFormed v) : WellFormed (.list items)
  | map {entries : List (String × Value)} (hd : (entries.map Prod.fst).Nodup)
      (h : ∀ e ∈ entries, WellFormed e.2) : WellFormed (.map entries)

/-- No name is declared twice, and no map in a value holds a key twice. -/
structure Attributes.WellFormed (attributes : Attributes) : Prop where
  distinct : attributes.Distinct
  values : ∀ e ∈ attributes, e.2.WellFormed

namespace Value

theorem sameItems_refl {items : List Value} (h : ∀ v ∈ items, same v v = true) :
    sameItems items items = true := by
  induction items with
  | nil => rw [sameItems]
  | cons v items ih =>
    rw [sameItems, h v List.mem_cons_self, ih fun w hw => h w (List.mem_cons_of_mem _ hw)]
    rfl

/-- Each entry of a part of a map has an equal one under its key in the map. -/
theorem sameEntries_of_subset {part whole : List (String × Value)}
    (hsub : ∀ e ∈ part, Dictionary.get? whole e.1 = some e.2) (h : ∀ e ∈ part, same e.2 e.2 = true) :
    sameEntries part whole = true := by
  induction part with
  | nil => rw [sameEntries]
  | cons e part ih =>
    have hrest := ih (fun f hf => hsub f (List.mem_cons_of_mem _ hf))
      fun f hf => h f (List.mem_cons_of_mem _ hf)
    rw [sameEntries, hsub e List.mem_cons_self, hrest, Bool.and_true]
    exact h e List.mem_cons_self

/-- **A well-formed value equals itself.** -/
theorem same_refl {v : Value} (h : v.WellFormed) : same v v = true := by
  induction h with
  | string | int | bool => simp [same]
  | list _ ih => rw [same, sameItems_refl ih]
  | @map entries hd _ ih =>
    rw [same, beq_self_eq_true, Bool.true_and]
    exact sameEntries_of_subset (fun e he => Dictionary.get?_of_mem hd he) ih

/-- A value that equals a text is that text. -/
theorem eq_of_same_string {v : Value} {s : String} (h : same v (.string s) = true) :
    v = .string s := by
  cases v with
  | string t => rw [same, beq_iff_eq] at h; rw [h]
  | int | bool | list | map => simp [same] at h

theorem ofStrings_injective {items others : List String} (h : ofStrings items = ofStrings others) :
    items = others :=
  List.map_inj_right (fun _ _ => Value.string.inj) |>.1 (Value.list.inj h)

/-- A value that equals a list of texts is that list. -/
theorem eq_of_same_ofStrings {v : Value} {items : List String}
    (h : same v (ofStrings items) = true) : v = ofStrings items := by
  cases v with
  | list vs =>
    rw [ofStrings, same] at h
    rw [ofStrings]
    congr 1
    induction vs generalizing items with
    | nil =>
      cases items with
      | nil => rfl
      | cons s items => simp [sameItems] at h
    | cons v vs ih =>
      cases items with
      | nil => simp [sameItems] at h
      | cons s items =>
        rw [List.map_cons, sameItems, Bool.and_eq_true] at h
        rw [List.map_cons, eq_of_same_string h.1, ih h.2]
  | string | int | bool | map => simp [ofStrings, same] at h

theorem wellFormed_ofStrings (items : List String) : (ofStrings items).WellFormed := by
  refine .list fun v hv => ?_
  obtain ⟨s, -, rfl⟩ := List.mem_map.1 hv
  exact .string s

theorem wellFormed_ofStringMap {entries : Dictionary String String} (hd : entries.Distinct) :
    (ofStringMap entries).WellFormed := by
  refine .map ?_ fun e he => ?_
  · rw [List.map_map]
    exact hd
  · obtain ⟨f, -, rfl⟩ := List.mem_map.1 he
    exact .string f.2

end Value
end AzureProvisioning
