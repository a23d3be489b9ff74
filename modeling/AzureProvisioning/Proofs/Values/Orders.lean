/-
# Entries in other orders

The order in which a dictionary's entries are visited is not part of what it holds.
`Dictionary.VisitedAs r d visited` says that `visited` has the keys of `d`, in whatever order, with
values that `r` relates to those of `d`; `Value.VisitedAs` and `Attributes.VisitedAs` say of a value and
of a declaration that the other one differs in the orders of entries only, at any depth.

Items that are picked from a list can be brought into any order by an order of the list
(`exists_perm_filterMap_eq`).
-/

import AzureProvisioning.Proofs.Values.Equality

namespace AzureProvisioning

/-- Whatever order what is picked shall have, there is an order to pick in. -/
theorem exists_perm_filterMap_eq {α β : Type} {f : α → Option β} {as : List α} {bs : List β}
    (h : (as.filterMap f).Perm bs) : ∃ as' : List α, as'.Perm as ∧ as'.filterMap f = bs := by
  generalize hpicked : as.filterMap f = picked at h
  induction h generalizing as with
  | nil => exact ⟨as, .refl _, hpicked⟩
  | cons b _ ih =>
    obtain ⟨skipped, a, rest, rfl, hnone, ha, hrest⟩ := List.filterMap_eq_cons_iff.1 hpicked
    obtain ⟨rest', hperm, hrest'⟩ := ih hrest
    refine ⟨skipped ++ a :: rest', (hperm.cons a).append_left skipped, ?_⟩
    rw [List.filterMap_append, List.filterMap_eq_nil_iff.2 hnone, List.filterMap_cons_some ha, hrest',
      List.nil_append]
  | swap b c bs =>
    obtain ⟨skipped, a, rest, rfl, hnone, ha, hrest⟩ := List.filterMap_eq_cons_iff.1 hpicked
    obtain ⟨skipped', a', rest', rfl, hnone', ha', hrest'⟩ := List.filterMap_eq_cons_iff.1 hrest
    refine ⟨a' :: a :: (skipped ++ (skipped' ++ rest')), ?_, ?_⟩
    · have hinner : (a' :: (skipped ++ (skipped' ++ rest'))).Perm (skipped ++ (skipped' ++ a' :: rest')) :=
        List.perm_middle.symm.trans (List.perm_middle.symm.append_left skipped)
      exact (List.Perm.swap a a' _).trans ((hinner.cons a).trans List.perm_middle.symm)
    · rw [List.filterMap_cons_some ha', List.filterMap_cons_some ha, List.filterMap_append,
        List.filterMap_append, List.filterMap_eq_nil_iff.2 hnone, List.filterMap_eq_nil_iff.2 hnone', hrest']
      rfl
  | trans _ _ ih ih' =>
    obtain ⟨as', hperm, has'⟩ := ih hpicked
    obtain ⟨as'', hperm', has''⟩ := ih' has'
    exact ⟨as'', hperm'.trans hperm, has''⟩

theorem exists_of_rel_some {α : Type} {r : α → α → Prop} {o : Option α} {b : α}
    (h : Option.Rel r o (some b)) : ∃ a, o = some a ∧ r a b := by
  cases h with
  | some hab => exact ⟨_, rfl, hab⟩

theorem exists_of_some_rel {α : Type} {r : α → α → Prop} {o : Option α} {a : α}
    (h : Option.Rel r (some a) o) : ∃ b, o = some b ∧ r a b := by
  cases h with
  | some hab => exact ⟨_, rfl, hab⟩

namespace Dictionary

/-- The keys of the first dictionary with related values, in any order. -/
structure VisitedAs {κ α : Type} [DecidableEq κ] (r : α → α → Prop) (d visited : Dictionary κ α) : Prop where
  distinct : visited.Distinct
  entries : ∀ k, Option.Rel r (d.get? k) (visited.get? k)

variable {κ α : Type} [DecidableEq κ] {r : α → α → Prop} {d visited : Dictionary κ α} {k : κ} {a b : α}

theorem VisitedAs.of_get? (h : d.VisitedAs r visited) (hb : visited.get? k = some b) :
    ∃ a, d.get? k = some a ∧ r a b :=
  exists_of_rel_some (hb ▸ h.entries k)

theorem VisitedAs.to_get? (h : d.VisitedAs r visited) (ha : d.get? k = some a) :
    ∃ b, visited.get? k = some b ∧ r a b :=
  exists_of_some_rel (ha ▸ h.entries k)

theorem VisitedAs.get?_eq_none_iff (h : d.VisitedAs r visited) :
    visited.get? k = none ↔ d.get? k = none := by
  have hk := h.entries k
  cases hd : d.get? k <;> cases hv : visited.get? k <;> simp_all

theorem VisitedAs.contains_eq (h : d.VisitedAs r visited) (k : κ) :
    visited.contains k = d.contains k := by
  rw [Bool.eq_iff_iff, contains, contains, Option.isSome_iff_ne_none, Option.isSome_iff_ne_none, ne_eq,
    ne_eq, h.get?_eq_none_iff]

/-- Look-ups do not depend on the order of the entries. -/
theorem get?_of_perm (hd : d.Distinct) (h : visited.Perm d) (k : κ) : visited.get? k = d.get? k := by
  have hvisited : visited.Distinct := (h.map Prod.fst).nodup_iff.2 hd
  cases hk : d.get? k with
  | some a => exact get?_of_mem hvisited (h.mem_iff.2 (mem_of_get? hk))
  | none =>
    cases hv : visited.get? k with
    | none => rfl
    | some a => cases hk.symm.trans (get?_of_mem hd (h.mem_iff.1 (mem_of_get? hv)))

theorem VisitedAs.trans_perm (h : d.VisitedAs r visited) {again : Dictionary κ α}
    (hperm : again.Perm visited) : d.VisitedAs r again where
  distinct := (hperm.map Prod.fst).nodup_iff.2 h.distinct
  entries k := by
    rw [get?_of_perm h.distinct hperm]
    exact h.entries k

theorem get?_map (d : Dictionary κ α) (f : κ → α → α) (k : κ) :
    get? (d.map fun e => (e.1, f e.1 e.2)) k = (d.get? k).map (f k) := by
  induction d with
  | nil => rfl
  | cons e d ih =>
    rw [List.map_cons, get?_cons, get?_cons, ih]
    by_cases he : e.1 = k
    · rw [if_pos he, if_pos he, he, Option.map_some]
    · rw [if_neg he, if_neg he]

/-- Each value may be replaced by a related one. -/
theorem VisitedAs.map (hd : d.Distinct) {f : κ → α → α} (h : ∀ k a, d.get? k = some a → r a (f k a)) :
    d.VisitedAs r (d.map fun e => (e.1, f e.1 e.2)) where
  distinct := by
    rw [Distinct, keys, List.map_map]
    exact hd
  entries k := by
    rw [get?_map]
    cases hk : d.get? k with
    | none => exact .none
    | some a => exact .some (h k a hk)

theorem VisitedAs.refl (hd : d.Distinct) (h : ∀ k a, d.get? k = some a → r a a) : d.VisitedAs r d := by
  simpa using VisitedAs.map hd (f := fun _ a => a) h

theorem VisitedAs.trans (hr : ∀ a b c, r a b → r b c → r a c) {again : Dictionary κ α}
    (h : d.VisitedAs r visited) (h' : visited.VisitedAs r again) : d.VisitedAs r again where
  distinct := h'.distinct
  entries k := by
    cases hk : d.get? k with
    | none =>
      rw [h'.get?_eq_none_iff.2 (h.get?_eq_none_iff.2 hk)]
      exact .none
    | some a =>
      obtain ⟨b, hb, hab⟩ := h.to_get? hk
      obtain ⟨c, hc, hbc⟩ := h'.to_get? hb
      rw [hc]
      exact .some (hr a b c hab hbc)

/-- Dictionaries are compared entry by entry. -/
theorem VisitedAs.of_mem (hd : d.Distinct) (hvisited : visited.Distinct)
    (h : ∀ k b, (k, b) ∈ visited → ∃ a, (k, a) ∈ d ∧ r a b) (hkeys : ∀ k a, (k, a) ∈ d → ∃ b, (k, b) ∈ visited) :
    d.VisitedAs r visited where
  distinct := hvisited
  entries k := by
    cases hb : visited.get? k with
    | some b =>
      obtain ⟨a, ha, hab⟩ := h k b (mem_of_get? hb)
      rw [get?_of_mem hd ha]
      exact .some hab
    | none =>
      cases ha : d.get? k with
      | none => exact .none
      | some a =>
        obtain ⟨b, hb'⟩ := hkeys k a (mem_of_get? ha)
        cases hb.symm.trans (get?_of_mem hvisited hb')

/-- One value may be replaced by a related one. -/
theorem VisitedAs.insert (hd : d.Distinct) (h : ∀ k a, d.get? k = some a → r a a) (ha : d.get? k = some a)
    (hab : r a b) : d.VisitedAs r (d.insert k b) where
  distinct := insert_distinct hd k b
  entries j := by
    rw [get?_insert]
    by_cases hj : k = j
    · rw [if_pos hj, ← hj, ha]
      exact .some hab
    · rw [if_neg hj]
      exact (VisitedAs.refl hd h).entries j

end Dictionary

namespace Value

variable {u v w : Value}

theorem Equal.refl (h : v.WellFormed) : v.Equal v :=
  (same_iff h h).1 (same_refl h)

theorem mem_zip_iff {items others : List Value} :
    (v, w) ∈ items.zip others ↔ ∃ i : Nat, items[i]? = some v ∧ others[i]? = some w := by
  simp only [List.mem_iff_getElem?, List.getElem?_zip_eq_some]

theorem Equal.symm (h : v.Equal w) : w.Equal v := by
  induction h with
  | string s => exact .string s
  | int i => exact .int i
  | bool b => exact .bool b
  | list hlength _ ih =>
    refine .list hlength.symm ?_
    rintro ⟨b, a⟩ hba
    obtain ⟨i, hb, ha⟩ := mem_zip_iff.1 hba
    exact ih (a, b) (mem_zip_iff.2 ⟨i, ha, hb⟩)
  | map hkeys _ ih => exact .map (fun k => (hkeys k).symm) fun k b a hb ha => ih k a b ha hb

theorem Equal.trans (h : u.Equal v) (h' : v.Equal w) : u.Equal w := by
  induction h generalizing w with
  | string | int | bool => exact h'
  | @list items others hlength _ ih =>
    cases h' with
    | @list _ thirds hlength' h' =>
      refine .list (hlength.trans hlength') ?_
      rintro ⟨a, c⟩ hac
      obtain ⟨i, ha, hc⟩ := mem_zip_iff.1 hac
      have hi : i < others.length := hlength ▸ (List.getElem?_eq_some_iff.1 ha).1
      obtain ⟨b, hb⟩ : ∃ b, others[i]? = some b := ⟨_, List.getElem?_eq_getElem hi⟩
      exact ih (a, b) (mem_zip_iff.2 ⟨i, ha, hb⟩) (h' (b, c) (mem_zip_iff.2 ⟨i, hb, hc⟩))
  | map hkeys _ ih =>
    cases h' with
    | map hkeys' h' =>
      refine .map (fun k => (hkeys k).trans (hkeys' k)) fun k a c ha hc => ?_
      obtain ⟨⟨_, b⟩, hb, rfl⟩ := List.mem_map.1 ((hkeys k).1 (List.mem_map_of_mem ha))
      exact ih _ a b ha hb (h' _ b c hb hc)

/-- The value with the entries of its maps in other orders. -/
structure VisitedAs (v w : Value) : Prop where
  wellFormed : w.WellFormed
  equal : v.Equal w

theorem VisitedAs.refl (h : v.WellFormed) : v.VisitedAs v :=
  ⟨h, .refl h⟩

theorem VisitedAs.symm (hv : v.WellFormed) (h : v.VisitedAs w) : w.VisitedAs v :=
  ⟨hv, h.equal.symm⟩

theorem VisitedAs.trans (h : u.VisitedAs v) (h' : v.VisitedAs w) : u.VisitedAs w :=
  ⟨h'.wellFormed, h.equal.trans h'.equal⟩

/-- A list has no order to choose but those of its items. -/
theorem visitedAs_list_iff {items : List Value} :
    (list items).VisitedAs w ↔ ∃ others, w = list others ∧ others.length = items.length ∧
      ∀ (i : Nat) (a b : Value), items[i]? = some a → others[i]? = some b → a.VisitedAs b := by
  constructor
  · rintro ⟨hw, hequal⟩
    cases hequal with
    | @list _ others hlength h =>
      cases hw with
      | list hothers =>
        exact ⟨others, rfl, hlength.symm, fun i a b ha hb =>
          ⟨hothers b (List.mem_of_getElem? hb), h (a, b) (mem_zip_iff.2 ⟨i, ha, hb⟩)⟩⟩
  · rintro ⟨others, rfl, hlength, h⟩
    refine ⟨.list fun b hb => ?_, .list hlength.symm ?_⟩
    · obtain ⟨i, hb⟩ := List.mem_iff_getElem?.1 hb
      have hi : i < items.length := hlength ▸ (List.getElem?_eq_some_iff.1 hb).1
      exact (h i _ b (List.getElem?_eq_getElem hi) hb).wellFormed
    · rintro ⟨a, b⟩ hab
      obtain ⟨i, ha, hb⟩ := mem_zip_iff.1 hab
      exact (h i a b ha hb).equal

/-- The entries of a map may be visited in any order, and their values in other orders. -/
theorem visitedAs_map_iff {entries : Dictionary String Value} (hd : entries.Distinct) :
    (map entries).VisitedAs w ↔
      ∃ others : Dictionary String Value, w = map others ∧ entries.VisitedAs VisitedAs others := by
  constructor
  · rintro ⟨hw, hequal⟩
    cases hequal with
    | @map _ others hkeys h =>
      cases hw with
      | map hd' hothers =>
        refine ⟨others, rfl, hd', fun k => ?_⟩
        cases ha : entries.get? k with
        | none =>
          cases hb : Dictionary.get? others k with
          | none => exact .none
          | some b =>
            obtain ⟨⟨_, a⟩, he, rfl⟩ :=
              List.mem_map.1 ((hkeys k).2 (List.mem_map_of_mem (Dictionary.mem_of_get? hb)))
            cases ha.symm.trans (Dictionary.get?_of_mem hd he)
        | some a =>
          have ha := Dictionary.mem_of_get? ha
          obtain ⟨⟨_, b⟩, hb, rfl⟩ := List.mem_map.1 ((hkeys k).1 (List.mem_map_of_mem ha))
          rw [Dictionary.get?_of_mem hd' hb]
          exact .some ⟨hothers _ hb, h _ a b ha hb⟩
  · rintro ⟨others, rfl, hvisited⟩
    refine ⟨.map hvisited.distinct fun ⟨k, b⟩ hb => ?_, .map (fun k => ?_) fun k a b ha hb => ?_⟩
    · obtain ⟨a, -, hab⟩ := hvisited.of_get? (Dictionary.get?_of_mem hvisited.distinct hb)
      exact hab.wellFormed
    · constructor
      · intro hk
        obtain ⟨⟨_, a⟩, ha, rfl⟩ := List.mem_map.1 hk
        obtain ⟨b, hb, -⟩ := hvisited.to_get? (Dictionary.get?_of_mem hd ha)
        exact List.mem_map.2 ⟨_, Dictionary.mem_of_get? hb, rfl⟩
      · intro hk
        obtain ⟨⟨_, b⟩, hb, rfl⟩ := List.mem_map.1 hk
        obtain ⟨a, ha, -⟩ := hvisited.of_get? (Dictionary.get?_of_mem hvisited.distinct hb)
        exact List.mem_map.2 ⟨_, Dictionary.mem_of_get? ha, rfl⟩
    · obtain ⟨a', ha', hab⟩ := hvisited.of_get? (Dictionary.get?_of_mem hvisited.distinct hb)
      rw [Option.some.inj ((Dictionary.get?_of_mem hd ha).symm.trans ha')]
      exact hab.equal

end Value

/-- The declaration in another order, and the maps in its values too. -/
abbrev Attributes.VisitedAs (attributes visited : Attributes) : Prop :=
  Dictionary.VisitedAs Value.VisitedAs attributes visited

namespace Attributes

variable {attributes visited : Attributes}

theorem VisitedAs.wellFormed (h : attributes.VisitedAs visited) : visited.WellFormed where
  distinct := h.distinct
  values e he := by
    obtain ⟨v, -, hv⟩ := h.of_get? (Dictionary.get?_of_mem h.distinct he)
    exact hv.wellFormed

theorem WellFormed.visitedAs_get? (h : attributes.WellFormed) (k : String) (v : Value)
    (hv : attributes.get? k = some v) : v.VisitedAs v :=
  .refl (h.values _ (Dictionary.mem_of_get? hv))

theorem VisitedAs.refl (h : attributes.WellFormed) : attributes.VisitedAs attributes :=
  Dictionary.VisitedAs.refl h.distinct h.visitedAs_get?

end Attributes
end AzureProvisioning
