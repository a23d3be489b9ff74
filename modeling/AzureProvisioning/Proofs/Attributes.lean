/-
# Attributes read back

`ofSet` lists the attributes that are set; look-ups and membership in it are those of the listed
pairs (`get?_ofSet`, `mem_ofSet`). The readers answer by what a look-up finds, and what they answer
keeps the rules of the reader: a text is never empty, and the entries of a map have the keys of the
map.
-/

import AzureProvisioning.Attributes.Reading
import AzureProvisioning.Proofs.Values
import AzureProvisioning.Schema.Basic

namespace AzureProvisioning

/-- A value that goes on to a success is a success. -/
theorem bind_eq_ok {ε α β : Type} {x : Except ε α} {f : α → Except ε β} {b : β} :
    (x >>= f) = .ok b ↔ ∃ a, x = .ok a ∧ f a = .ok b := by
  cases x with
  | error e =>
    constructor
    · intro h; cases h
    · rintro ⟨a, h, -⟩; cases h
  | ok a =>
    constructor
    · exact fun h => ⟨a, rfl, h⟩
    · rintro ⟨a', h, h'⟩
      rw [Except.ok.inj h]
      exact h'

theorem bind_eq_error {ε α β : Type} {x : Except ε α} {f : α → Except ε β} {e : ε} :
    (x >>= f) = .error e ↔ x = .error e ∨ ∃ a, x = .ok a ∧ f a = .error e := by
  cases x with
  | error e' =>
    constructor
    · exact fun h => .inl (congrArg Except.error (Except.error.inj h))
    · rintro (h | ⟨a, h, -⟩)
      · exact congrArg Except.error (Except.error.inj h)
      · cases h
  | ok a =>
    constructor
    · exact fun h => .inr ⟨a, rfl, h⟩
    · rintro (h | ⟨a', h, h'⟩)
      · cases h
      · rw [Except.ok.inj h]
        exact h'

/-- What fails is not the change of an attribute that is set at creation only. -/
def NotImmutable {α : Type} (x : Except ConfigurationError α) : Prop :=
  ∀ field, x ≠ .error (.immutable field)

theorem notImmutable_ok {α : Type} (a : α) : NotImmutable (.ok a) := nofun

theorem NotImmutable.bind {α β : Type} {x : Except ConfigurationError α}
    {f : α → Except ConfigurationError β} (h : NotImmutable x) (hf : ∀ a, NotImmutable (f a)) :
    NotImmutable (x >>= f) := by
  cases x with
  | error e =>
    intro field he
    exact h field (congrArg Except.error (Except.error.inj he))
  | ok a => exact hf a

theorem NotImmutable.map {α β : Type} {x : Except ConfigurationError α} (h : NotImmutable x)
    (f : α → β) : NotImmutable (x.map f) := by
  cases x with
  | error e =>
    intro field he
    exact h field (congrArg Except.error (Except.error.inj he))
  | ok a => exact notImmutable_ok (f a)

/-- A text that is not empty counts as present. -/
theorem filter_ne_empty {o : Option String} (h : o ≠ some "") : o.filter (· ≠ "") = o := by
  cases o with
  | none => rfl
  | some s => rw [Option.filter_some, if_pos (by simpa using h)]

namespace Attributes

theorem mem_ofSet {entries : List (String × Option Value)} {k : String} {v : Value} :
    (k, v) ∈ ofSet entries ↔ (k, some v) ∈ entries := by
  constructor
  · intro h
    obtain ⟨⟨k', v'⟩, he, hkv⟩ := List.mem_filterMap.1 h
    obtain ⟨w, rfl, hw⟩ := Option.map_eq_some_iff.1 hkv
    obtain ⟨rfl, rfl⟩ := Prod.mk.inj hw
    exact he
  · intro h
    exact List.mem_filterMap.2 ⟨(k, some v), h, rfl⟩

theorem keys_ofSet_sublist (entries : List (String × Option Value)) :
    ((ofSet entries).map Prod.fst).Sublist (entries.map Prod.fst) := by
  induction entries with
  | nil => exact .slnil
  | cons e entries ih =>
    obtain ⟨k, _ | v⟩ := e
    · exact ih.cons k
    · exact ih.cons_cons k

theorem ofSet_distinct {entries : List (String × Option Value)}
    (h : (entries.map Prod.fst).Nodup) : (ofSet entries).Distinct :=
  h.sublist (keys_ofSet_sublist entries)

/-- A look-up in a list of pairs finds what is set under the key. -/
theorem get?_ofSet {entries : List (String × Option Value)} (h : (entries.map Prod.fst).Nodup)
    (k : String) : (ofSet entries).get? k = (entries.lookup k).join := by
  induction entries with
  | nil => rfl
  | cons e entries ih =>
    obtain ⟨hnot, hrest⟩ := List.nodup_cons.1 h
    obtain ⟨k', v⟩ := e
    have hcons : ofSet ((k', v) :: entries) = (v.map (k', ·)).toList ++ ofSet entries := by
      cases v <;> rfl
    by_cases hk : k = k'
    · subst hk
      rw [hcons, List.lookup_cons_self, Option.join_some]
      cases v with
      | some v => simp [Dictionary.get?_cons]
      | none =>
        have hlook : entries.lookup k = none := by
          rw [List.lookup_eq_none_iff]
          intro e he
          have hne : k ≠ e.1 := by
            intro hek
            apply hnot
            show k ∈ entries.map Prod.fst
            rw [hek]
            exact List.mem_map_of_mem he
          simpa using hne
        simpa [hlook] using ih hrest
    · have hb : (k == k') = false := by simpa using hk
      rw [hcons, List.lookup_cons, hb]
      cases v with
      | some v => simpa [Dictionary.get?_cons, Ne.symm hk] using ih hrest
      | none => simpa using ih hrest

section Readers

variable {attributes : Attributes} {field : String}

theorem optionalString_of_get? {o : Option String} (h : attributes.get? field = o.map .string)
    (hne : o ≠ some "") : attributes.optionalString field = .ok o := by
  unfold optionalString
  rw [h]
  cases o with
  | none => rfl
  | some s =>
    have hs : s.isEmpty = false := by
      simpa [String.isEmpty_iff] using hne
    simp [hs]

theorem requiredString_of_get? {s : String} (h : attributes.get? field = some (.string s))
    (hne : s ≠ "") : attributes.requiredString field = .ok s := by
  unfold requiredString
  rw [optionalString_of_get? (o := some s) h (by simpa using hne)]

theorem optionalInt_of_get? {o : Option Int64} (h : attributes.get? field = o.map .int) :
    attributes.optionalInt field = .ok o := by
  unfold optionalInt
  rw [h]
  cases o <;> rfl

theorem optionalBool_of_get? {b : Bool} (h : attributes.get? field = some (.bool b)) :
    attributes.optionalBool field = .ok (some b) := by
  unfold optionalBool
  rw [h]

theorem stringList_of_get? {items : List String}
    (h : attributes.get? field = some (.ofStrings items)) :
    attributes.stringList field = .ok items := by
  unfold stringList Value.ofStrings at *
  rw [h]
  exact stringsOf_map_string field items

theorem stringMap_of_get? {entries : Dictionary String String}
    (h : attributes.get? field = some (.ofStringMap entries)) :
    attributes.stringMap field = .ok entries := by
  unfold stringMap Value.ofStringMap at *
  rw [h]
  exact stringEntriesOf_map_string field entries

/-- A text that is read is not empty. -/
theorem optionalString_ne_empty {o : Option String} (h : attributes.optionalString field = .ok o) :
    o ≠ some "" := by
  unfold optionalString at h
  split at h
  · rw [← Except.ok.inj h]
    exact Option.some_ne_none "" |>.symm
  · next s _ =>
    rw [← Except.ok.inj h]
    split
    · exact Option.some_ne_none "" |>.symm
    · next hs =>
      intro he
      exact hs (by rw [Option.some.inj he]; rfl)
  · cases h

/-- A text that has to be there is not empty. -/
theorem requiredString_ne_empty {s : String} (h : attributes.requiredString field = .ok s) :
    s ≠ "" := by
  unfold requiredString at h
  cases ho : attributes.optionalString field with
  | error e => rw [ho] at h; cases h
  | ok o =>
    rw [ho] at h
    cases o with
    | none => cases h
    | some t =>
      obtain rfl := Except.ok.inj h
      exact fun he => optionalString_ne_empty ho (he ▸ rfl)

/-- A text that has been written is read, unless it is empty. -/
theorem optionalString_insert (attributes : Attributes) (field s : String) :
    Attributes.optionalString (attributes.insert field (.string s)) field =
      .ok (if s.isEmpty then none else some s) := by
  rw [optionalString, Dictionary.get?_insert_self]

/-- A text that is read is the value of the field. -/
theorem get?_of_optionalString {s : String} (h : attributes.optionalString field = .ok (some s)) :
    attributes.get? field = some (.string s) := by
  unfold optionalString at h
  split at h
  · cases h
  · next t hget =>
    by_cases ht : t.isEmpty = true
    · rw [if_pos ht] at h
      cases h
    · rw [if_neg ht] at h
      rw [hget, Option.some.inj (Except.ok.inj h)]
  · cases h

/-- A text that has to be there is the value of the field. -/
theorem get?_of_requiredString {s : String} (h : attributes.requiredString field = .ok s) :
    attributes.get? field = some (.string s) := by
  unfold requiredString at h
  cases ho : attributes.optionalString field with
  | error e => rw [ho] at h; cases h
  | ok o =>
    rw [ho] at h
    cases o with
    | none => cases h
    | some t =>
      rw [← Except.ok.inj h]
      exact get?_of_optionalString ho

theorem get?_of_optionalInt {o : Option Int64} (h : attributes.optionalInt field = .ok o) :
    attributes.get? field = o.map .int := by
  unfold optionalInt at h
  split at h
  · next hget => rw [hget, ← Except.ok.inj h]; rfl
  · next i hget => rw [hget, ← Except.ok.inj h]; rfl
  · cases h

theorem get?_of_optionalBool {o : Option Bool} (h : attributes.optionalBool field = .ok o) :
    attributes.get? field = o.map .bool := by
  unfold optionalBool at h
  split at h
  · next hget => rw [hget, ← Except.ok.inj h]; rfl
  · next b hget => rw [hget, ← Except.ok.inj h]; rfl
  · cases h

theorem eq_of_stringsOf {values : List Value} {items : List String}
    (h : stringsOf field values = .ok items) : values = items.map .string := by
  induction values generalizing items with
  | nil => rw [← Except.ok.inj h]; rfl
  | cons v values ih =>
    cases v with
    | string s =>
      rw [stringsOf] at h
      cases hrest : stringsOf field values with
      | error e => rw [hrest] at h; cases h
      | ok rest =>
        rw [hrest] at h
        rw [← Except.ok.inj h, List.map_cons, ih hrest]
    | int | bool | list | map => cases h

/-- A list of texts that is read is the value of the field, or empty when there is none. -/
theorem get?_of_stringList {items : List String} (h : attributes.stringList field = .ok items) :
    attributes.get? field = some (.ofStrings items) ∨ attributes.get? field = none ∧ items = [] := by
  unfold stringList at h
  split at h
  · next hget => exact .inr ⟨hget, (Except.ok.inj h).symm⟩
  · next values hget => exact .inl (by rw [hget, eq_of_stringsOf h]; rfl)
  · cases h

theorem eq_of_stringEntriesOf {values : List (String × Value)} {entries : Dictionary String String}
    (h : stringEntriesOf field values = .ok entries) :
    values = entries.map fun e => (e.1, .string e.2) := by
  induction values generalizing entries with
  | nil => rw [← Except.ok.inj h]; rfl
  | cons e values ih =>
    obtain ⟨k, v⟩ := e
    cases v with
    | string s =>
      rw [stringEntriesOf] at h
      cases hrest : stringEntriesOf field values with
      | error e => rw [hrest] at h; cases h
      | ok rest =>
        rw [hrest] at h
        rw [← Except.ok.inj h, List.map_cons, ih hrest]
    | int | bool | list | map => cases h

/-- A map of texts that is read is the value of the field, or empty when there is none. -/
theorem get?_of_stringMap {entries : Dictionary String String}
    (h : attributes.stringMap field = .ok entries) :
    attributes.get? field = some (.ofStringMap entries) ∨
      attributes.get? field = none ∧ entries = [] := by
  unfold stringMap at h
  split at h
  · next hget => exact .inr ⟨hget, (Except.ok.inj h).symm⟩
  · next values hget => exact .inl (by rw [hget, eq_of_stringEntriesOf h]; rfl)
  · cases h

/-- A text that may be absent is read as it stands, the empty one as absent. -/
theorem optionalString_of_map {o : Option String} (h : attributes.get? field = o.map .string) :
    attributes.optionalString field = .ok (o.filter (· ≠ "")) := by
  unfold optionalString
  rw [h]
  cases o with
  | none => rfl
  | some s =>
    by_cases hs : s = "" <;> simp [hs, Option.filter_some]

/-- An empty text is left out of what is written. -/
theorem map_string_filter_eq_some {o : Option String} {v : Value} :
    some v = (o.filter (· ≠ "")).map .string ↔ some v = o.map .string ∧ v ≠ .string "" := by
  cases o with
  | none => simp
  | some s =>
    by_cases hs : s = ""
    · simp [Option.filter_some, hs]
    · have hne : v = .string s → v ≠ .string "" := by
        rintro rfl
        simpa using hs
      simpa [Option.filter_some, hs] using hne

/-- The entries that are read from a map have its keys. -/
theorem keys_stringEntriesOf {field : String} {entries : List (String × Value)}
    {read : Dictionary String String} (h : stringEntriesOf field entries = .ok read) :
    read.map Prod.fst = entries.map Prod.fst := by
  rw [eq_of_stringEntriesOf h, List.map_map]
  rfl

/-- A map that is read from well-formed attributes holds no key twice. -/
theorem stringMap_distinct {read : Dictionary String String} (hw : attributes.WellFormed)
    (h : attributes.stringMap field = .ok read) : read.Distinct := by
  unfold stringMap at h
  split at h
  · rw [← Except.ok.inj h]
    exact List.nodup_nil
  · next entries hget =>
    have hv := hw.values _ (Dictionary.mem_of_get? hget)
    cases hv with
    | map hd _ =>
      unfold Dictionary.Distinct Dictionary.keys
      rw [keys_stringEntriesOf h]
      exact hd
  · cases h

section NotImmutable

variable (attributes : Attributes) (field : String)

theorem notImmutable_optionalString : NotImmutable (attributes.optionalString field) := by
  unfold optionalString
  split <;> nofun

theorem notImmutable_requiredString : NotImmutable (attributes.requiredString field) := by
  unfold requiredString
  split
  · nofun
  · nofun
  · next e he =>
    intro k hk
    exact notImmutable_optionalString attributes field k
      (he.trans (congrArg Except.error (Except.error.inj hk)))

theorem notImmutable_optionalInt : NotImmutable (attributes.optionalInt field) := by
  unfold optionalInt
  split <;> nofun

theorem notImmutable_optionalBool : NotImmutable (attributes.optionalBool field) := by
  unfold optionalBool
  split <;> nofun

theorem notImmutable_stringList : NotImmutable (attributes.stringList field) := by
  have hitems : ∀ values, NotImmutable (stringsOf field values) := by
    intro values
    induction values with
    | nil => exact notImmutable_ok []
    | cons v values ih =>
      cases v with
      | string s => exact ih.map _
      | int | bool | list | map => nofun
  unfold stringList
  split
  · nofun
  · exact hitems _
  · nofun

theorem notImmutable_stringMap : NotImmutable (attributes.stringMap field) := by
  have hentries : ∀ values, NotImmutable (stringEntriesOf field values) := by
    intro values
    induction values with
    | nil => exact notImmutable_ok []
    | cons e values ih =>
      obtain ⟨k, v⟩ := e
      cases v with
      | string s => exact ih.map _
      | int | bool | list | map => nofun
  unfold stringMap
  split
  · nofun
  · exact hentries _
  · nofun

end NotImmutable

end Readers
end Attributes
end AzureProvisioning
