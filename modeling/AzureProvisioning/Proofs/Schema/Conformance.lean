/-
# What a checked declaration holds

`AttributeType.Conforms` says which values have a type; the check of a type accepts exactly these
(`AttributeType.check_eq_ok_iff`). A declaration that a schema accepts holds under each name of the
schema only values of the type (`Schema.typed_of_check`), and all that is required
(`Schema.exists_of_required`).

The readers of attributes have types as well: each of them succeeds exactly when the field holds nothing
but a value of its type (`Attributes.exists_optionalString_iff` and its siblings). This is what the two
readings of a declaration, by schema and by field, have in common.
-/

import AzureProvisioning.Proofs.Plan
import Mathlib.Data.Set.List

namespace AzureProvisioning
namespace AttributeType

/-- The value has the type. -/
inductive Conforms : AttributeType → Value → Prop
  | string (s : String) : Conforms string (.string s)
  | int (i : Int64) : Conforms int (.int i)
  | bool (b : Bool) : Conforms bool (.bool b)
  | enum {variants : List String} {s v : String} (hv : v ∈ variants)
      (hs : Text.foldCase v = Text.foldCase (Text.lastPart s)) : Conforms (enum variants) (.string s)
  | custom {name : String} {base : AttributeType} {test : Value → Except String Unit} {v : Value}
      (hbase : Conforms base v) (htest : test v = .ok ()) : Conforms (custom name base test) v
  | list {item : AttributeType} {items : List Value} (h : ∀ v ∈ items, Conforms item v) :
      Conforms (list item) (.list items)
  | map {item : AttributeType} {entries : List (String × Value)}
      (h : ∀ e ∈ entries, Conforms item e.2) : Conforms (map item) (.map entries)

theorem selects_iff {variants : List String} {s : String} :
    selects variants s = true ↔
      ∃ v ∈ variants, Text.foldCase v = Text.foldCase (Text.lastPart s) := by
  simp only [selects, List.any_eq_true, Text.sameFolded_iff]

theorem checkItems_eq_ok_iff {check : Value → Except TypeError Unit} {items : List Value} (index : Nat) :
    checkItems check index items = .ok () ↔ ∀ v ∈ items, check v = .ok () := by
  induction items generalizing index with
  | nil => simp [checkItems]
  | cons v items ih =>
    rw [checkItems, List.forall_mem_cons]
    cases check v <;> simp [ih]

theorem checkEntries_eq_ok_iff {check : Value → Except TypeError Unit}
    {entries : List (String × Value)} :
    checkEntries check entries = .ok () ↔ ∀ e ∈ entries, check e.2 = .ok () := by
  induction entries with
  | nil => simp [checkEntries]
  | cons e entries ih =>
    rw [checkEntries, List.forall_mem_cons]
    cases check e.2 <;> simp [ih]

/-- **The check accepts the values of the type.** -/
theorem check_eq_ok_iff {t : AttributeType} {v : Value} : t.check v = .ok () ↔ t.Conforms v := by
  induction t generalizing v with
  | string =>
    cases v with
    | string s => exact ⟨fun _ => .string s, fun _ => rfl⟩
    | int | bool | list | map => exact ⟨nofun, nofun⟩
  | int =>
    cases v with
    | int i => exact ⟨fun _ => .int i, fun _ => rfl⟩
    | string | bool | list | map => exact ⟨nofun, nofun⟩
  | bool =>
    cases v with
    | bool b => exact ⟨fun _ => .bool b, fun _ => rfl⟩
    | string | int | list | map => exact ⟨nofun, nofun⟩
  | enum variants =>
    cases v with
    | string s =>
      have hok : (enum variants).check (.string s) = .ok () ↔ selects variants s = true := by
        rw [check]
        split <;> simp_all
      rw [hok, selects_iff]
      exact ⟨fun ⟨v, hv, hs⟩ => .enum hv hs, fun | .enum hv hs => ⟨_, hv, hs⟩⟩
    | int | bool | list | map => exact ⟨nofun, nofun⟩
  | custom name base test ih =>
    have hok : (custom name base test).check v = .ok () ↔ base.check v = .ok () ∧ test v = .ok () := by
      rw [check]
      cases base.check v with
      | error e => simp
      | ok => cases test v <;> simp
    rw [hok, ih]
    exact ⟨fun ⟨hbase, htest⟩ => .custom hbase htest, fun | .custom hbase htest => ⟨hbase, htest⟩⟩
  | list item ih =>
    cases v with
    | list items =>
      rw [check, checkItems_eq_ok_iff]
      exact ⟨fun h => .list fun v hv => ih.1 (h v hv), fun | .list h => fun v hv => ih.2 (h v hv)⟩
    | string | int | bool | map => exact ⟨nofun, nofun⟩
  | map item ih =>
    cases v with
    | map entries =>
      rw [check, checkEntries_eq_ok_iff]
      exact ⟨fun h => .map fun e he => ih.1 (h e he), fun | .map h => fun e he => ih.2 (h e he)⟩
    | string | int | bool | list => exact ⟨nofun, nofun⟩

theorem conforms_string_iff (v : Value) : string.Conforms v ↔ v ∈ Set.range Value.string :=
  ⟨fun | .string s => ⟨s, rfl⟩, fun ⟨s, hs⟩ => hs ▸ .string s⟩

theorem conforms_int_iff (v : Value) : int.Conforms v ↔ v ∈ Set.range Value.int :=
  ⟨fun | .int i => ⟨i, rfl⟩, fun ⟨i, hi⟩ => hi ▸ .int i⟩

theorem conforms_bool_iff (v : Value) : bool.Conforms v ↔ v ∈ Set.range Value.bool :=
  ⟨fun | .bool b => ⟨b, rfl⟩, fun ⟨b, hb⟩ => hb ▸ .bool b⟩

theorem conforms_strings_iff (v : Value) : strings.Conforms v ↔ v ∈ Set.range Value.ofStrings := by
  constructor
  · rintro (_ | _ | _ | _ | _ | h)
    obtain ⟨l, rfl⟩ : _ ∈ Set.range (List.map Value.string) := by
      rw [Set.range_list_map]
      exact fun v hv => (conforms_string_iff v).1 (h v hv)
    exact ⟨l, rfl⟩
  · rintro ⟨l, rfl⟩
    exact .list (List.forall_mem_map.2 fun s _ => .string s)

theorem conforms_stringMap_iff (v : Value) :
    stringMap.Conforms v ↔ v ∈ Set.range Value.ofStringMap := by
  constructor
  · rintro (_ | _ | _ | _ | _ | _ | h)
    obtain ⟨d, rfl⟩ : _ ∈ Set.range (List.map fun e : String × String => (e.1, Value.string e.2)) := by
      rw [Set.range_list_map]
      rintro ⟨k, v⟩ he
      obtain ⟨s, rfl⟩ := (conforms_string_iff v).1 (h _ he)
      exact ⟨(k, s), rfl⟩
    exact ⟨d, rfl⟩
  · rintro ⟨d, rfl⟩
    exact .map (List.forall_mem_map.2 fun e _ => .string e.2)

end AttributeType

/-- The field holds nothing, or a value of the type. -/
def Attributes.Typed (attributes : Attributes) (field : String) (t : AttributeType) : Prop :=
  ∀ v, attributes.get? field = some v → t.Conforms v

namespace Schema

variable {schema : Schema} {attributes : Attributes} {field : String} {a : AttributeSchema}

/-- An accepted declaration holds values of the schema's types. -/
theorem typed_of_check {t : AttributeType} (h : schema.check attributes = .ok ()) (field : String)
    (ha : schema.attributes.get? field = some a) (ht : a.type = t) : attributes.Typed field t := by
  intro v hv
  have hdefect := attributeDefect?_eq_none h (Dictionary.mem_of_get? hv)
  simp only [attributeDefect?, ha] at hdefect
  split at hdefect
  · cases hdefect
  · split at hdefect
    · next hok => exact ht ▸ AttributeType.check_eq_ok_iff.1 hok
    · cases hdefect

/-- An accepted declaration holds what is required, if nothing stands for it. -/
theorem exists_of_required (h : schema.check attributes = .ok ())
    (ha : schema.attributes.get? field = some a) (hrequired : a.required = true)
    (hdefault : a.default? = none) : ∃ v, attributes.get? field = some v := by
  have hdeclared := List.filterMap_eq_nil_iff.1 (check_eq_ok_iff.1 h).1 (field, a)
    (Dictionary.mem_of_get? ha)
  rw [← Option.isSome_iff_exists, ← Dictionary.contains]
  simpa [hrequired, hdefault] using hdeclared

end Schema

namespace Attributes

variable {attributes : Attributes} {field : String}

theorem Typed.of_custom {name : String} {base : AttributeType} {test : Value → Except String Unit}
    (h : attributes.Typed field (.custom name base test)) : attributes.Typed field base :=
  fun v hv => match h v hv with | .custom hbase _ => hbase

/-- What the test of a type refuses is not under a name of this type. -/
theorem Typed.ne_of_refused {name : String} {base : AttributeType} {test : Value → Except String Unit}
    (h : attributes.Typed field (.custom name base test)) {v : Value} (hv : test v ≠ .ok ()) :
    attributes.get? field ≠ some v :=
  fun hget => match h v hget with | .custom _ htest => hv htest

theorem Typed.of_enum {variants : List String} (h : attributes.Typed field (.enum variants)) :
    attributes.Typed field .string :=
  fun v hv => match h v hv with | .enum _ _ => .string _

/-- A field of a type whose values are written in one way holds nothing, or something so written. -/
theorem typed_iff {α : Type} {t : AttributeType} {write : α → Value}
    (ht : ∀ v, t.Conforms v ↔ v ∈ Set.range write) :
    attributes.Typed field t ↔ ∃ o : Option α, attributes.get? field = o.map write := by
  unfold Typed
  constructor
  · intro h
    cases hget : attributes.get? field with
    | none => exact ⟨none, rfl⟩
    | some v =>
      obtain ⟨x, rfl⟩ := (ht v).1 (h v hget)
      exact ⟨some x, rfl⟩
  · rintro ⟨o, ho⟩ v hv
    obtain ⟨x, -, hx⟩ := Option.map_eq_some_iff.1 (ho.symm.trans hv)
    exact (ht v).2 ⟨x, hx⟩

/-- A text is read from a field of texts. -/
theorem exists_optionalString_iff :
    (∃ o, attributes.optionalString field = .ok o) ↔ attributes.Typed field .string := by
  rw [typed_iff AttributeType.conforms_string_iff]
  constructor
  · rintro ⟨o, h⟩
    unfold optionalString at h
    split at h
    · next hget => exact ⟨none, hget⟩
    · next s hget => exact ⟨some s, hget⟩
    · cases h
  · rintro ⟨o, h⟩
    exact ⟨_, optionalString_of_map h⟩

/-- A text that has to be there is read when it is there and not empty. -/
theorem exists_requiredString_iff :
    (∃ s, attributes.requiredString field = .ok s) ↔
      ∃ s, attributes.get? field = some (.string s) ∧ s ≠ "" :=
  ⟨fun ⟨s, h⟩ => ⟨s, get?_of_requiredString h, requiredString_ne_empty h⟩,
    fun ⟨s, hget, hne⟩ => ⟨s, requiredString_of_get? hget hne⟩⟩

/-- A number is read from a field of numbers. -/
theorem exists_optionalInt_iff :
    (∃ o, attributes.optionalInt field = .ok o) ↔ attributes.Typed field .int := by
  rw [typed_iff AttributeType.conforms_int_iff]
  exact ⟨fun ⟨o, h⟩ => ⟨o, get?_of_optionalInt h⟩, fun ⟨o, h⟩ => ⟨o, optionalInt_of_get? h⟩⟩

/-- A truth value is read from a field of truth values. -/
theorem exists_optionalBool_iff :
    (∃ o, attributes.optionalBool field = .ok o) ↔ attributes.Typed field .bool := by
  rw [typed_iff AttributeType.conforms_bool_iff]
  refine ⟨fun ⟨o, h⟩ => ⟨o, get?_of_optionalBool h⟩, fun ⟨o, h⟩ => ⟨o, ?_⟩⟩
  rw [optionalBool, h]
  cases o <;> rfl

/-- Texts are read from a field of lists of texts. -/
theorem exists_stringList_iff :
    (∃ l, attributes.stringList field = .ok l) ↔ attributes.Typed field .strings := by
  rw [typed_iff AttributeType.conforms_strings_iff]
  constructor
  · rintro ⟨l, h⟩
    obtain hget | ⟨hget, -⟩ := get?_of_stringList h
    · exact ⟨some l, hget⟩
    · exact ⟨none, hget⟩
  · rintro ⟨_ | l, hget⟩
    · exact ⟨[], by rw [stringList, hget]; rfl⟩
    · exact ⟨l, stringList_of_get? hget⟩

/-- Texts by key are read from a field of maps of texts. -/
theorem exists_stringMap_iff :
    (∃ d, attributes.stringMap field = .ok d) ↔ attributes.Typed field .stringMap := by
  rw [typed_iff AttributeType.conforms_stringMap_iff]
  constructor
  · rintro ⟨d, h⟩
    obtain hget | ⟨hget, -⟩ := get?_of_stringMap h
    · exact ⟨some d, hget⟩
    · exact ⟨none, hget⟩
  · rintro ⟨_ | d, hget⟩
    · exact ⟨[], by rw [stringMap, hget]; rfl⟩
    · exact ⟨d, stringMap_of_get? hget⟩

end Attributes

/-- A required text of an accepted declaration is read, unless it is empty. -/
theorem Schema.exists_requiredString {schema : Schema} {attributes : Attributes} {field : String}
    {a : AttributeSchema} (h : schema.check attributes = .ok ())
    (ha : schema.attributes.get? field = some a) (hrequired : a.required = true)
    (hdefault : a.default? = none) (htyped : attributes.Typed field .string)
    (hne : attributes.get? field ≠ some (.string "")) :
    ∃ s, attributes.requiredString field = .ok s := by
  obtain ⟨v, hv⟩ := exists_of_required h ha hrequired hdefault
  obtain ⟨s, rfl⟩ := (AttributeType.conforms_string_iff v).1 (htyped v hv)
  refine Attributes.exists_requiredString_iff.2 ⟨s, hv, ?_⟩
  rintro rfl
  exact hne hv

end AzureProvisioning
