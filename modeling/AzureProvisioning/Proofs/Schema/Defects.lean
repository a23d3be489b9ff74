/-
# What a check reports

A check that refuses a value gives an error that leads to a part of the value and says what is wrong
there. `AttributeType.Fails` says which errors are right about a value: of a list the error leads to the
first item that has not the type, of a map to some entry. Only values that have not the type fail
(`Fails.not_conforms`), and what a check reports is right (`fails_of_check`).

A schema reports one defect for each attribute that has one, sorted by text, and no others
(`Schema.defects_exact`).
-/

import AzureProvisioning.Account.Name
import AzureProvisioning.Proofs.Schema.Conformance
import AzureProvisioning.Proofs.StableOrder

namespace AzureProvisioning
namespace AttributeType

/-- The shape of the values of a type. A type with a test of its own leaves it to the type beneath. -/
def shape? : AttributeType → Option String
  | string => some "String"
  | int => some "Int"
  | bool => some "Bool"
  | enum _ => some "String"
  | custom _ _ _ => none
  | list _ => some "List"
  | map _ => some "Map"

/-- The error is right about a value that has not the type. -/
inductive Fails : AttributeType → Value → TypeError → Prop
  | mismatch {t : AttributeType} {v : Value} {shape : String} (ht : t.shape? = some shape)
      (hv : v.typeName ≠ shape) : Fails t v (.mismatch t.name v.typeName)
  | unknownVariant {variants : List String} {s : String}
      (h : ∀ v ∈ variants, Text.foldCase v ≠ Text.foldCase (Text.lastPart s)) :
      Fails (enum variants) (.string s) (.unknownVariant s variants)
  | base {name : String} {base : AttributeType} {test : Value → Except String Unit} {v : Value}
      {e : TypeError} (h : Fails base v e) : Fails (custom name base test) v e
  | refused {name : String} {base : AttributeType} {test : Value → Except String Unit} {v : Value}
      {detail : String} (hbase : base.Conforms v) (htest : test v = .error detail) :
      Fails (custom name base test) v (.refused detail)
  /-- All items before this one have the type. -/
  | ofItem {item : AttributeType} {items : List Value} {index : Nat} {v : Value} {e : TypeError}
      (hv : items[index]? = some v) (hbefore : ∀ w ∈ items.take index, Conforms item w)
      (h : Fails item v e) : Fails (list item) (.list items) (.ofItem index e)
  | ofEntry {item : AttributeType} {entries : List (String × Value)} {k : String} {v : Value}
      {e : TypeError} (hv : (k, v) ∈ entries) (h : Fails item v e) :
      Fails (map item) (.map entries) (.ofEntry k e)

variable {t : AttributeType} {v : Value} {e : TypeError}

theorem Conforms.typeName_eq {shape : String} (h : t.Conforms v) (ht : t.shape? = some shape) :
    v.typeName = shape := by
  cases h <;> first | exact Option.some.inj ht | cases ht

/-- A value that fails has not the type. -/
theorem Fails.not_conforms (h : t.Fails v e) : ¬ t.Conforms v := by
  induction h with
  | mismatch ht hv => exact fun hc => hv (hc.typeName_eq ht)
  | unknownVariant h => exact fun | .enum hv hs => h _ hv hs
  | base _ ih => exact fun | .custom hbase _ => ih hbase
  | refused _ htest => exact fun | .custom _ hok => nomatch htest.symm.trans hok
  | ofItem hv _ _ ih => exact fun | .list h => ih (h _ (List.mem_of_getElem? hv))
  | ofEntry hv _ ih => exact fun | .map h => ih (h _ hv)

/-- The items of a list are refused for the first of them that is. -/
theorem checkItems_eq_error_iff {check : Value → Except TypeError Unit} {items : List Value}
    (start : Nat) :
    checkItems check start items = .error e ↔
      ∃ index v inner, items[index]? = some v ∧ (∀ w ∈ items.take index, check w = .ok ()) ∧
        check v = .error inner ∧ e = .ofItem (start + index) inner := by
  induction items generalizing start with
  | nil => simp [checkItems]
  | cons w items ih =>
    rw [checkItems]
    cases hw : check w with
    | ok =>
      simp only [ih]
      constructor
      · rintro ⟨index, v, inner, hv, hbefore, herror, rfl⟩
        refine ⟨index + 1, v, inner, by simpa using hv, ?_, herror, by rw [Nat.add_right_comm]; rfl⟩
        rw [List.take_succ_cons, List.forall_mem_cons]
        exact ⟨hw, hbefore⟩
      · rintro ⟨_ | index, v, inner, hv, hbefore, herror, rfl⟩
        · obtain rfl : w = v := by simpa using hv
          cases hw.symm.trans herror
        · rw [List.take_succ_cons, List.forall_mem_cons] at hbefore
          exact ⟨index, v, inner, by simpa using hv, hbefore.2, herror, by rw [Nat.add_right_comm]; rfl⟩
    | error inner =>
      constructor
      · intro h
        exact ⟨0, w, inner, rfl, by simp, hw, (Except.error.inj h).symm⟩
      · rintro ⟨_ | index, v, inner', hv, hbefore, herror, rfl⟩
        · obtain rfl : w = v := by simpa using hv
          rw [Except.error.inj (hw.symm.trans herror)]
          rfl
        · rw [List.take_succ_cons, List.forall_mem_cons] at hbefore
          cases hw.symm.trans hbefore.1

theorem exists_of_checkEntries_eq_error {check : Value → Except TypeError Unit}
    {entries : List (String × Value)} (h : checkEntries check entries = .error e) :
    ∃ k v inner, (k, v) ∈ entries ∧ check v = .error inner ∧ e = .ofEntry k inner := by
  induction entries with
  | nil => cases h
  | cons f entries ih =>
    obtain ⟨k, w⟩ := f
    rw [checkEntries] at h
    cases hw : check w with
    | ok =>
      rw [hw] at h
      obtain ⟨k', v, inner, hv, hrest⟩ := ih h
      exact ⟨k', v, inner, List.mem_cons_of_mem _ hv, hrest⟩
    | error inner =>
      rw [hw] at h
      exact ⟨k, w, inner, List.mem_cons_self, hw, (Except.error.inj h).symm⟩

/-- **What a check reports is right**, at any depth. -/
theorem fails_of_check (h : t.check v = .error e) : t.Fails v e := by
  induction t generalizing v e with
  | string =>
    cases v with
    | string => cases h
    | int | bool | list | map => cases h; exact .mismatch rfl (by simp [Value.typeName])
  | int =>
    cases v with
    | int => cases h
    | string | bool | list | map => cases h; exact .mismatch rfl (by simp [Value.typeName])
  | bool =>
    cases v with
    | bool => cases h
    | string | int | list | map => cases h; exact .mismatch rfl (by simp [Value.typeName])
  | enum variants =>
    cases v with
    | string s =>
      rw [check] at h
      split at h
      · cases h
      · next hnone =>
        cases h
        refine .unknownVariant fun v hv hs => hnone ?_
        exact selects_iff.2 ⟨v, hv, hs⟩
    | int | bool | list | map => cases h; exact .mismatch rfl (by simp [Value.typeName])
  | custom name base test ih =>
    rw [check] at h
    cases hbase : base.check v with
    | error inner =>
      rw [hbase] at h
      cases h
      exact .base (ih hbase)
    | ok =>
      rw [hbase] at h
      cases htest : test v with
      | ok => simp [htest] at h
      | error detail =>
        simp only [htest] at h
        cases h
        exact .refused (check_eq_ok_iff.1 hbase) htest
  | list item ih =>
    cases v with
    | list items =>
      rw [check, checkItems_eq_error_iff] at h
      obtain ⟨index, v, inner, hv, hbefore, herror, rfl⟩ := h
      rw [Nat.zero_add]
      exact .ofItem hv (fun w hw => check_eq_ok_iff.1 (hbefore w hw)) (ih herror)
    | string | int | bool | map => cases h; exact .mismatch rfl (by simp [Value.typeName])
  | map item ih =>
    cases v with
    | map entries =>
      obtain ⟨k, v, inner, hv, herror, rfl⟩ := exists_of_checkEntries_eq_error h
      exact .ofEntry hv (ih herror)
    | string | int | bool | list => cases h; exact .mismatch rfl (by simp [Value.typeName])

theorem exists_check_eq_error (h : ¬ t.Conforms v) : ∃ e, t.check v = .error e := by
  cases hcheck : t.check v with
  | ok => exact absurd (check_eq_ok_iff.1 hcheck) h
  | error e => exact ⟨e, rfl⟩

/-- The error about a value is a defect of the field of the value. -/
theorem Fails.field_eq (h : t.Fails v e) (field : String) :
    (ConfigurationError.ofTypeError field e).field = field := by
  induction h with
  | base _ ih => exact ih
  | mismatch | unknownVariant | refused | ofItem | ofEntry => rfl

end AttributeType

/-- The attribute that a defect is about. -/
def TypeError.attribute? : TypeError → Option String
  | missing name => some name
  | readOnly name => some name
  | ofAttribute name _ => some name
  | _ => none

namespace Schema

variable {schema : Schema} {attributes : Attributes} {name : String} {v : Value} {d : TypeError}

/-- Something is wrong with the attribute: it is required and omitted, with nothing to stand for it; the
service assigns it, and it is declared; or its value has not the type. -/
inductive Defective (schema : Schema) (attributes : Attributes) (name : String) : Prop
  | missing {a : AttributeSchema} (ha : schema.attributes.get? name = some a) (hrequired : a.required = true)
      (hdefault : a.default? = none) (homitted : attributes.get? name = none)
  | readOnly {a : AttributeSchema} {v : Value} (ha : schema.attributes.get? name = some a)
      (hv : attributes.get? name = some v) (hassigned : a.mutability = .output)
  | illTyped {a : AttributeSchema} {v : Value} (ha : schema.attributes.get? name = some a)
      (hv : attributes.get? name = some v) (htype : ¬ a.type.Conforms v)

/-- What is reported of an attribute is right. -/
inductive Reports (schema : Schema) (attributes : Attributes) (name : String) : TypeError → Prop
  | missing {a : AttributeSchema} (ha : schema.attributes.get? name = some a) (hrequired : a.required = true)
      (hdefault : a.default? = none) (homitted : attributes.get? name = none) :
      Reports schema attributes name (.missing name)
  | readOnly {a : AttributeSchema} {v : Value} (ha : schema.attributes.get? name = some a)
      (hv : attributes.get? name = some v) (hassigned : a.mutability = .output) :
      Reports schema attributes name (.readOnly name)
  | ofAttribute {a : AttributeSchema} {v : Value} {e : TypeError}
      (ha : schema.attributes.get? name = some a) (hv : attributes.get? name = some v)
      (hassigned : a.mutability ≠ .output) (h : a.type.Fails v e) :
      Reports schema attributes name (.ofAttribute name e)

/-- All that is required is declared, nothing that the service assigns is, and what is declared has the
type that the schema gives it. -/
structure Accepts (schema : Schema) (attributes : Attributes) : Prop where
  required : ∀ name a, schema.attributes.get? name = some a → a.required = true → a.default? = none →
    ∃ v, attributes.get? name = some v
  assigned : ∀ name a, schema.attributes.get? name = some a → a.mutability = .output →
    attributes.get? name = none
  typed : ∀ name a, schema.attributes.get? name = some a → attributes.Typed name a.type

/-- A declaration is as the schema asks for when nothing is wrong with any attribute. -/
theorem accepts_iff : schema.Accepts attributes ↔ ∀ name, ¬ schema.Defective attributes name := by
  constructor
  · rintro h name (⟨ha, hrequired, hdefault, homitted⟩ | ⟨ha, hv, hassigned⟩ | ⟨ha, hv, htype⟩)
    · obtain ⟨v, hv⟩ := h.required name _ ha hrequired hdefault
      cases homitted.symm.trans hv
    · cases (h.assigned name _ ha hassigned).symm.trans hv
    · exact htype (h.typed name _ ha _ hv)
  · intro h
    refine ⟨fun name a ha hrequired hdefault => ?_, fun name a ha hassigned => ?_,
      fun name a ha v hv => ?_⟩
    · cases hv : attributes.get? name with
      | none => exact absurd (.missing ha hrequired hdefault hv) (h name)
      | some v => exact ⟨v, rfl⟩
    · cases hv : attributes.get? name with
      | none => rfl
      | some v => exact absurd (.readOnly ha hv hassigned) (h name)
    · exact Classical.byContradiction fun htype => h name (.illTyped ha hv htype)

theorem Reports.attribute?_eq (h : schema.Reports attributes name d) : d.attribute? = some name := by
  cases h <;> rfl

theorem Reports.defective (h : schema.Reports attributes name d) : schema.Defective attributes name := by
  cases h with
  | missing ha hrequired hdefault homitted => exact .missing ha hrequired hdefault homitted
  | readOnly ha hv hassigned => exact .readOnly ha hv hassigned
  | ofAttribute ha hv _ h => exact .illTyped ha hv h.not_conforms

/-- The defect, reported on its own, is one of the attribute. -/
theorem Reports.field_eq (h : schema.Reports attributes name d) (field : String) :
    (ConfigurationError.ofTypeError field d).field = name := by
  cases h with
  | missing | readOnly => rfl
  | ofAttribute _ _ _ h => exact h.field_eq name

theorem mem_missingDefects_iff (hschema : schema.attributes.Distinct) :
    d ∈ schema.missingDefects attributes ↔ ∃ name a, schema.attributes.get? name = some a ∧
      a.required = true ∧ a.default? = none ∧ attributes.get? name = none ∧ d = .missing name := by
  rw [missingDefects, List.mem_filterMap]
  constructor
  · rintro ⟨⟨name, a⟩, ha, h⟩
    obtain ⟨hcond, h⟩ := Option.ite_none_right_eq_some.1 h
    simp only [Bool.and_eq_true, Bool.not_eq_true', Dictionary.contains, Option.isNone_iff_eq_none,
      Option.isSome_eq_false_iff] at hcond
    obtain ⟨⟨hrequired, homitted⟩, hdefault⟩ := hcond
    exact ⟨name, a, Dictionary.get?_of_mem hschema ha, hrequired, hdefault, homitted,
      (Option.some.inj h).symm⟩
  · rintro ⟨name, a, ha, hrequired, hdefault, homitted, rfl⟩
    refine ⟨(name, a), Dictionary.mem_of_get? ha, ?_⟩
    simp [hrequired, hdefault, homitted, Dictionary.contains]

theorem attributeDefect?_eq_some_iff :
    schema.attributeDefect? name v = some d ↔ ∃ a, schema.attributes.get? name = some a ∧
      (a.mutability = .output ∧ d = .readOnly name ∨
        a.mutability ≠ .output ∧ ∃ e, a.type.check v = .error e ∧ d = .ofAttribute name e) := by
  rw [attributeDefect?]
  cases schema.attributes.get? name with
  | none => simp
  | some a =>
    simp only [Option.some.injEq, exists_eq_left']
    by_cases hassigned : a.mutability = .output
    · simp [hassigned, @eq_comm _ _ d]
    · rw [if_neg hassigned]
      cases a.type.check v <;> simp [hassigned, @eq_comm _ _ d]

theorem attribute?_of_attributeDefect? {v : Value} (h : schema.attributeDefect? name v = some d) :
    d.attribute? = some name := by
  obtain ⟨a, -, ⟨-, rfl⟩ | ⟨-, e, -, rfl⟩⟩ := attributeDefect?_eq_some_iff.1 h <;> rfl

/-- The defects of what is declared, in the order of the declaration. -/
def declaredDefects (schema : Schema) (attributes : Attributes) : List TypeError :=
  attributes.filterMap fun e => schema.attributeDefect? e.1 e.2

theorem mem_declaredDefects_iff (hattributes : attributes.Distinct) :
    d ∈ schema.declaredDefects attributes ↔
      ∃ name v, attributes.get? name = some v ∧ schema.attributeDefect? name v = some d := by
  rw [declaredDefects, List.mem_filterMap]
  constructor
  · rintro ⟨⟨name, v⟩, he, h⟩
    exact ⟨name, v, Dictionary.get?_of_mem hattributes he, h⟩
  · rintro ⟨name, v, hv, h⟩
    exact ⟨(name, v), Dictionary.mem_of_get? hv, h⟩

theorem defects_perm :
    (schema.defects attributes).Perm
      (schema.missingDefects attributes ++ schema.declaredDefects attributes) :=
  List.mergeSort_perm _ _

/-- What is picked from entries, with the keys of the entries, has the keys once when the entries have. -/
theorem nodup_attribute? {α : Type} {entries : Dictionary String α} {pick : String × α → Option TypeError}
    (hd : entries.Distinct) (hpick : ∀ e d, pick e = some d → d.attribute? = some e.1) :
    ((entries.filterMap pick).filterMap TypeError.attribute?).Nodup := by
  rw [List.filterMap_filterMap]
  refine List.Pairwise.filterMap _ ?_ (List.pairwise_map.1 hd)
  intro e f hne k hk l hl
  obtain ⟨d, hd, hkey⟩ := Option.bind_eq_some_iff.1 hk
  obtain ⟨c, hc, hkey'⟩ := Option.bind_eq_some_iff.1 hl
  rwa [← Option.some.inj ((hpick e d hd).symm.trans hkey),
    ← Option.some.inj ((hpick f c hc).symm.trans hkey')]

section Exact

variable (hschema : schema.attributes.Distinct) (hattributes : attributes.Distinct)
include hschema hattributes

theorem mem_defects_iff :
    d ∈ schema.defects attributes ↔
      (∃ name a, schema.attributes.get? name = some a ∧ a.required = true ∧ a.default? = none ∧
        attributes.get? name = none ∧ d = .missing name) ∨
      ∃ name v, attributes.get? name = some v ∧ schema.attributeDefect? name v = some d := by
  rw [defects_perm.mem_iff, List.mem_append, mem_missingDefects_iff hschema,
    mem_declaredDefects_iff hattributes]

/-- Each report is right about an attribute. -/
theorem exists_reports_of_mem (h : d ∈ schema.defects attributes) :
    ∃ name, schema.Reports attributes name d := by
  obtain ⟨name, a, ha, hrequired, hdefault, homitted, rfl⟩ | ⟨name, v, hv, hdefect⟩ :=
    (mem_defects_iff hschema hattributes).1 h
  · exact ⟨name, .missing ha hrequired hdefault homitted⟩
  · obtain ⟨a, ha, ⟨hassigned, rfl⟩ | ⟨hassigned, e, hcheck, rfl⟩⟩ := attributeDefect?_eq_some_iff.1 hdefect
    · exact ⟨name, .readOnly ha hv hassigned⟩
    · exact ⟨name, .ofAttribute ha hv hassigned (AttributeType.fails_of_check hcheck)⟩

/-- Each attribute with which something is wrong is reported. -/
theorem exists_mem_of_defective (h : schema.Defective attributes name) :
    ∃ d ∈ schema.defects attributes, d.attribute? = some name := by
  simp only [mem_defects_iff hschema hattributes]
  cases h with
  | missing ha hrequired hdefault homitted =>
    exact ⟨_, .inl ⟨name, _, ha, hrequired, hdefault, homitted, rfl⟩, rfl⟩
  | readOnly ha hv hassigned =>
    exact ⟨_, .inr ⟨name, _, hv, attributeDefect?_eq_some_iff.2 ⟨_, ha, .inl ⟨hassigned, rfl⟩⟩⟩, rfl⟩
  | @illTyped a v ha hv htype =>
    by_cases hassigned : a.mutability = .output
    · exact ⟨_, .inr ⟨name, v, hv, attributeDefect?_eq_some_iff.2 ⟨a, ha, .inl ⟨hassigned, rfl⟩⟩⟩, rfl⟩
    · obtain ⟨e, hcheck⟩ := AttributeType.exists_check_eq_error htype
      exact ⟨_, .inr ⟨name, v, hv, attributeDefect?_eq_some_iff.2
        ⟨a, ha, .inr ⟨hassigned, e, hcheck, rfl⟩⟩⟩, rfl⟩

/-- The attributes that are reported are those with which something is wrong. -/
theorem mem_attributes_iff :
    name ∈ (schema.defects attributes).filterMap TypeError.attribute? ↔
      schema.Defective attributes name := by
  rw [List.mem_filterMap]
  constructor
  · rintro ⟨d, hd, hname⟩
    obtain ⟨name', h⟩ := exists_reports_of_mem hschema hattributes hd
    rw [← Option.some.inj (h.attribute?_eq.symm.trans hname)]
    exact h.defective
  · exact exists_mem_of_defective hschema hattributes

/-- No attribute is reported twice. -/
theorem nodup_attributes : ((schema.defects attributes).filterMap TypeError.attribute?).Nodup := by
  rw [(defects_perm.filterMap _).nodup_iff, List.filterMap_append, List.nodup_append]
  refine ⟨nodup_attribute? hschema fun e d h => ?_, nodup_attribute? hattributes fun e d h => ?_, ?_⟩
  · rw [← Option.some.inj (Option.ite_none_right_eq_some.1 h).2]
    rfl
  · exact attribute?_of_attributeDefect? h
  · -- what is missing is not declared
    rintro name hmissing _ hdeclared rfl
    obtain ⟨d, hd, hname⟩ := List.mem_filterMap.1 hmissing
    obtain ⟨c, hc, hname'⟩ := List.mem_filterMap.1 hdeclared
    obtain ⟨k, a, -, -, -, homitted, rfl⟩ := (mem_missingDefects_iff hschema).1 hd
    obtain ⟨l, v, hv, hdefect⟩ := (mem_declaredDefects_iff hattributes).1 hc
    obtain rfl := Option.some.inj hname
    obtain rfl := Option.some.inj ((attribute?_of_attributeDefect? hdefect).symm.trans hname')
    cases homitted.symm.trans hv

theorem defects_eq_nil_iff : schema.defects attributes = [] ↔ schema.Accepts attributes := by
  rw [accepts_iff, List.eq_nil_iff_forall_not_mem]
  constructor
  · intro h name hdefective
    obtain ⟨d, hd, -⟩ := exists_mem_of_defective hschema hattributes hdefective
    exact h d hd
  · intro h d hd
    obtain ⟨name, hreports⟩ := exists_reports_of_mem hschema hattributes hd
    exact h name hreports.defective

/-- **A check is exact.** A declaration is accepted exactly when all that is required is declared, nothing
that the service assigns is, and all values have their types. Otherwise the defects are in ascending
order of their texts, each of them is right about an attribute, at any depth of its value, and each
attribute with which something is wrong has one. The error of a check is that of the first defect, and
names the attribute with which something is wrong. -/
theorem defects_exact :
    (schema.defects attributes = [] ↔ schema.Accepts attributes) ∧
    (schema.check attributes = .ok () ↔ schema.Accepts attributes) ∧
    ((schema.defects attributes).Pairwise fun d e => d.message ≤ e.message) ∧
    (∀ d ∈ schema.defects attributes, ∃ name, schema.Reports attributes name d) ∧
    ((schema.defects attributes).filterMap TypeError.attribute?).Nodup ∧
    (∀ name, name ∈ (schema.defects attributes).filterMap TypeError.attribute? ↔
      schema.Defective attributes name) ∧
    ∀ e, schema.check attributes = .error e →
      schema.Defective attributes e.field ∧
        ∃ d rest, schema.defects attributes = d :: rest ∧ d.attribute? = some e.field := by
  have hnil := defects_eq_nil_iff hschema hattributes
  have hsorted : StableOrder TypeError.message _ (schema.defects attributes) :=
    stableOrder_mergeSort TypeError.message _
  refine ⟨hnil, ?_, hsorted.ascending, fun d => exists_reports_of_mem hschema hattributes,
    nodup_attributes hschema hattributes, fun name => mem_attributes_iff hschema hattributes,
    fun e he => ?_⟩
  · rw [← hnil, check]
    cases schema.defects attributes <;> simp
  · cases hdefects : schema.defects attributes with
    | nil => simp [check, hdefects] at he
    | cons d rest =>
      obtain ⟨name, hreports⟩ := exists_reports_of_mem hschema hattributes
        (hdefects ▸ List.mem_cons_self : d ∈ schema.defects attributes)
      rw [check, hdefects] at he
      obtain rfl := Except.error.inj he
      rw [hreports.field_eq]
      exact ⟨hreports.defective, d, rest, rfl, hreports.attribute?_eq⟩

end Exact

/-- A missing name, an assigned attribute, an item of an item and an entry that have not their types; one
attribute is outside the schema, and one has a default. -/
theorem defects_exact_nested :
    let schema : Schema := .ofList "palette" none [
      { name := "name", type := AccountName.type, required := true },
      { name := "id", type := .string, mutability := .output },
      { name := "grid", type := .list (.list .int) },
      { name := "labels", type := .map (.enum ["Red", "Green"]) },
      { name := "size", type := .int, required := true, default? := some (.int 1) }]
    let attributes : Attributes := [
      ("labels", .map [("a", .string "Color.RED"), ("b", .string "blue")]), ("id", .string "x"),
      ("grid", .list [.list [.int 1], .list [.int 2, .bool true, .string "x"], .int 3]),
      ("note", .bool true)]
    let reported : List TypeError := [
      .ofAttribute "grid" (.ofItem 1 (.ofItem 1 (.mismatch "Int" "Bool"))), .readOnly "id",
      .ofAttribute "labels" (.ofEntry "b" (.unknownVariant "blue" ["Red", "Green"])),
      .missing "name"]
    schema.attributes.Distinct ∧ attributes.Distinct ∧ schema.defects attributes = reported ∧
      ¬ schema.Accepts attributes ∧ schema.Defective attributes "labels" := by
  intro schema attributes reported
  have hschema : schema.attributes.Distinct := by decide
  have hattributes : attributes.Distinct := by decide
  obtain ⟨haccepts, -, hsorted, -, -, hdefective, -⟩ := defects_exact hschema hattributes
  have hperm : (schema.defects attributes).Perm reported := defects_perm.trans (by decide)
  have htexts : ∀ d ∈ reported, ∀ e ∈ reported, d.message = e.message → d = e := by decide
  have hdefects : schema.defects attributes = reported :=
    hperm.eq_of_pairwise (fun d e hd he hde hed =>
      htexts d (hperm.subset hd) e he (String.le_antisymm hde hed)) hsorted (by decide)
  refine ⟨hschema, hattributes, hdefects, fun h => ?_, (hdefective "labels").1 ?_⟩
  · exact List.cons_ne_nil _ _ (hdefects.symm.trans (haccepts.2 h))
  · rw [hdefects]
    decide

end Schema
end AzureProvisioning
