/-
# Checked declarations are decoded

A declaration is read twice: a schema checks it attribute by attribute, and the record of its type is
read from it field by field. The second reading never stumbles over what the first one lets pass
(`decoded_of_checked`), with one exception: the name of an account's resource group may be empty for the
schema, which asks for a text only, and not for the record.

Selectors are read twice as well. Both readings take the part of the text after its last dot, in any
letter case, and know the same names, which no letter case makes equal (`Text.find?_sameFolded_iff`).
-/

import AzureProvisioning.Proofs.Account.Attributes
import AzureProvisioning.Proofs.Group.Attributes
import AzureProvisioning.Proofs.Schema.Conformance

namespace AzureProvisioning

/-- When no letter case makes two names equal, a search by name finds what has the name. -/
theorem Text.find?_sameFolded_iff {α : Type} {all : List α} {name : α → String} {a : α} {s : String}
    (hinj : ∀ a ∈ all, ∀ b ∈ all, foldCase (name a) = foldCase (name b) → a = b) (ha : a ∈ all) :
    (all.find? fun b => sameFolded (name b) s) = some a ↔ foldCase (name a) = foldCase s := by
  have hfound : ∀ b, (all.find? fun b => sameFolded (name b) s) = some b →
      foldCase (name b) = foldCase s := fun b hb => by
    simpa only [sameFolded_iff] using List.find?_some hb
  constructor
  · exact hfound a
  · intro h
    cases hfind : all.find? fun b => sameFolded (name b) s with
    | none =>
      exact absurd (sameFolded_iff.2 h) (List.find?_eq_none.1 hfind a ha)
    | some b =>
      have hname := (hfound b hfind).trans h.symm
      rw [hinj b (List.mem_of_find?_eq_some hfind) a ha hname]

theorem AttributeType.check_enum_iff {α : Type} {all : List α} {name : α → String} {s : String} :
    (enum (all.map name)).check (.string s) = .ok () ↔
      ∃ a ∈ all, Text.foldCase (name a) = Text.foldCase (Text.lastPart s) := by
  rw [check_eq_ok_iff]
  constructor
  · rintro (_ | _ | _ | ⟨hv, hs⟩)
    obtain ⟨a, ha, rfl⟩ := List.mem_map.1 hv
    exact ⟨a, ha, hs⟩
  · exact fun ⟨a, ha, hs⟩ => .enum (List.mem_map_of_mem ha) hs

namespace AccountKind

theorem mem_all (k : AccountKind) : k ∈ all := by
  cases k <;> decide

theorem foldCase_name_inj :
    ∀ k ∈ all, ∀ l ∈ all, Text.foldCase k.name = Text.foldCase l.name → k = l := by
  decide

/-- A text selects the data model that its last part names. -/
theorem parse_eq_ok_iff {s : String} {k : AccountKind} :
    parse s = .ok k ↔ Text.foldCase k.name = Text.foldCase (Text.lastPart s) := by
  rw [← Text.find?_sameFolded_iff foldCase_name_inj (mem_all k), parse]
  cases all.find? fun k => Text.sameFolded k.name (Text.lastPart s) <;> simp

/-- The schema knows the data models that can be selected. -/
theorem check_names_iff {s : String} :
    (AttributeType.enum names).check (.string s) = .ok () ↔ ∃ k, parse s = .ok k := by
  simp only [names, AttributeType.check_enum_iff, parse_eq_ok_iff, mem_all, true_and]

end AccountKind

namespace ConsistencyLevel

theorem mem_all (l : ConsistencyLevel) : l ∈ all := by
  cases l <;> decide

theorem foldCase_name_inj :
    ∀ k ∈ all, ∀ l ∈ all, Text.foldCase k.name = Text.foldCase l.name → k = l := by
  decide

/-- A text selects the level that its last part names. -/
theorem parse_eq_ok_iff {s : String} {l : ConsistencyLevel} :
    parse s = .ok l ↔ Text.foldCase l.name = Text.foldCase (Text.lastPart s) := by
  rw [← Text.find?_sameFolded_iff foldCase_name_inj (mem_all l), parse, ofName?]
  cases all.find? fun l => Text.sameFolded l.name (Text.lastPart s) <;> simp

/-- The schema knows the levels that can be selected. -/
theorem check_names_iff {s : String} :
    (AttributeType.enum names).check (.string s) = .ok () ↔ ∃ l, parse s = .ok l := by
  simp only [names, AttributeType.check_enum_iff, parse_eq_ok_iff, mem_all, true_and]

end ConsistencyLevel

namespace Account

variable {attributes : Attributes}

/-- A selector that the schema knows is read. -/
theorem exists_selected {α : Type} {parse : String → Except ConfigurationError α} {field : String}
    {names : List String}
    (hparse : ∀ s, (AttributeType.enum names).check (.string s) = .ok () → ∃ x, parse s = .ok x)
    (h : attributes.Typed field (.enum names)) :
    ∃ x o, attributes.optionalString field = .ok o ∧ selected parse o = .ok x := by
  obtain ⟨o, ho⟩ := Attributes.exists_optionalString_iff.2 h.of_enum
  cases o with
  | none => exact ⟨none, none, ho, rfl⟩
  | some s =>
    have hs := h _ (Attributes.get?_of_optionalString ho)
    obtain ⟨x, hx⟩ := hparse s (AttributeType.check_eq_ok_iff.2 hs)
    exact ⟨some x, some s, ho, by rw [selected, hx]; rfl⟩

/-- An account is decoded from a checked declaration, unless its resource group has no name. -/
theorem exists_ofAttributes_iff (h : schema.check attributes = .ok ()) :
    (∃ a, ofAttributes attributes = .ok a) ↔
      attributes.get? "resource_group" ≠ some (.string "") := by
  constructor
  · rintro ⟨a, ha⟩ hempty
    have hgroup := (ofAttributes_eq_ok_iff.1 ha).group
    have hget := Attributes.get?_of_requiredString hgroup
    rw [hempty] at hget
    exact Attributes.requiredString_ne_empty hgroup (Value.string.inj (Option.some.inj hget)).symm
  · intro hgroup
    have htyped : attributes.Typed "name" AccountName.type := Schema.typed_of_check h "name" rfl rfl
    obtain ⟨name, hname⟩ := Schema.exists_requiredString h rfl rfl rfl htyped.of_custom
      (htyped.ne_of_refused nofun)
    obtain ⟨group, hgroup⟩ := Schema.exists_requiredString h rfl rfl rfl
      (Schema.typed_of_check h "resource_group" rfl rfl) hgroup
    obtain ⟨kind, hkind⟩ := exists_selected (fun _ => AccountKind.check_names_iff.1)
      (Schema.typed_of_check h "kind" rfl rfl)
    obtain ⟨level, hlevel⟩ := exists_selected (fun _ => ConsistencyLevel.check_names_iff.1)
      (Schema.typed_of_check h "consistency_level" rfl rfl)
    obtain ⟨interval, hinterval⟩ :=
      Attributes.exists_optionalInt_iff.2 (Schema.typed_of_check h "max_interval" rfl rfl)
    obtain ⟨staleness, hstaleness⟩ :=
      Attributes.exists_optionalInt_iff.2 (Schema.typed_of_check h "max_staleness_prefix" rfl rfl)
    obtain ⟨ips, hips⟩ :=
      Attributes.exists_stringList_iff.2 (Schema.typed_of_check h "ip_range_filter" rfl rfl)
    obtain ⟨rules, hrules⟩ :=
      Attributes.exists_stringList_iff.2 (Schema.typed_of_check h "virtual_network_rules" rfl rfl)
    obtain ⟨write, hwrite⟩ :=
      Attributes.exists_optionalString_iff.2 (Schema.typed_of_check h "write_region" rfl rfl)
    obtain ⟨reads, hreads⟩ :=
      Attributes.exists_stringList_iff.2 (Schema.typed_of_check h "read_regions" rfl rfl)
    obtain ⟨failover, hfailover⟩ :=
      Attributes.exists_optionalBool_iff.2 (Schema.typed_of_check h "enable_automatic_failover" rfl rfl)
    obtain ⟨tags, htags⟩ := Attributes.exists_stringMap_iff.2 (Schema.typed_of_check h "tags" rfl rfl)
    obtain ⟨id, hid⟩ := Attributes.exists_optionalString_iff.2 (Schema.typed_of_check h "id" rfl rfl)
    obtain ⟨endpoint, hendpoint⟩ :=
      Attributes.exists_optionalString_iff.2 (Schema.typed_of_check h "document_endpoint" rfl rfl)
    obtain ⟨state, hstate⟩ :=
      Attributes.exists_optionalString_iff.2 (Schema.typed_of_check h "provisioning_state" rfl rfl)
    let decoded : Account :=
      { name, group, kind, consistencyLevel := level, maxInterval := interval,
        maxStalenessPrefix := staleness, ipRangeFilter := ips, networkRules := rules,
        writeRegion := write.map Region.normalize, readRegions := Region.distinctNames reads,
        automaticFailover := failover.getD false, tags, id, documentEndpoint := endpoint,
        provisioningState := state }
    have hdecodes : Decodes attributes decoded :=
      { kind := hkind, level := hlevel, name := hname, group := hgroup, maxInterval := hinterval,
        maxStalenessPrefix := hstaleness, ipRangeFilter := hips, networkRules := hrules,
        writeRegion := ⟨write, hwrite, rfl⟩, readRegions := ⟨reads, hreads, rfl⟩,
        automaticFailover := ⟨failover, hfailover, rfl⟩, tags := htags, id := hid,
        documentEndpoint := hendpoint, provisioningState := hstate }
    exact ⟨decoded, ofAttributes_eq_ok_iff.2 hdecodes⟩

end Account

namespace Group

variable {attributes : Attributes}

/-- A group is decoded from a checked declaration. -/
theorem exists_ofAttributes (h : schema.check attributes = .ok ()) :
    ∃ g, ofAttributes attributes = .ok g := by
  have htyped : attributes.Typed "name" GroupName.type := Schema.typed_of_check h "name" rfl rfl
  obtain ⟨name, hname⟩ := Schema.exists_requiredString h rfl rfl rfl htyped.of_custom
    (htyped.ne_of_refused nofun)
  obtain ⟨location, hlocation⟩ :=
    Attributes.exists_optionalString_iff.2 (Schema.typed_of_check h "location" rfl rfl)
  obtain ⟨tags, htags⟩ := Attributes.exists_stringMap_iff.2 (Schema.typed_of_check h "tags" rfl rfl)
  obtain ⟨id, hid⟩ := Attributes.exists_optionalString_iff.2 (Schema.typed_of_check h "id" rfl rfl)
  obtain ⟨state, hstate⟩ :=
    Attributes.exists_optionalString_iff.2 (Schema.typed_of_check h "provisioning_state" rfl rfl)
  let decoded : Group :=
    { name, location := location.map Region.normalize, tags, id, provisioningState := state }
  have hdecodes : Decodes attributes decoded :=
    { name := hname, location := ⟨location, hlocation, rfl⟩, tags := htags, id := hid,
      provisioningState := hstate }
  exact ⟨decoded, ofAttributes_eq_ok_iff.2 hdecodes⟩

end Group

namespace Provider

/-- **A checked declaration is decoded.** What the schema of accounts accepts is read as an account
unless the resource group has no name, and what the schema of groups accepts is read as a group. The
selectors that the schema accepts are just those that are read: the texts whose last part names a data
model, or a level, in any letter case. -/
theorem decoded_of_checked :
    (∀ attributes, Account.schema.check attributes = .ok () →
      ((∃ a, Account.ofAttributes attributes = .ok a) ↔
        attributes.get? "resource_group" ≠ some (.string ""))) ∧
    (∀ attributes, Group.schema.check attributes = .ok () →
      ∃ g, Group.ofAttributes attributes = .ok g) ∧
    (∀ s, ((AttributeType.enum AccountKind.names).check (.string s) = .ok () ↔
        ∃ k, AccountKind.parse s = .ok k) ∧
      ∀ k, AccountKind.parse s = .ok k ↔
        Text.foldCase k.name = Text.foldCase (Text.lastPart s)) ∧
    ∀ s, ((AttributeType.enum ConsistencyLevel.names).check (.string s) = .ok () ↔
        ∃ l, ConsistencyLevel.parse s = .ok l) ∧
      ∀ l, ConsistencyLevel.parse s = .ok l ↔
        Text.foldCase l.name = Text.foldCase (Text.lastPart s) :=
  ⟨fun _ => Account.exists_ofAttributes_iff, fun _ => Group.exists_ofAttributes,
    fun _ => ⟨AccountKind.check_names_iff, fun _ => AccountKind.parse_eq_ok_iff⟩,
    fun _ => ⟨ConsistencyLevel.check_names_iff, fun _ => ConsistencyLevel.parse_eq_ok_iff⟩⟩

/-- Selectors in other spellings, an empty region and an attribute that no field is read from. -/
theorem decoded_of_checked_spelled :
    let account : Attributes := [
      ("name", .string "orders"), ("resource_group", .string "rg"), ("kind", .string "Kind.MONGODB"),
      ("consistency_level", .string "a.b.session"), ("max_interval", .int (-1)),
      ("write_region", .string ""), ("read_regions", .list []), ("note", .bool true)]
    let group : Attributes := [("name", .string "rg"), ("tags", .map [("env", .string "")])]
    (Account.schema.check account = .ok () ∧ account.get? "resource_group" ≠ some (.string "") ∧
      ∃ a, Account.ofAttributes account = .ok a) ∧
    Group.schema.check group = .ok () ∧ ∃ g, Group.ofAttributes group = .ok g := by
  intro account group
  obtain ⟨haccount, hgroup, -⟩ := decoded_of_checked
  have hcheck : Account.schema.check account = .ok () := Schema.check_eq_ok_iff.2 (by decide)
  have hnamed : account.get? "resource_group" ≠ some (.string "") := by
    simp [account, Dictionary.get?_cons]
  have hcheck' : Group.schema.check group = .ok () := Schema.check_eq_ok_iff.2 (by decide)
  exact ⟨⟨hcheck, hnamed, (haccount account hcheck).2 hnamed⟩, hcheck', hgroup group hcheck'⟩

end Provider
end AzureProvisioning
