/-
# Accounts and their attributes

`Account.Decodes` lists what each field of an account is read from; decoding succeeds with an
account exactly when it is the account of that list (`ofAttributes_eq_ok_iff`).

An account whose texts are not empty and whose regions are in programmatic form is read back from
its own attributes, except for bounds that its level does not have (`ofAttributes_toAttributes`).
-/

import AzureProvisioning.Account.Record
import AzureProvisioning.Proofs.Attributes
import AzureProvisioning.Proofs.Region

namespace AzureProvisioning

theorem AccountKind.parse_name (k : AccountKind) : AccountKind.parse k.name = .ok k := by
  cases k <;> decide +kernel

theorem ConsistencyLevel.ofName?_name (l : ConsistencyLevel) :
    ConsistencyLevel.ofName? l.name = some l := by
  cases l <;> decide +kernel

theorem ConsistencyLevel.parse_name (l : ConsistencyLevel) :
    ConsistencyLevel.parse l.name = .ok l := by
  cases l <;> decide +kernel

namespace Account

/-- The names of the fields of an account, in order. -/
def fieldNames : List String :=
  ["name", "resource_group", "kind", "consistency_level", "max_interval", "max_staleness_prefix",
    "ip_range_filter", "virtual_network_rules", "write_region", "read_regions",
    "enable_automatic_failover", "tags", "id", "document_endpoint", "provisioning_state"]

theorem map_fst_fields (a : Account) : a.fields.map Prod.fst = fieldNames := rfl

theorem nodup_fields (a : Account) : (a.fields.map Prod.fst).Nodup := by
  rw [map_fst_fields]
  decide

theorem get?_toAttributes (a : Account) (k : String) :
    a.toAttributes.get? k = (a.fields.lookup k).join :=
  Attributes.get?_ofSet a.nodup_fields k

theorem toAttributes_distinct (a : Account) : a.toAttributes.Distinct :=
  Attributes.ofSet_distinct a.nodup_fields

/-- What each field of the account is read from. -/
structure Decodes (attributes : Attributes) (a : Account) : Prop where
  kind : ∃ o, attributes.optionalString "kind" = .ok o ∧ selected AccountKind.parse o = .ok a.kind
  level : ∃ o, attributes.optionalString "consistency_level" = .ok o ∧
    selected ConsistencyLevel.parse o = .ok a.consistencyLevel
  name : attributes.requiredString "name" = .ok a.name
  group : attributes.requiredString "resource_group" = .ok a.group
  maxInterval : attributes.optionalInt "max_interval" = .ok a.maxInterval
  maxStalenessPrefix : attributes.optionalInt "max_staleness_prefix" = .ok a.maxStalenessPrefix
  ipRangeFilter : attributes.stringList "ip_range_filter" = .ok a.ipRangeFilter
  networkRules : attributes.stringList "virtual_network_rules" = .ok a.networkRules
  writeRegion : ∃ o, attributes.optionalString "write_region" = .ok o ∧
    a.writeRegion = o.map Region.normalize
  readRegions : ∃ l, attributes.stringList "read_regions" = .ok l ∧
    a.readRegions = Region.distinctNames l
  automaticFailover : ∃ o, attributes.optionalBool "enable_automatic_failover" = .ok o ∧
    a.automaticFailover = o.getD false
  tags : attributes.stringMap "tags" = .ok a.tags
  id : attributes.optionalString "id" = .ok a.id
  documentEndpoint : attributes.optionalString "document_endpoint" = .ok a.documentEndpoint
  provisioningState : attributes.optionalString "provisioning_state" = .ok a.provisioningState

/-- **Decoding, field by field.** -/
theorem ofAttributes_eq_ok_iff {attributes : Attributes} {a : Account} :
    ofAttributes attributes = .ok a ↔ Decodes attributes a := by
  constructor
  · intro h
    simp only [ofAttributes, bind_eq_ok] at h
    obtain ⟨okind, hkind, kind, hkind', olevel, hlevel, level, hlevel', name, hname, group, hgroup,
      interval, hinterval, staleness, hstaleness, ips, hips, rules, hrules, write, hwrite, reads,
      hreads, failover, hfailover, tags, htags, id, hid, endpoint, hendpoint, state, hstate, h⟩ := h
    rw [← Except.ok.inj h]
    exact ⟨⟨okind, hkind, hkind'⟩, ⟨olevel, hlevel, hlevel'⟩, hname, hgroup, hinterval, hstaleness,
      hips, hrules, ⟨write, hwrite, rfl⟩, ⟨reads, hreads, rfl⟩, ⟨failover, hfailover, rfl⟩, htags, hid,
      hendpoint, hstate⟩
  · rintro ⟨⟨okind, hkind, hkind'⟩, ⟨olevel, hlevel, hlevel'⟩, hname, hgroup, hinterval, hstaleness,
      hips, hrules, ⟨write, hwrite, hwrite'⟩, ⟨reads, hreads, hreads'⟩,
      ⟨failover, hfailover, hfailover'⟩, htags, hid, hendpoint, hstate⟩
    simp only [ofAttributes, bind_eq_ok]
    refine ⟨okind, hkind, _, hkind', olevel, hlevel, _, hlevel', _, hname, _, hgroup, _, hinterval, _,
      hstaleness, _, hips, _, hrules, write, hwrite, reads, hreads, failover, hfailover, _, htags, _, hid,
      _, hendpoint, _, hstate, ?_⟩
    rw [← hwrite', ← hreads', ← hfailover']
    rfl

namespace Decodes

variable {attributes : Attributes} {a : Account}

/-- Regions are read in programmatic form. -/
theorem normalize_writeRegion (h : Decodes attributes a) {w : String} (hw : a.writeRegion = some w) :
    Region.normalize w = w := by
  obtain ⟨o, -, ho⟩ := h.writeRegion
  obtain ⟨v, -, rfl⟩ := Option.map_eq_some_iff.1 (ho.symm.trans hw)
  exact Region.normalize_normalize v

theorem normalize_readRegions (h : Decodes attributes a) {r : String} (hr : r ∈ a.readRegions) :
    Region.normalize r = r := by
  obtain ⟨l, -, hl⟩ := h.readRegions
  exact Region.normalize_of_mem_distinctNames (hl ▸ hr)

theorem readRegions_nodup (h : Decodes attributes a) : a.readRegions.Nodup := by
  obtain ⟨l, -, hl⟩ := h.readRegions
  exact hl ▸ Region.distinctNames_nodup l

/-- The write region is empty only when the declared one carries no region name. -/
theorem writeRegion_ne_empty (h : Decodes attributes a)
    (hnamed : ∀ v, attributes.get? "write_region" = some (.string v) → v ≠ "" →
      Region.normalize v ≠ "") : a.writeRegion ≠ some "" := by
  intro hw
  obtain ⟨o, hread, ho⟩ := h.writeRegion
  obtain ⟨v, rfl, hv⟩ := Option.map_eq_some_iff.1 (ho.symm.trans hw)
  have hne : v ≠ "" := by simpa using Attributes.optionalString_ne_empty hread
  exact hnamed v (Attributes.get?_of_optionalString hread) hne hv

/-- A read region is empty only when a declared one carries no region name. -/
theorem readRegions_ne_empty (h : Decodes attributes a)
    (hnamed : ∀ items, attributes.stringList "read_regions" = .ok items →
      ∀ v ∈ items, Region.normalize v ≠ "") {r : String} (hr : r ∈ a.readRegions) : r ≠ "" := by
  obtain ⟨items, hitems, hl⟩ := h.readRegions
  obtain ⟨v, hv, rfl⟩ := Region.mem_distinctNames.1 (hl ▸ hr)
  exact hnamed items hitems v hv

end Decodes

/-- The account without bounds that its level does not have. -/
def withoutIdleBounds (a : Account) : Account :=
  { a with
    maxInterval := if a.consistencyLevel = some .boundedStaleness then a.maxInterval else none
    maxStalenessPrefix :=
      if a.consistencyLevel = some .boundedStaleness then a.maxStalenessPrefix else none }

/-- The account as it is read from its attributes: an empty text counts as absent. -/
def readBack (a : Account) : Account :=
  { a.withoutIdleBounds with
    writeRegion := a.writeRegion.filter (· ≠ "")
    id := a.id.filter (· ≠ "")
    documentEndpoint := a.documentEndpoint.filter (· ≠ "")
    provisioningState := a.provisioningState.filter (· ≠ "") }

/-- The regions are in programmatic form, the read regions each once. -/
structure Settled (a : Account) : Prop where
  write : ∀ w, a.writeRegion = some w → Region.normalize w = w
  reads : Region.distinctNames a.readRegions = a.readRegions

/-- **An account with settled regions is read from any attributes that hold its fields.** -/
theorem decodes_readBack {attributes : Attributes} {a : Account} (hname : a.name ≠ "")
    (hgroup : a.group ≠ "") (h : a.Settled)
    (hget : ∀ k ∈ fieldNames, attributes.get? k = (a.fields.lookup k).join) :
    Decodes attributes a.readBack := by
  constructor
  case kind =>
    refine ⟨a.kind.map AccountKind.name, Attributes.optionalString_of_get? ?_ ?_, ?_⟩
    · rw [hget "kind" (by decide), Option.map_map]; rfl
    · cases hk : a.kind with
      | none => simp
      | some k => cases k <;> decide
    · cases hk : a.kind with
      | none => simp [selected, readBack, withoutIdleBounds, hk]
      | some k =>
        simp [selected, readBack, withoutIdleBounds, hk, AccountKind.parse_name, Except.map]
  case level =>
    refine ⟨a.consistencyLevel.map ConsistencyLevel.name, Attributes.optionalString_of_get? ?_ ?_, ?_⟩
    · rw [hget "consistency_level" (by decide), Option.map_map]; rfl
    · cases hl : a.consistencyLevel with
      | none => simp
      | some l => cases l <;> decide
    · cases hl : a.consistencyLevel with
      | none => simp [selected, readBack, withoutIdleBounds, hl]
      | some l =>
        simp [selected, readBack, withoutIdleBounds, hl, ConsistencyLevel.parse_name, Except.map]
  case name => exact Attributes.requiredString_of_get? (hget _ (by decide)) hname
  case group => exact Attributes.requiredString_of_get? (hget _ (by decide)) hgroup
  case maxInterval =>
    refine Attributes.optionalInt_of_get? ((hget _ (by decide)).trans ?_)
    by_cases hl : a.consistencyLevel = some .boundedStaleness <;>
      simp [fields, declaredFields, readBack, withoutIdleBounds, hl, List.lookup_cons]
  case maxStalenessPrefix =>
    refine Attributes.optionalInt_of_get? ((hget _ (by decide)).trans ?_)
    by_cases hl : a.consistencyLevel = some .boundedStaleness <;>
      simp [fields, declaredFields, readBack, withoutIdleBounds, hl, List.lookup_cons]
  case ipRangeFilter => exact Attributes.stringList_of_get? (hget _ (by decide))
  case networkRules => exact Attributes.stringList_of_get? (hget _ (by decide))
  case writeRegion =>
    refine ⟨_, Attributes.optionalString_of_map (hget _ (by decide)), ?_⟩
    cases hw : a.writeRegion with
    | none => simp [readBack, hw]
    | some w => by_cases hne : w = "" <;> simp [readBack, hw, hne, Option.filter_some, h.write w hw]
  case readRegions =>
    exact ⟨a.readRegions, Attributes.stringList_of_get? (hget _ (by decide)), h.reads.symm⟩
  case automaticFailover =>
    exact ⟨some a.automaticFailover, Attributes.optionalBool_of_get? (hget _ (by decide)), rfl⟩
  case tags => exact Attributes.stringMap_of_get? (hget _ (by decide))
  case id => exact Attributes.optionalString_of_map (hget _ (by decide))
  case documentEndpoint => exact Attributes.optionalString_of_map (hget _ (by decide))
  case provisioningState => exact Attributes.optionalString_of_map (hget _ (by decide))

/-- An account that its attributes tell: no text that would count as absent, and regions in
programmatic form, each once. -/
structure Told (a : Account) : Prop where
  name : a.name ≠ ""
  group : a.group ≠ ""
  write : a.writeRegion ≠ some ""
  writeNormal : ∀ w, a.writeRegion = some w → Region.normalize w = w
  reads : Region.distinctNames a.readRegions = a.readRegions
  id : a.id ≠ some ""
  documentEndpoint : a.documentEndpoint ≠ some ""
  provisioningState : a.provisioningState ≠ some ""

theorem Told.readBack {a : Account} (h : a.Told) : a.readBack = a.withoutIdleBounds := by
  rw [Account.readBack, filter_ne_empty h.write, filter_ne_empty h.id,
    filter_ne_empty h.documentEndpoint, filter_ne_empty h.provisioningState]
  rfl

theorem decodes_toAttributes {a : Account} (h : a.Told) :
    Decodes a.toAttributes a.withoutIdleBounds :=
  h.readBack ▸ decodes_readBack h.name h.group ⟨h.writeNormal, h.reads⟩ fun k _ => get?_toAttributes a k

/-- **An account is read back from its attributes**, without bounds that its level does not have. -/
theorem ofAttributes_toAttributes {a : Account} (h : a.Told) :
    ofAttributes a.toAttributes = .ok a.withoutIdleBounds :=
  ofAttributes_eq_ok_iff.2 (decodes_toAttributes h)

end Account
end AzureProvisioning
