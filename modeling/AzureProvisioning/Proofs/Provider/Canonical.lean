/-
# Canonical attributes

Decoding forgets spelling: the case of selectors, the form of region names, repeated regions, empty
texts, attributes that no field is read from. What a decoded resource writes has nothing left to
forget. Decoding it gives the same resource, but for bounds that its level does not have, and that
one writes the same attributes again (`canonical_toAttributes`).

A region that carries no name, such as `-`, is the exception: it is written as an empty text, which
counts as absent when it is read. Then the first round loses the region, and the second one loses
nothing any more.
-/

import AzureProvisioning.Proofs.Account.Comparison
import AzureProvisioning.Proofs.Group.Attributes
import AzureProvisioning.Proofs.Provider.Creation

namespace AzureProvisioning

theorem filter_ne_empty_ne (o : Option String) : o.filter (· ≠ "") ≠ some "" := by
  intro h
  obtain ⟨-, hne⟩ := Option.filter_eq_some_iff.1 h
  simp at hne

namespace Account

variable {attributes : Attributes} {a : Account}

theorem Decodes.settled (h : Decodes attributes a) : a.Settled where
  write _ hw := h.normalize_writeRegion hw
  reads := Region.distinctNames_of_normal h.readRegions_nodup fun _ hr => h.normalize_readRegions hr

/-- What decoding gives is told by its attributes, unless its write region is empty. -/
theorem Decodes.told (h : Decodes attributes a) (hwrite : a.writeRegion ≠ some "") : a.Told where
  name := Attributes.requiredString_ne_empty h.name
  group := Attributes.requiredString_ne_empty h.group
  write := hwrite
  writeNormal := h.settled.write
  reads := h.settled.reads
  id := Attributes.optionalString_ne_empty h.id
  documentEndpoint := Attributes.optionalString_ne_empty h.documentEndpoint
  provisioningState := Attributes.optionalString_ne_empty h.provisioningState

/-- Any decoded account is read back from its attributes, without a write region that is empty. -/
theorem Decodes.toAttributes (h : Decodes attributes a) : Decodes a.toAttributes a.readBack :=
  decodes_readBack (Attributes.requiredString_ne_empty h.name)
    (Attributes.requiredString_ne_empty h.group) h.settled fun k _ => get?_toAttributes a k

theorem readBack_withoutIdleBounds (a : Account) : a.readBack.withoutIdleBounds = a.readBack := by
  by_cases h : a.consistencyLevel = some .boundedStaleness <;>
    simp [readBack, withoutIdleBounds, h]

end Account

namespace Group

variable {attributes : Attributes} {g : Group}

/-- What decoding gives is told by its attributes. -/
theorem Decodes.told (h : Decodes attributes g) : g.Told where
  name := Attributes.requiredString_ne_empty h.name
  location _ hl := h.normalize_location hl
  id := Attributes.optionalString_ne_empty h.id
  provisioningState := Attributes.optionalString_ne_empty h.provisioningState

theorem withoutBlankLocation_of_ne (h : g.location ≠ some "") : g.withoutBlankLocation = g := by
  rw [withoutBlankLocation, filter_ne_empty h]

end Group

namespace Provider

/-- The record without the bounds that its level does not have. -/
def ManagedType.withoutIdleBounds : (t : ManagedType) → t.Record → t.Record
  | account, a => Account.withoutIdleBounds a
  | group, g => g

/-- **Canonical attributes are a fixed point.** What a decoded resource writes is decoded to the same
resource, without bounds that its level does not have, and that one writes the same again. -/
theorem canonical_toAttributes (t : ManagedType) {attributes : Attributes} {r : t.Record}
    (h : Managed.ofAttributes attributes = .ok r)
    (hnamed : ∀ v, attributes.get? t.regionField = some (.string v) → v ≠ "" →
      Region.normalize v ≠ "") :
    Managed.ofAttributes (Managed.toAttributes r) = .ok (t.withoutIdleBounds r) ∧
      Managed.toAttributes (t.withoutIdleBounds r) = Managed.toAttributes r := by
  cases t with
  | account =>
    have hdecodes := Account.ofAttributes_eq_ok_iff.1 h
    have htold := hdecodes.told (hdecodes.writeRegion_ne_empty hnamed)
    exact ⟨Account.ofAttributes_toAttributes htold, Account.toAttributes_withoutIdleBounds r⟩
  | group =>
    have hdecodes := Group.ofAttributes_eq_ok_iff.1 h
    have hreread := Group.ofAttributes_toAttributes hdecodes.told
    rw [Group.withoutBlankLocation_of_ne (hdecodes.location_ne_empty hnamed)] at hreread
    exact ⟨hreread, rfl⟩

/-- An account in the caller's spelling, with bounds that its level does not have, one region twice,
an attribute of the service and one that no field is read from. -/
theorem canonical_toAttributes_spelled :
    let attributes : Attributes := [
      ("name", .string "acc"), ("resource_group", .string "rg"), ("kind", .string "Kind.mongodb"),
      ("consistency_level", .string "azure.Level.SESSION"), ("max_interval", .int 5),
      ("write_region", .string "East US 2"), ("provisioning_state", .string "Succeeded"),
      ("read_regions", .list [.string "azure.Region.west_europe", .string "West Europe"]),
      ("id", .string ""), ("tags", .map [("env", .string "prod")]), ("sku", .list [])]
    let read : Account := {
      name := "acc", group := "rg", kind := some .mongoDB, consistencyLevel := some .session,
      maxInterval := some 5, writeRegion := some "eastus2", readRegions := ["westeurope"],
      tags := [("env", "prod")], provisioningState := some "Succeeded" }
    Account.ofAttributes attributes = .ok read ∧
      Account.ofAttributes read.toAttributes = .ok { read with maxInterval := none } := by
  intro attributes read
  have hread : Account.ofAttributes attributes = .ok read := by decide +kernel
  have hnamed : ∀ v, attributes.get? "write_region" = some (.string v) → v ≠ "" →
      Region.normalize v ≠ "" := by
    intro v hv _
    have hregion : attributes.get? "write_region" = some (.string "East US 2") := rfl
    obtain rfl := Value.string.inj (Option.some.inj (hregion.symm.trans hv))
    decide
  exact ⟨hread, (canonical_toAttributes .account hread hnamed).1⟩

/-- Without that condition, what was read back once is a fixed point. -/
theorem canonical_reread (t : ManagedType) {attributes : Attributes} {r : t.Record}
    (h : Managed.ofAttributes attributes = .ok r) :
    ∃ r' : t.Record, Managed.ofAttributes (Managed.toAttributes r) = .ok r' ∧
      Managed.ofAttributes (Managed.toAttributes r') = .ok r' := by
  cases t with
  | account =>
    have hread := (Account.ofAttributes_eq_ok_iff.1 h).toAttributes
    have hagain := Account.ofAttributes_toAttributes (hread.told (filter_ne_empty_ne _))
    rw [Account.readBack_withoutIdleBounds] at hagain
    exact ⟨_, Account.ofAttributes_eq_ok_iff.2 hread, hagain⟩
  | group =>
    have hread := Group.ofAttributes_toAttributes (Group.ofAttributes_eq_ok_iff.1 h).told
    have hagain := Group.ofAttributes_toAttributes (Group.ofAttributes_eq_ok_iff.1 hread).told
    rw [Group.withoutBlankLocation_of_ne (g := Group.withoutBlankLocation r)
      (filter_ne_empty_ne _)] at hagain
    exact ⟨_, hread, hagain⟩

example :
    let read : Account := { name := "acc", group := "rg", writeRegion := some "" }
    Account.ofAttributes [("name", .string "acc"), ("resource_group", .string "rg"),
        ("write_region", .string "-")] = .ok read ∧
      Account.ofAttributes read.toAttributes = .ok { read with writeRegion := none } := by
  decide +kernel

end Provider
end AzureProvisioning
