/-
# Groups and their attributes

`Group.Decodes` lists what each field of a group is read from. A group is read back from its own
attributes (`ofAttributes_toAttributes`), and does not differ from another one with its name, its
tags and, where it has one, its location (`changed_eq_nil`).
-/

import AzureProvisioning.Group.Record
import AzureProvisioning.Proofs.Plan
import AzureProvisioning.Proofs.Region

namespace AzureProvisioning
namespace Group

/-- The names of the fields of a group, in order. -/
def fieldNames : List String :=
  ["name", "location", "tags", "id", "provisioning_state"]

theorem map_fst_fields (g : Group) : g.fields.map Prod.fst = fieldNames := rfl

theorem nodup_fields (g : Group) : (g.fields.map Prod.fst).Nodup := by
  rw [map_fst_fields]
  decide

theorem get?_toAttributes (g : Group) (k : String) :
    g.toAttributes.get? k = (g.fields.lookup k).join :=
  Attributes.get?_ofSet g.nodup_fields k

theorem toAttributes_distinct (g : Group) : g.toAttributes.Distinct :=
  Attributes.ofSet_distinct g.nodup_fields

/-- What each field of the group is read from. -/
structure Decodes (attributes : Attributes) (g : Group) : Prop where
  name : attributes.requiredString "name" = .ok g.name
  location : ∃ o, attributes.optionalString "location" = .ok o ∧ g.location = o.map Region.normalize
  tags : attributes.stringMap "tags" = .ok g.tags
  id : attributes.optionalString "id" = .ok g.id
  provisioningState : attributes.optionalString "provisioning_state" = .ok g.provisioningState

/-- **Decoding, field by field.** -/
theorem ofAttributes_eq_ok_iff {attributes : Attributes} {g : Group} :
    ofAttributes attributes = .ok g ↔ Decodes attributes g := by
  constructor
  · intro h
    simp only [ofAttributes, bind_eq_ok] at h
    obtain ⟨name, hname, location, hlocation, tags, htags, id, hid, state, hstate, h⟩ := h
    rw [← Except.ok.inj h]
    exact ⟨hname, ⟨location, hlocation, rfl⟩, htags, hid, hstate⟩
  · rintro ⟨hname, ⟨location, hlocation, hlocation'⟩, htags, hid, hstate⟩
    simp only [ofAttributes, bind_eq_ok]
    refine ⟨_, hname, location, hlocation, _, htags, _, hid, _, hstate, ?_⟩
    rw [← hlocation']
    rfl

namespace Decodes

variable {attributes : Attributes} {g : Group}

/-- The location is read in programmatic form. -/
theorem normalize_location (h : Decodes attributes g) {l : String} (hl : g.location = some l) :
    Region.normalize l = l := by
  obtain ⟨o, -, ho⟩ := h.location
  obtain ⟨v, -, rfl⟩ := Option.map_eq_some_iff.1 (ho.symm.trans hl)
  exact Region.normalize_normalize v

/-- The location is empty only when the declared one carries no region name. -/
theorem location_ne_empty (h : Decodes attributes g)
    (hnamed : ∀ v, attributes.get? "location" = some (.string v) → v ≠ "" →
      Region.normalize v ≠ "") : g.location ≠ some "" := by
  intro hl
  obtain ⟨o, hread, ho⟩ := h.location
  obtain ⟨v, rfl, hv⟩ := Option.map_eq_some_iff.1 (ho.symm.trans hl)
  have hne : v ≠ "" := by simpa using Attributes.optionalString_ne_empty hread
  exact hnamed v (Attributes.get?_of_optionalString hread) hne hv

end Decodes

/-- The group without a location that counts as absent. -/
def withoutBlankLocation (g : Group) : Group :=
  { g with location := g.location.filter (· ≠ "") }

/-- Its attributes are attributes of the group. -/
theorem get?_of_withoutBlankLocation {g : Group} {k : String} {v : Value}
    (h : g.withoutBlankLocation.toAttributes.get? k = some v) : g.toAttributes.get? k = some v := by
  refine Dictionary.get?_of_mem g.toAttributes_distinct (Attributes.mem_ofSet.2 ?_)
  have hmem := Attributes.mem_ofSet.1 (Dictionary.mem_of_get? h)
  rcases List.mem_append.1 hmem with hd | ha
  · refine List.mem_append_left _ ?_
    simp only [declaredFields, List.mem_cons, List.not_mem_nil, or_false, Prod.mk.injEq] at hd ⊢
    rcases hd with hname | ⟨hk, hl⟩ | htags
    · exact .inl hname
    · obtain ⟨l, hfiltered, rfl⟩ := Option.map_eq_some_iff.1 hl.symm
      obtain ⟨hlocation, -⟩ := Option.filter_eq_some_iff.1 hfiltered
      exact .inr (.inl ⟨hk, by rw [hlocation, Option.map_some]⟩)
    · exact .inr (.inr htags)
  · exact List.mem_append_right _ ha

/-- A group that its attributes tell: no text that would count as absent, and a location in
programmatic form. -/
structure Told (g : Group) : Prop where
  name : g.name ≠ ""
  location : ∀ l, g.location = some l → Region.normalize l = l
  id : g.id ≠ some ""
  provisioningState : g.provisioningState ≠ some ""

theorem optionalString_location {g : Group} :
    g.toAttributes.optionalString "location" = .ok (g.location.filter (· ≠ "")) :=
  Attributes.optionalString_of_map (get?_toAttributes g "location")

/-- **A group is read back from its attributes**, without a location that is empty. -/
theorem ofAttributes_toAttributes {g : Group} (h : g.Told) :
    ofAttributes g.toAttributes = .ok g.withoutBlankLocation := by
  have hget := get?_toAttributes g
  refine ofAttributes_eq_ok_iff.2 ⟨Attributes.requiredString_of_get? (hget _) h.name,
    ⟨_, optionalString_location, ?_⟩, Attributes.stringMap_of_get? (hget _),
    Attributes.optionalString_of_get? (hget _) h.id,
    Attributes.optionalString_of_get? (hget _) h.provisioningState⟩
  cases hl : g.location with
  | none => simp [withoutBlankLocation, hl]
  | some l =>
    by_cases hblank : l = ""
    · simp [withoutBlankLocation, hl, hblank, Option.filter_some]
    · simp [withoutBlankLocation, hl, hblank, h.location l hl, Option.filter_some]

/-- The attributes of a group that stand for something when they are omitted. -/
theorem implied_mem : ∀ e ∈ schema.attributes, e.2.implied?.isSome = true → e.1 = "tags" := by
  decide +kernel

theorem withDefaults_toAttributes (g : Group) :
    schema.withDefaults g.toAttributes = g.toAttributes := by
  refine Schema.withDefaults_of_contains fun e he hi => ?_
  rw [Dictionary.contains, get?_toAttributes, implied_mem e he (Option.isSome_iff_ne_none.2 hi)]
  rfl

/-- What the service assigns is not compared. -/
theorem compares_assigned : ∀ f ∈ ["id", "provisioning_state"], Plan.compares schema f = false := by
  decide +kernel

theorem compares_declared (g : Group) : ∀ e ∈ g.declaredFields, Plan.compares schema e.1 = true := by
  have hnames : ∀ f ∈ fieldNames.take 3, Plan.compares schema f = true := by decide +kernel
  have hmap : g.declaredFields.map Prod.fst = fieldNames.take 3 := rfl
  intro e he
  exact hnames e.1 (hmap ▸ List.mem_map_of_mem he)

/-- Every attribute of an accepted declaration is compared. -/
theorem compares_of_mem {attributes : Attributes} {g : Group}
    (hcheck : schema.check attributes = .ok ()) (h : ofAttributes attributes = .ok g) {e : String × Value} (he : e ∈ g.toAttributes) :
    Plan.compares schema e.1 = true := by
  have hdecodes := ofAttributes_eq_ok_iff.1 h
  rcases List.mem_append.1 (Attributes.mem_ofSet.1 he) with hd | ha
  · exact compares_declared g (e.1, some e.2) hd
  · simp only [assignedFields, List.mem_cons, List.not_mem_nil, or_false, Prod.mk.injEq] at ha
    exfalso
    rcases ha with ⟨-, ha⟩ | ⟨-, ha⟩ <;> obtain ⟨s, hs, -⟩ := Option.map_eq_some_iff.1 ha.symm
    · exact Schema.optionalString_ne_some hcheck (by decide +kernel) s (hs ▸ hdecodes.id)
    · exact Schema.optionalString_ne_some hcheck (by decide +kernel) s
        (hs ▸ hdecodes.provisioningState)

theorem mutability?_of_mem_fieldNames : ∀ f ∈ fieldNames, schema.mutability? f ≠ none := by
  decide +kernel

/-- What differs between a declared group and another one can be updated. -/
theorem updatable_of_mem_changed {desired : Group} {current : Attributes} {names : List String}
    (h : Plan.changed schema desired.toAttributes current = .ok names) {f : String}
    (hf : f ∈ names) : schema.mutability? f = some .updatable := by
  refine Plan.updatable_of_mem_changed h (fun e he => ?_) hf
  rw [withDefaults_toAttributes] at he
  refine mutability?_of_mem_fieldNames e.1 ?_
  rw [← map_fst_fields desired]
  exact List.mem_map_of_mem (Attributes.mem_ofSet.1 he)

/-- So whatever differs is something to write. -/
theorem any_updatable_of_changed {desired : Group} {current : Attributes} {names : List String}
    (h : Plan.changed schema desired.toAttributes current = .ok names) (hne : names ≠ []) :
    (names.any fun f => schema.mutability? f = some .updatable) = true := by
  obtain ⟨f, rest, rfl⟩ := List.exists_cons_of_ne_nil hne
  simp [updatable_of_mem_changed h List.mem_cons_self]

theorem wellFormed_of_mem_declaredFields {g : Group} (htags : g.tags.Distinct) {k : String}
    {v : Value} (h : (k, some v) ∈ g.declaredFields) : v.WellFormed := by
  simp only [declaredFields, List.mem_cons, List.not_mem_nil, or_false, Prod.mk.injEq,
    Option.some.injEq] at h
  rcases h with ⟨-, rfl⟩ | ⟨-, h⟩ | ⟨-, rfl⟩
  · exact .string _
  · obtain ⟨l, -, rfl⟩ := Option.map_eq_some_iff.1 h.symm
    exact .string l
  · exact Value.wellFormed_ofStringMap htags

theorem wellFormed_of_mem_toAttributes {g : Group} (htags : g.tags.Distinct) {e : String × Value}
    (h : e ∈ g.toAttributes) : e.2.WellFormed := by
  rcases List.mem_append.1 (Attributes.mem_ofSet.1 h) with h | h
  · exact wellFormed_of_mem_declaredFields htags h
  · simp only [assignedFields, List.mem_cons, List.not_mem_nil, or_false, Prod.mk.injEq] at h
    rcases h with ⟨-, h⟩ | ⟨-, h⟩ <;>
      obtain ⟨s, -, hs⟩ := Option.map_eq_some_iff.1 h.symm <;>
      exact hs ▸ .string s

/-- **Groups with the same name and tags do not differ**, when the location is the same or none is
declared. -/
theorem changed_eq_nil {desired live : Group} (htags : desired.tags.Distinct)
    (hname : live.name = desired.name)
    (hlocation : desired.location = none ∨ live.location = desired.location)
    (htags' : live.tags = desired.tags) :
    Plan.changed schema desired.toAttributes live.toAttributes = .ok [] := by
  have hassigned : ∀ e ∈ desired.assignedFields, Plan.compares schema e.1 = false :=
    fun e he => compares_assigned e.1 (List.mem_map_of_mem he)
  refine Plan.changed_ofSet_eq_nil live.toAttributes_distinct hassigned
    desired.withDefaults_toAttributes (fun k v hv => wellFormed_of_mem_declaredFields htags hv)
    fun k v hv => Attributes.mem_ofSet.2 (List.mem_append_left _ ?_)
  rcases hlocation with hnone | hsame
  · simp only [declaredFields, hnone, hname, htags', List.mem_cons] at hv ⊢
    rcases hv with h | h | h
    · exact .inl h
    · simp at h
    · exact .inr (.inr h)
  · rw [declaredFields, hname, hsame, htags']
    exact hv

end Group
end AzureProvisioning
