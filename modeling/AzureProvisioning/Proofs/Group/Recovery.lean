/-
# Groups under updates that may be interrupted

An update of a group is one call at most, so an interrupted one has either set the tags or done
nothing. The group is then the one that was created, with some tags, and that is all that the
attempts of an update need (`recoverable`).
-/

import AzureProvisioning.Proofs.Group.Creation
import AzureProvisioning.Proofs.Provider.Attempts

namespace AzureProvisioning
namespace Group

open Memory Provider

section Quiet

open Program

/-- **An update that has something to write sets the tags**; else it makes no call. -/
theorem quiet_update (context : Context) (desired current : Group) (changed : List String) :
    (update context desired current changed).quiet =
      if changed.any fun f => schema.mutability? f = some .updatable then
        match current.key? context with
        | none => .fail (.notFound (current.displayName ++ " does not exist"))
        | some name =>
          (Operation.request (.setGroupTags name desired.tags)).bind fun _ => .done ()
      else .done () := by
  unfold update
  by_cases h : (changed.any fun f => schema.mutability? f = some .updatable) = true
  · simp only [bind_eq_bind, if_pos h, quiet_bind, quiet_notes, quiet_lookUp, done_bind]
    cases current.key? context with
    | none => rfl
    | some name =>
      simp only [quiet_bind, quiet_note, done_bind, Operation.quiet_request (.setGroupTags name _)]
      rfl
  · simp only [bind_eq_bind, if_neg h, quiet_bind, quiet_notes, done_bind]
    rfl

end Quiet

/-- The record of a created group, as far as no update writes it. -/
structure Base (base : ResourceGroup) (name : String) : Prop where
  hasId : base.id = some (groupId name)
  hasName : base.name = some name
  provisioningState : stateOf? base ≠ some ""
  validName : GroupName.isValid name = true

/-- A declaration, read as `desired`, of a group that has been created. -/
structure Redeclared (declared : Resource) (desired : Group) (base : ResourceGroup) (name : String) :
    Prop where
  check : schema.check declared.attributes = .ok ()
  decoded : ofAttributes declared.attributes = .ok desired
  wellFormed : declared.attributes.WellFormed
  hasName : desired.name = name
  location : ∀ l, desired.location = some l → l ≠ "" ∧ Region.normalize base.location = l

/-- The attributes that are set at creation only. -/
theorem mem_of_immutable {k : String} (h : schema.mutability? k = some .immutable) :
    k ∈ ["name", "location"] := by
  have hall : ∀ e ∈ schema.attributes, e.2.mutability = .immutable →
      e.1 ∈ ["name", "location"] := by decide +kernel
  obtain ⟨e, he, rfl, himmutable⟩ := Schema.exists_of_mutability? h
  exact hall e he himmutable

section Recovery

variable {base : ResourceGroup} {name : String} {declared : Resource} {desired : Group}
  {tags : Dictionary String String} {context : Context}
  {accounts : Dictionary (String × String) (String × DatabaseAccount)}
  {groups : Dictionary String ResourceGroup}

theorem Redeclared.tags_distinct (h : Redeclared declared desired base name) :
    desired.tags.Distinct :=
  Attributes.stringMap_distinct h.wellFormed (ofAttributes_eq_ok_iff.1 h.decoded).tags

/-- What a refresh takes over of a created group with some tags. -/
theorem hydrate_base (hb : Base base name) (tags : Dictionary String String) :
    (addressedAt name).hydrate { base with tags } =
      { name
        location := some (Region.normalize base.location)
        tags
        id := some (groupId name)
        provisioningState := stateOf? base } := by
  simp [hydrate, stateOf?, hb.hasId, hb.hasName]

theorem told_base (hb : Base base name) (tags : Dictionary String String) :
    ((addressedAt name).hydrate { base with tags }).Told := by
  rw [hydrate_base hb]
  constructor
  case name => exact GroupName.ne_empty hb.validName
  case location =>
    rintro l hl
    rw [← Option.some.inj hl]
    exact Region.normalize_normalize _
  case id => simp [groupId, ArmId.groupText_eq]
  case provisioningState => exact hb.provisioningState

/-- The declared location, if there is one, is that of the group. -/
theorem Redeclared.location_eq (h : Redeclared declared desired base name) (hb : Base base name)
    (tags : Dictionary String String) :
    desired.location = none ∨
      ((addressedAt name).hydrate { base with tags }).withoutBlankLocation.location =
        desired.location := by
  cases hl : desired.location with
  | none => exact .inl rfl
  | some l =>
    obtain ⟨hne, hnormal⟩ := h.location l hl
    exact .inr (by simp [withoutBlankLocation, hydrate_base hb, hnormal, hne, Option.filter_some])

/-- A declaration of the same group differs from it only in the tags. -/
theorem Redeclared.exists_changed (h : Redeclared declared desired base name) (hb : Base base name)
    (tags : Dictionary String String) :
    ∃ names, Plan.changed schema desired.toAttributes
      ((addressedAt name).hydrate { base with tags }).withoutBlankLocation.toAttributes =
        .ok names := by
  refine Plan.exists_changed_of_get? (withDefaults_toAttributes desired) desired.toAttributes_distinct
    (fun e he => wellFormed_of_mem_toAttributes h.tags_distinct he) fun k v himmutable hv => ?_
  have hk := mem_of_immutable himmutable
  simp only [List.mem_cons, List.not_mem_nil, or_false] at hk
  rw [get?_toAttributes] at hv ⊢
  rw [← hv]
  rcases hk with rfl | rfl
  · simp [fields, declaredFields, withoutBlankLocation, hydrate_base hb, h.hasName]
  · rcases h.location_eq hb tags with hnone | hsame
    · simp [fields, declaredFields, hnone, List.lookup_cons] at hv
    · simp [fields, declaredFields, hsame, List.lookup_cons]

/-- What the provider finds out of a created group with some tags. -/
theorem Redeclared.view (h : Redeclared declared desired base name)
    (accounts : Dictionary (String × String) (String × DatabaseAccount))
    (hcontext : context.subscription = subscription) (hb : Base base name)
    (hget : groups.get? (groupKey name) = some { base with tags }) (id : ResourceId) :
    let live := (addressedAt name).hydrate { base with tags }
    ∃ names, Plan.changed schema desired.toAttributes live.withoutBlankLocation.toAttributes =
        .ok names ∧
      View context id (groupId name) declared accounts groups (.getGroup name) live
        ⟨desired, live.withoutBlankLocation, names⟩ := by
  intro live
  obtain ⟨names, hnames⟩ := h.exists_changed hb tags
  have hid : live.id = some (groupId name) := hb.hasId
  refine ⟨names, hnames, ⟨?_, ?_, ?_⟩⟩
  case refine_1 => exact reads_of_stored hcontext hb.validName hget
  case refine_2 => exact prepare_reported h.check h.decoded (told_base hb tags) hid hnames
  case refine_3 => exact fun k v hv => get?_of_withoutBlankLocation hv

/-- A group with the declared tags is in its declared state. -/
theorem Redeclared.inPlace (h : Redeclared declared desired base name)
    (hcontext : context.subscription = subscription) (hb : Base base name)
    (hget : groups.get? (groupKey name) = some { base with tags := desired.tags }) (id : ResourceId) :
    InPlace Group context id (groupId name) declared accounts groups := by
  obtain ⟨names, hnames, hview⟩ := h.view accounts hcontext hb hget id
  have hnil : Plan.changed schema desired.toAttributes ((addressedAt name).hydrate
      { base with tags := desired.tags }).withoutBlankLocation.toAttributes = .ok [] :=
    changed_eq_nil h.tags_distinct (by simp [withoutBlankLocation, hydrate_base hb, h.hasName])
      (h.location_eq hb _) (by simp [withoutBlankLocation, hydrate_base hb])
  exact ⟨_, _, _, hview, Except.ok.inj (hnames.symm.trans hnil)⟩

/-- The service sets the tags of a group that it has. -/
theorem perform_setGroupTags {m : Memory} {stored : ResourceGroup} (hm : m.Holds accounts groups)
    (hget : groups.get? (groupKey name) = some stored) (tags : Dictionary String String) :
    ∃ m', perform (.setGroupTags name tags) m = (.ok { stored with tags }, m') ∧
      m'.Holds accounts (groups.insert (groupKey name) { stored with tags }) := by
  have hfound : m.group? name = some stored := by rw [group?, hm.groups, hget]
  have hgroups : (m.setGroup name { stored with tags }).groups =
      groups.insert (groupKey name) { stored with tags } := by
    rw [setGroup, hm.groups]
  exact ⟨m.setGroup name { stored with tags }, by simp only [perform, hfound],
    ⟨hm.accounts, hgroups, hm.ready⟩⟩

/-- **A group whose update was interrupted is recovered**: every update keeps it the group that was
created, and one that is not hit puts it into its declared state. -/
theorem Redeclared.recoverable (h : Redeclared declared desired base name)
    (hcontext : context.subscription = subscription) (hb : Base base name) (id : ResourceId) :
    Recoverable Group context id (groupId name) declared fun _ groups =>
      ∃ tags, groups.get? (groupKey name) = some { base with tags } := by
  rintro accounts groups ⟨tags, hget⟩
  obtain ⟨names, hnames, hview⟩ := h.view accounts hcontext hb hget id
  refine ⟨_, _, _, hview, fun hchanged m hits hm => ?_⟩
  have hkey : ((addressedAt name).hydrate { base with tags }).withoutBlankLocation.key? context =
      some name := key?_of_id hcontext hb.validName hb.hasId
  have hupdatable := any_updatable_of_changed hnames hchanged
  have hquiet := quiet_update context desired
    ((addressedAt name).hydrate { base with tags }).withoutBlankLocation names
  rw [if_pos hupdatable, hkey] at hquiet
  obtain ⟨hhit, hdone⟩ := runUnder_call hits hm hquiet
    fun m hm => perform_setGroupTags hm hget desired.tags
  cases hits' : hits.headD false with
  | true =>
    obtain ⟨hholds, hnot⟩ := hhit hits'
    exact ⟨accounts, groups, hholds, ⟨tags, hget⟩, fun hnone => by simp [hnone] at hits',
      fun hall => absurd hall (hnot ())⟩
  | false =>
    obtain ⟨hholds, hall, -⟩ := hdone hits'
    have hset := Dictionary.get?_insert_self groups (groupKey name) { base with tags := desired.tags }
    exact ⟨_, _, hholds, ⟨desired.tags, hset⟩, fun _ => hall, fun _ => h.inPlace hcontext hb hset id⟩

end Recovery

section Created

variable {m after : Memory} {context : Context} {resource : Resource} {s : State}
  {original desired : Group}

theorem Created.base (h : Created context resource m after s original) :
    Base (original.storedFor context) original.name := by
  constructor
  case hasId => rfl
  case hasName => rfl
  case provisioningState => simp [storedFor, createdGroup, stateOf?]
  case validName => exact h.valid

/-- Groups whose attributes agree in what is set at creation have the same name and location. -/
theorem same_of_immutable
    (h : ∀ k, schema.mutability? k = some .immutable →
      desired.toAttributes.get? k = original.toAttributes.get? k) :
    desired.name = original.name ∧ desired.location = original.location := by
  simp only [get?_toAttributes] at h
  refine ⟨?_, ?_⟩
  · simpa [fields, declaredFields] using h "name" (by decide +kernel)
  · have hinjective : Function.Injective Value.string := fun _ _ => Value.string.inj
    refine Option.map_injective hinjective ?_
    simpa [fields, declaredFields, List.lookup_cons] using h "location" (by decide +kernel)

end Created
end Group
end AzureProvisioning
