/-
# What depends on the order of the entries

A comparison goes through what a declaration is filled in to, in the order in which the entries are visited,
up to the first attribute that is set at creation only and differs. Whether an attribute differs does not
depend on orders (`Plan.differs_visitedAs`), nor do the names that are found (`Plan.inSomeOrder_eq_ok_iff`);
which of several attributes is the first to be met does (`Plan.inSomeOrder_eq_error_iff`).

`same_in_every_order_iff` puts this together with what is known of checks.
-/

import AzureProvisioning.Proofs.Schema.Answers

namespace AzureProvisioning

theorem AttributeSchema.VisitedAs.implied? {a b : AttributeSchema} (h : a.VisitedAs b) :
    Option.Rel Value.VisitedAs a.implied? b.implied? := by
  unfold AttributeSchema.implied?
  rw [h.mutability_eq, h.type_eq]
  split
  · exact .none
  · cases ha : a.default? with
    | some v =>
      obtain ⟨w, hb, hvw⟩ := exists_of_some_rel (ha ▸ h.default?)
      rw [hb]
      exact .some hvw
    | none =>
      rw [h.default?_eq_none_iff.2 ha]
      cases hempty : a.type.emptyValue? with
      | none => exact .none
      | some v => exact .some (.refl (Schema.wellFormed_of_emptyValue? hempty))

namespace Schema

variable {schema schema' : Schema} {attributes attributes' : Attributes}

theorem VisitedAs.mutability?_eq (h : schema.VisitedAs schema') (name : String) :
    schema'.mutability? name = schema.mutability? name := by
  unfold mutability?
  cases ha : schema.attributes.get? name with
  | none => rw [h.attributes.get?_eq_none_iff.2 ha]
  | some a =>
    obtain ⟨b, hb, hab⟩ := h.attributes.to_get? ha
    rw [hb, Option.map_some, Option.map_some, hab.mutability_eq]

theorem VisitedAs.wellFormed (h : schema.VisitedAs schema') : schema'.WellFormed where
  distinct := h.attributes.distinct
  defaults e he v hv := by
    obtain ⟨a, -, hab⟩ := h.attributes.of_get? (Dictionary.get?_of_mem h.attributes.distinct he)
    obtain ⟨u, -, huv⟩ := exists_of_rel_some (hv ▸ hab.default?)
    exact huv.wellFormed

/-- What is filled in does not depend on orders. -/
theorem VisitedAs.withDefaults (hschema : schema.WellFormed) (hattributes : attributes.WellFormed)
    (h : schema.VisitedAs schema') (ha : attributes.VisitedAs attributes') :
    (schema.withDefaults attributes).VisitedAs (schema'.withDefaults attributes') := by
  refine .of_mem (hschema.withDefaults hattributes).distinct (h.wellFormed.withDefaults ha.wellFormed).distinct
    (fun k w hw => ?_) (fun k v hv => ?_)
  · simp only [mem_withDefaults_iff] at hw ⊢
    obtain hw | ⟨homitted, b, hb, himplied⟩ := hw
    · obtain ⟨v, hv, hvw⟩ := ha.of_get? (Dictionary.get?_of_mem ha.distinct hw)
      exact ⟨v, .inl (Dictionary.mem_of_get? hv), hvw⟩
    · obtain ⟨a, hget, hab⟩ := h.attributes.of_get? (Dictionary.get?_of_mem h.attributes.distinct hb)
      obtain ⟨v, hv, hvw⟩ := exists_of_rel_some (himplied ▸ hab.implied?)
      exact ⟨v, .inr ⟨(ha.contains_eq k).symm.trans homitted, a, Dictionary.mem_of_get? hget, hv⟩, hvw⟩
  · simp only [mem_withDefaults_iff] at hv ⊢
    obtain hv | ⟨homitted, a, hget, himplied⟩ := hv
    · obtain ⟨w, hw, -⟩ := ha.to_get? (Dictionary.get?_of_mem hattributes.distinct hv)
      exact ⟨w, .inl (Dictionary.mem_of_get? hw)⟩
    · obtain ⟨b, hb, hab⟩ := h.attributes.to_get? (Dictionary.get?_of_mem hschema.distinct hget)
      obtain ⟨w, hw, -⟩ := exists_of_some_rel (himplied ▸ hab.implied?)
      exact ⟨w, .inr ⟨(ha.contains_eq k).trans homitted, b, Dictionary.mem_of_get? hb, hw⟩⟩

end Schema

namespace Plan

variable {schema schema' : Schema} {desired current current' visited : Attributes}

/-- Whether an attribute differs does not depend on orders. -/
theorem differs_visitedAs (hs : schema.VisitedAs schema') (hc : current.VisitedAs current')
    (hcurrent : current.WellFormed) {k : String} {v w : Value} (hv : v.WellFormed) (hvw : v.VisitedAs w) :
    differs schema' current' (k, w) = differs schema current (k, v) := by
  have hagrees : agrees current' k w = agrees current k v := by
    rw [Bool.eq_iff_iff, @agrees_iff _ (k, w) hc.wellFormed hvw.wellFormed, @agrees_iff _ (k, v) hcurrent hv]
    constructor
    · rintro ⟨u', hu', hequal⟩
      obtain ⟨u, hu, huu⟩ := hc.of_get? hu'
      exact ⟨u, hu, (huu.equal.trans hequal).trans hvw.equal.symm⟩
    · rintro ⟨u, hu, hequal⟩
      obtain ⟨u', hu', huu⟩ := hc.to_get? hu
      exact ⟨u', hu', (huu.equal.symm.trans hequal).trans hvw.equal⟩
  rw [differs, differs, hagrees, compares, compares, hs.mutability?_eq]

theorem conflicts_visitedAs (hs : schema.VisitedAs schema') (hc : current.VisitedAs current')
    (hcurrent : current.WellFormed) {k : String} {v w : Value} (hv : v.WellFormed) (hvw : v.VisitedAs w) :
    conflicts schema' current' (k, w) = conflicts schema current (k, v) := by
  rw [conflicts, conflicts, differs_visitedAs hs hc hcurrent hv hvw, hs.mutability?_eq]

/-- What a comparison gives holds in some order: of the schema, of both sets of attributes, and of what the
declaration is filled in to. -/
abbrev InSomeOrder (schema : Schema) (desired current : Attributes)
    (P : Except ConfigurationError (List String) → Prop) : Prop :=
  ∃ schema' desired' current' visited, schema.VisitedAs schema' ∧ desired.VisitedAs desired' ∧
    current.VisitedAs current' ∧ (schema'.withDefaults desired').VisitedAs visited ∧
    P (changedIn schema' current' visited)

/-- It holds in all these orders. -/
abbrev InEveryOrder (schema : Schema) (desired current : Attributes)
    (P : Except ConfigurationError (List String) → Prop) : Prop :=
  ∀ schema' desired' current' visited, schema.VisitedAs schema' → desired.VisitedAs desired' →
    current.VisitedAs current' → (schema'.withDefaults desired').VisitedAs visited →
    P (changedIn schema' current' visited)

/-- A property that does not depend on orders holds of the same names in every order. -/
theorem exists_mem_visitedAs_iff {filled : Attributes} (hfilled : filled.WellFormed)
    (hvisited : filled.VisitedAs visited) {p q : String × Value → Bool}
    (h : ∀ k v w, v.WellFormed → v.VisitedAs w → q (k, w) = p (k, v)) (k : String) :
    (∃ w, (k, w) ∈ visited ∧ q (k, w) = true) ↔ ∃ v, (k, v) ∈ filled ∧ p (k, v) = true := by
  constructor
  · rintro ⟨w, hw, hq⟩
    obtain ⟨v, hv, hvw⟩ := hvisited.of_get? (Dictionary.get?_of_mem hvisited.distinct hw)
    have hv := Dictionary.mem_of_get? hv
    exact ⟨v, hv, (h k v w (hfilled.values _ hv) hvw).symm.trans hq⟩
  · rintro ⟨v, hv, hp⟩
    obtain ⟨w, hw, hvw⟩ := hvisited.to_get? (Dictionary.get?_of_mem hfilled.distinct hv)
    exact ⟨w, Dictionary.mem_of_get? hw, (h k v w (hfilled.values _ hv) hvw).trans hp⟩

section Orders

variable {filled : Attributes} (hs : schema.VisitedAs schema') (hc : current.VisitedAs current')
  (hvisited : filled.VisitedAs visited) (hfilled : filled.WellFormed) (hcurrent : current.WellFormed)
include hs hc hvisited hfilled hcurrent

theorem exists_conflicts_visitedAs_iff (k : String) :
    (∃ w, (k, w) ∈ visited ∧ conflicts schema' current' (k, w) = true) ↔
      ∃ v, (k, v) ∈ filled ∧ conflicts schema current (k, v) = true :=
  exists_mem_visitedAs_iff hfilled hvisited (fun _ _ _ => conflicts_visitedAs hs hc hcurrent) k

/-- The names that differ are the same ones. -/
theorem sorted_visitedAs :
    ((visited.filter (differs schema' current')).map Prod.fst).mergeSort =
      ((filled.filter (differs schema current)).map Prod.fst).mergeSort := by
  have hd : ((filled.filter (differs schema current)).map Prod.fst).Nodup :=
    hfilled.distinct.sublist (List.filter_sublist.map Prod.fst)
  have hd' : ((visited.filter (differs schema' current')).map Prod.fst).Nodup :=
    hvisited.distinct.sublist (List.filter_sublist.map Prod.fst)
  refine @mergeSort_eq_of_perm _ _ _ _ _ _ id _ _ (by rwa [List.map_id]) ?_
  refine (List.perm_ext_iff_of_nodup hd' hd).2 fun k => ?_
  have hiff := exists_mem_visitedAs_iff hfilled hvisited
    (fun _ _ _ => differs_visitedAs hs hc hcurrent) k
  simpa [List.mem_map, List.mem_filter] using hiff

theorem changedIn_visitedAs_eq_ok_iff {names : List String} :
    changedIn schema' current' visited = .ok names ↔ changedIn schema current filled = .ok names := by
  have hconflicts := exists_conflicts_visitedAs_iff hs hc hvisited hfilled hcurrent
  rw [changedIn_eq_ok_iff, changedIn_eq_ok_iff, sorted_visitedAs hs hc hvisited hfilled hcurrent]
  refine and_congr_left' ⟨fun h e he => ?_, fun h e he => ?_⟩
  · by_contra hne
    obtain ⟨w, hw, hconflict⟩ := (hconflicts e.1).2 ⟨e.2, he, by simpa using hne⟩
    rw [h _ hw] at hconflict
    cases hconflict
  · by_contra hne
    obtain ⟨v, hv, hconflict⟩ := (hconflicts e.1).1 ⟨e.2, he, by simpa using hne⟩
    rw [h _ hv] at hconflict
    cases hconflict

theorem of_changedIn_visitedAs_eq_error {c : ConfigurationError}
    (h : changedIn schema' current' visited = .error c) :
    ∃ e ∈ filled, conflicts schema current e = true ∧ c = .immutable e.1 := by
  obtain ⟨⟨k, w⟩, hfind, rfl⟩ := changedIn_eq_error_iff.1 h
  obtain ⟨v, hv, hconflict⟩ := (exists_conflicts_visitedAs_iff hs hc hvisited hfilled hcurrent k).1
    ⟨w, List.mem_of_find?_eq_some hfind, List.find?_some hfind⟩
  exact ⟨(k, v), hv, hconflict, rfl⟩

end Orders

/-- Any attribute that conflicts may be the first one that is met. -/
theorem exists_perm_changedIn_eq_error {filled : Attributes} {e : String × Value} (he : e ∈ filled)
    (hconflict : conflicts schema current e = true) :
    ∃ visited : Attributes, visited.Perm filled ∧
      changedIn schema current visited = .error (.immutable e.1) := by
  obtain ⟨before, after, rfl⟩ := List.append_of_mem he
  refine ⟨e :: (before ++ after), List.perm_middle.symm, changedIn_eq_error_iff.2 ⟨e, ?_, rfl⟩⟩
  rw [List.find?_cons_of_pos hconflict]

section Exact

variable (hschema : schema.WellFormed) (hdesired : desired.WellFormed) (hcurrent : current.WellFormed)
include hschema hdesired hcurrent

/-- **A comparison may be refused for any attribute that is set at creation only and differs**, and for no
other. -/
theorem inSomeOrder_eq_error_iff {c : ConfigurationError} :
    InSomeOrder schema desired current (· = .error c) ↔
      ∃ e ∈ schema.withDefaults desired, Differs schema current e ∧
        schema.mutability? e.1 = some .immutable ∧ c = .immutable e.1 := by
  have hfilled := hschema.withDefaults hdesired
  constructor
  · rintro ⟨schema', desired', current', visited, hs, hd, hc, hvisited, h⟩
    obtain ⟨e, he, hconflict, rfl⟩ := of_changedIn_visitedAs_eq_error hs hc
      ((hs.withDefaults hschema hdesired hd).trans (fun _ _ _ => .trans) hvisited) hfilled hcurrent h
    obtain ⟨hdiffers, himmutable⟩ := (conflicts_iff hfilled hcurrent he).1 hconflict
    exact ⟨e, he, hdiffers, himmutable, rfl⟩
  · rintro ⟨e, he, hdiffers, himmutable, rfl⟩
    obtain ⟨visited, hperm, h⟩ :=
      exists_perm_changedIn_eq_error he ((conflicts_iff hfilled hcurrent he).2 ⟨hdiffers, himmutable⟩)
    exact ⟨schema, desired, current, visited, .refl hschema, .refl hdesired, .refl hcurrent,
      (Attributes.VisitedAs.refl hfilled).trans_perm hperm, h⟩

/-- What a comparison finds, it finds in every order. -/
theorem inSomeOrder_eq_ok_iff {names : List String} :
    InSomeOrder schema desired current (· = .ok names) ↔ changed schema desired current = .ok names := by
  have hfilled := hschema.withDefaults hdesired
  constructor
  · rintro ⟨schema', desired', current', visited, hs, hd, hc, hvisited, h⟩
    exact (changedIn_visitedAs_eq_ok_iff hs hc
      ((hs.withDefaults hschema hdesired hd).trans (fun _ _ _ => .trans) hvisited) hfilled hcurrent).1 h
  · intro h
    exact ⟨schema, desired, current, schema.withDefaults desired, .refl hschema, .refl hdesired,
      .refl hcurrent, .refl hfilled, h⟩

/-- **A comparison gives the same in every order when at most one attribute that is set at creation only
differs.** -/
theorem inEveryOrder_iff :
    InEveryOrder schema desired current (· = changed schema desired current) ↔
      ∀ e ∈ schema.withDefaults desired, ∀ f ∈ schema.withDefaults desired,
        Differs schema current e → schema.mutability? e.1 = some .immutable →
        Differs schema current f → schema.mutability? f.1 = some .immutable → e.1 = f.1 := by
  have herror := @inSomeOrder_eq_error_iff schema desired current hschema hdesired hcurrent
  have hok := @inSomeOrder_eq_ok_iff schema desired current hschema hdesired hcurrent
  have hfirst : ∀ {P : Except ConfigurationError (List String) → Prop},
      P (changed schema desired current) → InSomeOrder schema desired current P := fun h =>
    ⟨schema, desired, current, schema.withDefaults desired, .refl hschema, .refl hdesired,
      .refl hcurrent, .refl (hschema.withDefaults hdesired), h⟩
  constructor
  · intro hsame e he f hf hediffers heimmutable hfdiffers hfimmutable
    have hrefused : ∀ {e}, e ∈ schema.withDefaults desired → Differs schema current e →
        schema.mutability? e.1 = some .immutable →
        changed schema desired current = .error (.immutable e.1) := by
      intro e he hdiffers himmutable
      obtain ⟨schema', desired', current', visited, hs, hd, hc, hvisited, h⟩ :=
        herror.2 ⟨e, he, hdiffers, himmutable, rfl⟩
      exact (hsame schema' desired' current' visited hs hd hc hvisited).symm.trans h
    exact ConfigurationError.immutable.inj (Except.error.inj
      ((hrefused he hediffers heimmutable).symm.trans (hrefused hf hfdiffers hfimmutable)))
  · intro hone schema' desired' current' visited hs hd hc hvisited
    cases h : changedIn schema' current' visited with
    | ok names => exact (hok.1 ⟨_, _, _, _, hs, hd, hc, hvisited, h⟩).symm
    | error c =>
      obtain ⟨e, he, hdiffers, himmutable, rfl⟩ := herror.1 ⟨_, _, _, _, hs, hd, hc, hvisited, h⟩
      cases h' : changed schema desired current with
      | ok names =>
        -- what is found in one order would be found in the other
        have hfound := (changedIn_visitedAs_eq_ok_iff hs hc
          ((hs.withDefaults hschema hdesired hd).trans (fun _ _ _ => .trans) hvisited)
          (hschema.withDefaults hdesired) hcurrent).2 h'
        cases h.symm.trans hfound
      | error c =>
        obtain ⟨f, hf, hdiffers', himmutable', rfl⟩ := herror.1 (hfirst h')
        rw [hone e he f hf hdiffers himmutable hdiffers' himmutable']

end Exact

end Plan

end AzureProvisioning
