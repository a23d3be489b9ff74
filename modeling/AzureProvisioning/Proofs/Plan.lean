/-
# What a comparison finds

`differing` goes through the declared attributes one by one, so what it answers is a statement about
each of them: it finds nothing exactly when every compared attribute agrees
(`differing_eq_nil_iff`), and what it finds may be written after creation (`of_mem_differing`).
`changed` sorts the names, and fills in what the declaration omits before; a declaration that omits
nothing of meaning is compared as it stands (`withDefaults_of_contains`).
-/

import AzureProvisioning.Plan
import AzureProvisioning.Proofs.Attributes

namespace AzureProvisioning

/-- A declaration that holds every attribute that stands for something when omitted is filled in
already. -/
theorem Schema.withDefaults_of_contains {schema : Schema} {attributes : Attributes}
    (h : ∀ e ∈ schema.attributes, e.2.implied? ≠ none → attributes.contains e.1 = true) :
    schema.withDefaults attributes = attributes := by
  have hnone : (schema.attributes.filterMap fun e =>
      if attributes.contains e.1 then none else e.2.implied?.map (e.1, ·)) = [] := by
    rw [List.filterMap_eq_nil_iff]
    intro e he
    by_cases hi : e.2.implied? = none
    · simp [hi]
    · simp [h e he hi]
  rw [Schema.withDefaults, hnone, List.append_nil]

/-- What is declared stands as it is. -/
theorem Schema.mem_withDefaults {schema : Schema} {attributes : Attributes} {k : String} {v : Value}
    (h : attributes.get? k = some v) : (k, v) ∈ schema.withDefaults attributes :=
  List.mem_append_left _ (Dictionary.mem_of_get? h)

/-- What is omitted and stands for something is filled in. -/
theorem Schema.mem_withDefaults_of_omitted {schema : Schema} {attributes : Attributes} {k : String}
    {a : AttributeSchema} {v : Value} (h : attributes.get? k = none)
    (ha : schema.attributes.get? k = some a) (hv : a.implied? = some v) :
    (k, v) ∈ schema.withDefaults attributes := by
  refine List.mem_append_right _ (List.mem_filterMap.2 ⟨(k, a), Dictionary.mem_of_get? ha, ?_⟩)
  rw [Dictionary.contains, h, hv]
  rfl

/-- Attributes that may be written at one time are found among those of the schema. -/
theorem Schema.exists_of_mutability? {schema : Schema} {k : String} {mutability : Mutability}
    (h : schema.mutability? k = some mutability) :
    ∃ e ∈ schema.attributes, e.1 = k ∧ e.2.mutability = mutability := by
  obtain ⟨a, ha, hm⟩ := Option.map_eq_some_iff.1 h
  exact ⟨(k, a), Dictionary.mem_of_get? ha, rfl, hm⟩

/-- A declaration is accepted when nothing is missing and no attribute has a defect. -/
theorem Schema.check_eq_ok_iff {schema : Schema} {attributes : Attributes} :
    schema.check attributes = .ok () ↔
      schema.missingDefects attributes = [] ∧
        ∀ e ∈ attributes, schema.attributeDefect? e.1 e.2 = none := by
  have hok : schema.check attributes = .ok () ↔ schema.defects attributes = [] := by
    rw [check]
    cases schema.defects attributes <;> simp
  rw [hok, defects, ← List.length_eq_zero_iff, List.length_mergeSort, List.length_eq_zero_iff,
    List.append_eq_nil_iff, List.filterMap_eq_nil_iff]

/-- No attribute of an accepted declaration has a defect. -/
theorem Schema.attributeDefect?_eq_none {schema : Schema} {attributes : Attributes}
    (h : schema.check attributes = .ok ()) {e : String × Value} (he : e ∈ attributes) :
    schema.attributeDefect? e.1 e.2 = none :=
  (check_eq_ok_iff.1 h).2 e he

/-- An accepted declaration holds nothing that the service assigns. -/
theorem Schema.mutability?_ne_output {schema : Schema} {attributes : Attributes}
    (h : schema.check attributes = .ok ()) {e : String × Value} (he : e ∈ attributes) :
    schema.mutability? e.1 ≠ some .output := by
  intro houtput
  obtain ⟨a, ha, hassigned⟩ := Option.map_eq_some_iff.1 houtput
  have hdefect := attributeDefect?_eq_none h he
  simp [attributeDefect?, ha, hassigned] at hdefect

/-- A text that the service assigns is not read from an accepted declaration. -/
theorem Schema.optionalString_ne_some {schema : Schema} {attributes : Attributes}
    (h : schema.check attributes = .ok ()) {field : String}
    (houtput : schema.mutability? field = some .output) (s : String) :
    attributes.optionalString field ≠ .ok (some s) := fun hs =>
  mutability?_ne_output h (Dictionary.mem_of_get? (Attributes.get?_of_optionalString hs)) houtput

namespace Plan

variable {schema : Schema} {desired current : Attributes}

/-- **Nothing differs exactly when every compared attribute agrees.** -/
theorem differing_eq_nil_iff :
    differing schema current desired = .ok [] ↔
      ∀ e ∈ desired, compares schema e.1 = true → agrees current e.1 e.2 = true := by
  induction desired with
  | nil => simp [differing]
  | cons e desired ih =>
    obtain ⟨name, value⟩ := e
    rw [differing, List.forall_mem_cons]
    by_cases hc : compares schema name = true
    · by_cases ha : agrees current name value = true
      · simp [hc, ha, ih]
      · by_cases hm : schema.mutability? name = some .immutable
        · simp [hc, ha, hm]
        · cases differing schema current desired <;> simp [hc, ha, hm, Except.map]
    · simp [hc, ih]

/-- What differs is declared, compared, and may be written after creation. -/
theorem of_mem_differing {names : List String} (h : differing schema current desired = .ok names)
    {f : String} (hf : f ∈ names) :
    ∃ v, (f, v) ∈ desired ∧ compares schema f = true ∧ schema.mutability? f ≠ some .immutable := by
  induction desired generalizing names with
  | nil =>
    rw [differing] at h
    rw [← Except.ok.inj h] at hf
    cases hf
  | cons e desired ih =>
    obtain ⟨name, value⟩ := e
    rw [differing] at h
    split at h
    · obtain ⟨v, hv, hrest⟩ := ih h hf
      exact ⟨v, List.mem_cons_of_mem _ hv, hrest⟩
    · next hcompared =>
      split at h
      · cases h
      · next hmutable =>
        cases hrest : differing schema current desired with
        | error e => rw [hrest] at h; cases h
        | ok rest =>
          rw [hrest] at h
          rw [← Except.ok.inj h] at hf
          rcases List.mem_cons.1 hf with rfl | hf
          · simp only [Bool.or_eq_true, not_or, Bool.not_eq_true', Bool.not_eq_false] at hcompared
            exact ⟨value, List.mem_cons_self, hcompared.1, hmutable⟩
          · obtain ⟨v, hv, hfrest⟩ := ih hrest hf
            exact ⟨v, List.mem_cons_of_mem _ hv, hfrest⟩

/-- An update has nothing to write exactly when every compared attribute agrees. -/
theorem changed_eq_nil_iff :
    changed schema desired current = .ok [] ↔
      ∀ e ∈ schema.withDefaults desired, compares schema e.1 = true →
        agrees current e.1 e.2 = true := by
  rw [← differing_eq_nil_iff, changed]
  cases differing schema current (schema.withDefaults desired) with
  | error e => simp [Except.map]
  | ok names =>
    have hnil : names.mergeSort = [] ↔ names = [] := by
      rw [← List.length_eq_zero_iff, List.length_mergeSort, List.length_eq_zero_iff]
    simp [Except.map, hnil]

/-- Without a difference in what is written at creation only, the comparison succeeds. -/
theorem exists_changed
    (h : ∀ e ∈ schema.withDefaults desired, compares schema e.1 = true →
      schema.mutability? e.1 = some .immutable → agrees current e.1 e.2 = true) :
    ∃ names, changed schema desired current = .ok names := by
  have hdiffering : ∀ declared : Attributes, (∀ e ∈ declared, compares schema e.1 = true →
      schema.mutability? e.1 = some .immutable → agrees current e.1 e.2 = true) →
      ∃ names, differing schema current declared = .ok names := by
    intro declared
    induction declared with
    | nil => exact fun _ => ⟨[], rfl⟩
    | cons e declared ih =>
      intro h
      obtain ⟨name, value⟩ := e
      rw [List.forall_mem_cons] at h
      obtain ⟨names, hnames⟩ := ih h.2
      by_cases hskip : (!compares schema name || agrees current name value) = true
      · exact ⟨names, by rw [differing, if_pos hskip, hnames]⟩
      · have hmutable : schema.mutability? name ≠ some .immutable := by
          intro himmutable
          simp only [Bool.or_eq_true, Bool.not_eq_true', not_or, Bool.not_eq_false] at hskip
          exact hskip.2 (h.1 hskip.1 himmutable)
        exact ⟨name :: names, by rw [differing, if_neg hskip, if_neg hmutable, hnames]; rfl⟩
  obtain ⟨names, hnames⟩ := hdiffering _ h
  exact ⟨names.mergeSort, by rw [changed, hnames]; rfl⟩

/-- **A comparison fails exactly when an attribute that is set at creation only differs**, and then for
such an attribute. -/
theorem exists_immutable_iff :
    (∃ field, changed schema desired current = .error (.immutable field)) ↔
      ∃ e ∈ schema.withDefaults desired, compares schema e.1 = true ∧
        schema.mutability? e.1 = some .immutable ∧ agrees current e.1 e.2 = false := by
  constructor
  · rintro ⟨field, hfield⟩
    refine Classical.byContradiction fun hnone => ?_
    simp only [not_exists, not_and, Bool.not_eq_false] at hnone
    obtain ⟨names, hnames⟩ := exists_changed hnone
    exact nomatch hnames.symm.trans hfield
  · rintro ⟨e, he, hcompares, himmutable, hdiffers⟩
    have hdiffering : ∀ declared : Attributes, e ∈ declared →
        ∃ field, differing schema current declared = .error (.immutable field) := by
      intro declared
      induction declared with
      | nil => exact fun h => absurd h List.not_mem_nil
      | cons first rest ih =>
        obtain ⟨name, value⟩ := first
        intro hmem
        rw [differing]
        obtain rfl | hrest := List.mem_cons.1 hmem
        · have hdiffers : agrees current name value = false := hdiffers
          have hcompares : compares schema name = true := hcompares
          exact ⟨name, by rw [if_neg (by simp [hcompares, hdiffers]), if_pos himmutable]⟩
        · obtain ⟨field, hfield⟩ := ih hrest
          split
          · exact ⟨field, hfield⟩
          · split
            · exact ⟨name, rfl⟩
            · exact ⟨field, by rw [hfield]; rfl⟩
    obtain ⟨field, hfield⟩ := hdiffering _ he
    exact ⟨field, by rw [changed, hfield]; rfl⟩

/-- The comparison of a declaration that is filled in already succeeds when what is set at creation
only is the same. -/
theorem exists_changed_of_get? (hdefaults : schema.withDefaults desired = desired)
    (hd : desired.Distinct) (hw : ∀ e ∈ desired, e.2.WellFormed)
    (h : ∀ k v, schema.mutability? k = some .immutable → desired.get? k = some v →
      current.get? k = some v) :
    ∃ names, changed schema desired current = .ok names := by
  refine exists_changed ?_
  rw [hdefaults]
  rintro ⟨k, v⟩ he - himmutable
  have hcurrent := h k v himmutable (Dictionary.get?_of_mem hd he)
  simp only [agrees, hcurrent]
  exact Value.same_refl (hw _ he)

theorem of_mem_changed {names : List String} (h : changed schema desired current = .ok names)
    {f : String} (hf : f ∈ names) :
    ∃ v, (f, v) ∈ schema.withDefaults desired ∧ compares schema f = true ∧
      schema.mutability? f ≠ some .immutable := by
  rw [changed] at h
  cases hd : differing schema current (schema.withDefaults desired) with
  | error e => rw [hd] at h; cases h
  | ok found =>
    rw [hd] at h
    rw [← Except.ok.inj h] at hf
    exact of_mem_differing hd (List.mem_mergeSort.1 hf)

/-- What an update has to write of a declaration that knows its schema can be updated. -/
theorem updatable_of_mem_changed {names : List String}
    (h : changed schema desired current = .ok names)
    (hknown : ∀ e ∈ schema.withDefaults desired, schema.mutability? e.1 ≠ none) {f : String}
    (hf : f ∈ names) : schema.mutability? f = some .updatable := by
  obtain ⟨v, hv, hcompares, himmutable⟩ := of_mem_changed h hf
  simp only [compares, Bool.and_eq_true, bne_iff_ne] at hcompares
  cases hm : schema.mutability? f with
  | none => exact absurd hm (hknown _ hv)
  | some m =>
    cases m with
    | immutable => exact absurd hm himmutable
    | updatable => rfl
    | output => exact absurd hm hcompares.2

/-- A record does not differ from attributes that hold what it declares, whatever the service has
assigned to either. -/
theorem changed_ofSet_eq_nil {declared assigned : List (String × Option Value)}
    (hd : current.Distinct) (hassigned : ∀ e ∈ assigned, compares schema e.1 = false)
    (hdefaults : schema.withDefaults (.ofSet (declared ++ assigned)) = .ofSet (declared ++ assigned))
    (hw : ∀ k v, (k, some v) ∈ declared → v.WellFormed)
    (hcurrent : ∀ k v, (k, some v) ∈ declared → (k, v) ∈ current) :
    changed schema (.ofSet (declared ++ assigned)) current = .ok [] := by
  rw [changed_eq_nil_iff, hdefaults]
  rintro ⟨k, v⟩ he hc
  rcases List.mem_append.1 (Attributes.mem_ofSet.1 he) with hdeclared | hother
  · simp only [agrees, Dictionary.get?_of_mem hd (hcurrent k v hdeclared)]
    exact Value.same_refl (hw k v hdeclared)
  · rw [hassigned _ hother] at hc
    cases hc

section Make

variable {declared : Resource} {reported : State}

/-- For an object that is there, a plan has nothing to do exactly when nothing differs. -/
theorem make_eq_noChange_iff (hfound : reported.found = true) :
    make schema declared reported = .ok (.noChange declared.id) ↔
      changed schema declared.attributes reported.attributes = .ok [] := by
  rw [make, if_pos hfound]
  cases changed schema declared.attributes reported.attributes with
  | error e => simp [Except.map]
  | ok names => cases names <;> simp [Except.map]

theorem make_eq_error_iff (hfound : reported.found = true) {e : ConfigurationError} :
    make schema declared reported = .error e ↔
      changed schema declared.attributes reported.attributes = .error e := by
  rw [make, if_pos hfound]
  cases changed schema declared.attributes reported.attributes <;> simp [Except.map]

end Make

end Plan
end AzureProvisioning
