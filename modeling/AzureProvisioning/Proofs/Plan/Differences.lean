/-
# Exactly what differs

A declaration is filled in and compared with the current attributes one attribute after the other, in
the order in which the entries are visited. What comes out depends on that order in one way only: when
several attributes that are set at creation only differ, the first one visited is the one that is
reported (`differing_eq`). Otherwise it is the compared attributes that differ, sorted by name, all of
them and no others (`changed_exactly_differing`).
-/

import AzureProvisioning.Proofs.Plan
import AzureProvisioning.Proofs.StableOrder
import AzureProvisioning.Proofs.Values.Equality
import AzureProvisioning.Provider.Registry

namespace AzureProvisioning

theorem Dictionary.contains_iff {κ α : Type} [DecidableEq κ] {d : Dictionary κ α} {k : κ} :
    d.contains k = true ↔ k ∈ d.keys := by
  rw [contains, Option.isSome_iff_exists]
  constructor
  · rintro ⟨v, hv⟩
    exact List.mem_map.2 ⟨_, mem_of_get? hv, rfl⟩
  · induction d with
    | nil => exact fun h => absurd h List.not_mem_nil
    | cons e d ih =>
      intro h
      simp only [get?_cons]
      by_cases he : e.1 = k
      · exact ⟨e.2, if_pos he⟩
      · rw [if_neg he]
        exact ih ((List.mem_cons.1 h).resolve_left (Ne.symm he))

namespace Schema

/-- No attribute is listed twice, and no map in a default holds a key twice. -/
structure WellFormed (schema : Schema) : Prop where
  distinct : schema.attributes.Distinct
  defaults : ∀ e ∈ schema.attributes, ∀ v, e.2.default? = some v → v.WellFormed

variable {schema : Schema} {attributes : Attributes}

theorem wellFormed_of_emptyValue? {t : AttributeType} {v : Value} (h : t.emptyValue? = some v) :
    v.WellFormed := by
  induction t with
  | list =>
    obtain rfl := Option.some.inj h
    exact .list (List.forall_mem_nil _)
  | map =>
    obtain rfl := Option.some.inj h
    exact .map List.nodup_nil (List.forall_mem_nil _)
  | custom name base test ih => exact ih h
  | string | int | bool | enum => cases h

/-- What an omitted attribute is filled in with. -/
theorem filled_eq_some_iff {e : String × AttributeSchema} {k : String} {v : Value} :
    (if attributes.contains e.1 then none else e.2.implied?.map (e.1, ·)) = some (k, v) ↔
      e.1 = k ∧ attributes.contains k = false ∧ e.2.implied? = some v := by
  split
  · next hdeclared =>
    constructor
    · intro hnone
      cases hnone
    · rintro ⟨rfl, homitted, -⟩
      rw [homitted] at hdeclared
      cases hdeclared
  · next homitted =>
    simp only [Option.map_eq_some_iff, Prod.mk.injEq]
    constructor
    · rintro ⟨_, himplied, rfl, rfl⟩
      exact ⟨rfl, by simpa using homitted, himplied⟩
    · rintro ⟨rfl, -, himplied⟩
      exact ⟨v, himplied, rfl, rfl⟩

/-- A filled-in declaration has what is declared, and what the attributes that are omitted stand for. -/
theorem mem_withDefaults_iff {k : String} {v : Value} :
    (k, v) ∈ schema.withDefaults attributes ↔ (k, v) ∈ attributes ∨
      attributes.contains k = false ∧ ∃ a, (k, a) ∈ schema.attributes ∧ a.implied? = some v := by
  rw [withDefaults, List.mem_append, List.mem_filterMap]
  refine or_congr_right ⟨?_, ?_⟩
  · rintro ⟨⟨_, a⟩, ha, hfilled⟩
    obtain ⟨rfl, homitted, himplied⟩ := filled_eq_some_iff.1 hfilled
    exact ⟨homitted, a, ha, himplied⟩
  · rintro ⟨homitted, a, ha, himplied⟩
    exact ⟨(k, a), ha, filled_eq_some_iff.2 ⟨rfl, homitted, himplied⟩⟩

theorem contains_withDefaults {k : String} {a : AttributeSchema} (ha : (k, a) ∈ schema.attributes)
    (himplied : a.implied? ≠ none) : (schema.withDefaults attributes).contains k = true := by
  rw [Dictionary.contains_iff]
  cases homitted : attributes.contains k with
  | true =>
    obtain ⟨e, he, rfl⟩ := List.mem_map.1 (Dictionary.contains_iff.1 homitted)
    exact List.mem_map.2 ⟨e, List.mem_append_left _ he, rfl⟩
  | false =>
    obtain ⟨v, hv⟩ := Option.ne_none_iff_exists'.1 himplied
    exact List.mem_map.2 ⟨(k, v), mem_withDefaults_iff.2 (.inr ⟨homitted, a, ha, hv⟩), rfl⟩

/-- **Filling in a second time changes nothing.** -/
theorem withDefaults_withDefaults :
    schema.withDefaults (schema.withDefaults attributes) = schema.withDefaults attributes :=
  withDefaults_of_contains fun _ he himplied => contains_withDefaults he himplied

theorem WellFormed.withDefaults (h : schema.WellFormed) (hw : attributes.WellFormed) :
    (schema.withDefaults attributes).WellFormed where
  distinct := by
    rw [Dictionary.Distinct, Dictionary.keys, Schema.withDefaults, List.map_append, List.nodup_append]
    refine ⟨hw.distinct, ?_, ?_⟩
    · refine List.pairwise_map.2 (List.Pairwise.filterMap _ ?_ (List.pairwise_map.1 h.distinct))
      rintro e f hne ⟨k, v⟩ he ⟨k', v'⟩ hf
      rwa [← (filled_eq_some_iff.1 he).1, ← (filled_eq_some_iff.1 hf).1]
    · rintro k hk _ hk' rfl
      obtain ⟨⟨k, v⟩, hfilled, rfl⟩ := List.mem_map.1 hk'
      obtain ⟨e, -, he⟩ := List.mem_filterMap.1 hfilled
      have homitted := (filled_eq_some_iff.1 he).2.1
      rw [Dictionary.contains_iff.2 hk] at homitted
      cases homitted
  values := by
    rintro ⟨k, v⟩ he
    obtain hdeclared | ⟨-, a, ha, himplied⟩ := mem_withDefaults_iff.1 he
    · exact hw.values _ hdeclared
    · rw [AttributeSchema.implied?] at himplied
      split at himplied
      · cases himplied
      · obtain hdefault | ⟨-, hempty⟩ := Option.or_eq_some_iff.1 himplied
        · exact h.defaults _ ha v hdefault
        · exact wellFormed_of_emptyValue? hempty

end Schema

/-- The schemas of both types are well-formed. -/
theorem Provider.ManagedType.schema_wellFormed (t : ManagedType) : t.schema.WellFormed := by
  cases t with
  | account =>
    have hdistinct : ManagedType.account.schema.attributes.Distinct := by decide
    refine ⟨hdistinct, fun ⟨k, a⟩ ha v hv => ?_⟩
    have honly : ∀ e ∈ ManagedType.account.schema.attributes,
        e.2.default?.isSome = true → e.1 = "enable_automatic_failover" := by decide
    obtain rfl : k = _ := honly _ ha (by rw [hv]; rfl)
    obtain rfl := Option.some.inj (Dictionary.get?_of_mem hdistinct ha)
    obtain rfl := Option.some.inj hv
    exact .bool false
  | group =>
    refine ⟨by decide, fun e he v hv => ?_⟩
    have hnone : ∀ e ∈ ManagedType.group.schema.attributes, e.2.default?.isSome = false := by
      decide
    have hsome := hnone e he
    rw [hv] at hsome
    cases hsome

namespace Plan

variable {schema : Schema} {desired current visited : Attributes} {e : String × Value}

/-- The attribute takes part in the comparison, and the current attributes do not hold its value. -/
def differs (schema : Schema) (current : Attributes) (e : String × Value) : Bool :=
  compares schema e.1 && !agrees current e.1 e.2

/-- The attribute differs, and can be set at creation only. -/
def conflicts (schema : Schema) (current : Attributes) (e : String × Value) : Bool :=
  differs schema current e && schema.mutability? e.1 = some .immutable

/-- **What a comparison finds**: the first attribute in the order of the visits that conflicts, or else
all attributes that differ. -/
theorem differing_eq (schema : Schema) (current visited : Attributes) :
    differing schema current visited =
      match visited.find? (conflicts schema current) with
      | some e => .error (.immutable e.1)
      | none => .ok ((visited.filter (differs schema current)).map Prod.fst) := by
  induction visited with
  | nil => rfl
  | cons e visited ih =>
    obtain ⟨name, value⟩ := e
    have hskip : (!compares schema name || agrees current name value) =
        !differs schema current (name, value) := by
      simp [differs]
    rw [differing, hskip]
    cases hd : differs schema current (name, value) with
    | false => simp [conflicts, hd, ih]
    | true =>
      by_cases himmutable : schema.mutability? name = some .immutable
      · simp [conflicts, hd, himmutable]
      · have hfind : ((name, value) :: visited).find? (conflicts schema current) =
            visited.find? (conflicts schema current) := by
          simp [conflicts, hd, himmutable]
        rw [hfind, ih, List.filter_cons_of_pos hd]
        cases visited.find? (conflicts schema current) <;> simp [himmutable, Except.map]

/-- The attribute's name does not start with an underscore, the service does not assign it, and the
current attributes have none of its name or another value under it. -/
structure Differs (schema : Schema) (current : Attributes) (e : String × Value) : Prop where
  name : e.1.toList.head? ≠ some '_'
  mutability : schema.mutability? e.1 ≠ some .output
  value : ∀ v, current.get? e.1 = some v → ¬ v.Equal e.2

theorem agrees_iff (hcurrent : current.WellFormed) (he : e.2.WellFormed) :
    agrees current e.1 e.2 = true ↔ ∃ v, current.get? e.1 = some v ∧ v.Equal e.2 := by
  unfold agrees
  cases hget : current.get? e.1 with
  | none => simp
  | some v =>
    have hv : v.WellFormed := hcurrent.values _ (Dictionary.mem_of_get? hget)
    simp [Value.same_iff hv he]

theorem differs_iff (hcurrent : current.WellFormed) (he : e.2.WellFormed) :
    differs schema current e = true ↔ Differs schema current e := by
  rw [differs, Bool.and_eq_true, Bool.not_eq_true', ← Bool.not_eq_true, agrees_iff hcurrent he, compares,
    Bool.and_eq_true, bne_iff_ne, bne_iff_ne]
  constructor
  · rintro ⟨⟨hname, hmutability⟩, hvalue⟩
    exact ⟨hname, hmutability, fun v hv hequal => hvalue ⟨v, hv, hequal⟩⟩
  · rintro ⟨hname, hmutability, hvalue⟩
    refine ⟨⟨hname, hmutability⟩, ?_⟩
    rintro ⟨v, hv, hequal⟩
    exact hvalue v hv hequal

/-- What a comparison gives when the filled-in attributes are visited in this order. -/
def changedIn (schema : Schema) (current visited : Attributes) :
    Except ConfigurationError (List String) :=
  (differing schema current visited).map List.mergeSort

theorem changedIn_eq_error_iff {defect : ConfigurationError} :
    changedIn schema current visited = .error defect ↔
      ∃ e, visited.find? (conflicts schema current) = some e ∧ defect = .immutable e.1 := by
  rw [changedIn, differing_eq]
  cases visited.find? (conflicts schema current) <;> simp [Except.map, eq_comm]

theorem changedIn_eq_ok_iff {names : List String} :
    changedIn schema current visited = .ok names ↔
      (∀ e ∈ visited, conflicts schema current e = false) ∧
        names = ((visited.filter (differs schema current)).map Prod.fst).mergeSort := by
  have hnone : (∀ e ∈ visited, conflicts schema current e = false) ↔
      visited.find? (conflicts schema current) = none := by
    simp
  rw [changedIn, differing_eq, hnone]
  cases visited.find? (conflicts schema current) <;> simp [Except.map, eq_comm]

/-- Different names are in strictly ascending order when they are sorted. -/
theorem pairwise_lt_mergeSort {names : List String} (hd : names.Nodup) :
    names.mergeSort.Pairwise (· < ·) := by
  have hle : names.mergeSort.Pairwise (· ≤ ·) := (stableOrder_mergeSort id names).ascending
  have hne : names.mergeSort.Pairwise (· ≠ ·) := (List.mergeSort_perm names _).nodup_iff.2 hd
  refine (hle.and hne).imp fun {a b} h => ?_
  exact String.not_le.1 fun hba => h.2 (String.le_antisymm h.1 hba)

section Exact

variable {filled : Attributes} (hfilled : filled.WellFormed) (hcurrent : current.WellFormed)
include hfilled hcurrent

theorem conflicts_iff (he : e ∈ filled) :
    conflicts schema current e = true ↔
      Differs schema current e ∧ schema.mutability? e.1 = some .immutable := by
  rw [conflicts, Bool.and_eq_true, differs_iff hcurrent (hfilled.values e he), decide_eq_true_iff]

/-- A comparison that is refused has met an attribute that is set at creation only and differs. -/
theorem of_changedIn_eq_error (hvisited : visited.Perm filled) {defect : ConfigurationError}
    (h : changedIn schema current visited = .error defect) :
    ∃ e ∈ filled, defect = .immutable e.1 ∧ Differs schema current e ∧
      schema.mutability? e.1 = some .immutable := by
  obtain ⟨e, hfind, rfl⟩ := changedIn_eq_error_iff.1 h
  have he := hvisited.subset (List.mem_of_find?_eq_some hfind)
  exact ⟨e, he, rfl, (conflicts_iff hfilled hcurrent he).1 (List.find?_some hfind)⟩

/-- Such an attribute is met in any order. -/
theorem exists_changedIn_eq_error_iff (hvisited : visited.Perm filled) :
    (∃ defect, changedIn schema current visited = .error defect) ↔
      ∃ e ∈ filled, Differs schema current e ∧ schema.mutability? e.1 = some .immutable := by
  constructor
  · rintro ⟨defect, h⟩
    obtain ⟨e, he, -, hdiffers⟩ := of_changedIn_eq_error hfilled hcurrent hvisited h
    exact ⟨e, he, hdiffers⟩
  · rintro ⟨e, he, h⟩
    have hsome : (visited.find? (conflicts schema current)).isSome = true :=
      List.find?_isSome.2 ⟨e, hvisited.symm.subset he, (conflicts_iff hfilled hcurrent he).2 h⟩
    obtain ⟨first, hfind⟩ := Option.isSome_iff_exists.1 hsome
    exact ⟨_, changedIn_eq_error_iff.2 ⟨first, hfind, rfl⟩⟩

/-- The names that are found are those of the attributes that differ. -/
theorem mem_of_changedIn_iff (hvisited : visited.Perm filled) {names : List String}
    (h : changedIn schema current visited = .ok names) (f : String) :
    f ∈ names ↔ ∃ v, (f, v) ∈ filled ∧ Differs schema current (f, v) := by
  obtain ⟨-, rfl⟩ := changedIn_eq_ok_iff.1 h
  rw [List.mem_mergeSort, List.mem_map]
  constructor
  · rintro ⟨⟨f, v⟩, he, rfl⟩
    obtain ⟨he, hdiffers⟩ := List.mem_filter.1 he
    have he := hvisited.subset he
    exact ⟨v, he, (differs_iff hcurrent (hfilled.values _ he)).1 hdiffers⟩
  · rintro ⟨v, he, hdiffers⟩
    refine ⟨(f, v), List.mem_filter.2 ⟨hvisited.symm.subset he, ?_⟩, rfl⟩
    exact (differs_iff hcurrent (hfilled.values _ he)).2 hdiffers

/-- With what is declared in the place of what differs, nothing differs. -/
theorem changedIn_replaced (hvisited : visited.Perm filled) {names : List String}
    (h : changedIn schema current visited = .ok names) {current' visited' : Attributes}
    (hreplaced : ∀ k, current'.get? k = if k ∈ names then filled.get? k else current.get? k)
    (hvisited' : visited'.Perm filled) : changedIn schema current' visited' = .ok [] := by
  have hnone : ∀ e ∈ visited', differs schema current' e = false := by
    rintro ⟨k, v⟩ he
    replace he := hvisited'.subset he
    have hk := hreplaced k
    have hmem := mem_of_changedIn_iff hfilled hcurrent hvisited h k
    by_cases hchanged : k ∈ names
    · rw [if_pos hchanged, Dictionary.get?_of_mem hfilled.distinct he] at hk
      simp [differs, agrees, hk, Value.same_refl (hfilled.values _ he)]
    · -- the attribute has not been replaced, because it does not differ
      rw [if_neg hchanged] at hk
      have hnot : ¬ Differs schema current (k, v) := fun hdiffers => hchanged (hmem.2 ⟨v, he, hdiffers⟩)
      rw [← differs_iff hcurrent (hfilled.values _ he), Bool.not_eq_true] at hnot
      rw [← hnot]
      simp only [differs, agrees, hk]
  rw [changedIn_eq_ok_iff]
  refine ⟨fun e he => by rw [conflicts, hnone e he, Bool.false_and], ?_⟩
  have hfilter : visited'.filter (differs schema current') = [] :=
    List.filter_eq_nil_iff.2 fun e he => by rw [hnone e he]; exact Bool.false_ne_true
  rw [hfilter, List.map_nil, List.mergeSort_nil]

end Exact

/-- The names that are found are in strictly ascending order. -/
theorem pairwise_of_changedIn (hd : visited.Distinct) {names : List String}
    (h : changedIn schema current visited = .ok names) : names.Pairwise (· < ·) := by
  obtain ⟨-, rfl⟩ := changedIn_eq_ok_iff.1 h
  exact pairwise_lt_mergeSort (hd.sublist (List.filter_sublist.map Prod.fst))

/-- **A comparison finds exactly what differs**, in whatever order the attributes are visited. It is
refused exactly when an attribute that is set at creation only differs, and then for such an attribute.
Otherwise it gives the attributes that are compared and differ, in strictly ascending order. When just
these are replaced by what is declared, nothing differs any more, and to declare what is filled in makes
no difference. -/
theorem changed_exactly_differing (hschema : schema.WellFormed) (hdesired : desired.WellFormed)
    (hcurrent : current.WellFormed) :
    let filled := schema.withDefaults desired
    (∀ visited, visited.Perm filled →
      ((∃ defect, changedIn schema current visited = .error defect) ↔
        ∃ e ∈ filled, Differs schema current e ∧ schema.mutability? e.1 = some .immutable) ∧
      (∀ defect, changedIn schema current visited = .error defect →
        ∃ e ∈ filled, defect = .immutable e.1 ∧ Differs schema current e ∧
          schema.mutability? e.1 = some .immutable) ∧
      ∀ names, changedIn schema current visited = .ok names →
        names.Pairwise (· < ·) ∧
        (∀ f, f ∈ names ↔ ∃ v, (f, v) ∈ filled ∧ Differs schema current (f, v)) ∧
        ∀ current' : Attributes,
          (∀ k, current'.get? k = if k ∈ names then filled.get? k else current.get? k) →
          ∀ visited', visited'.Perm filled → changedIn schema current' visited' = .ok []) ∧
    changed schema desired current = changedIn schema current filled ∧
    schema.withDefaults filled = filled ∧
    changed schema filled current = changed schema desired current := by
  intro filled
  have hfilled : filled.WellFormed := hschema.withDefaults hdesired
  have hagain : schema.withDefaults filled = filled := Schema.withDefaults_withDefaults
  refine ⟨fun visited hvisited => ⟨exists_changedIn_eq_error_iff hfilled hcurrent hvisited,
    fun defect => of_changedIn_eq_error hfilled hcurrent hvisited, fun names h => ⟨?_, ?_, ?_⟩⟩,
    rfl, hagain, by rw [changed, hagain, changed]⟩
  · exact pairwise_of_changedIn ((hvisited.map Prod.fst).nodup_iff.2 hfilled.distinct) h
  · exact mem_of_changedIn_iff hfilled hcurrent hvisited h
  · exact fun current' hreplaced visited' => changedIn_replaced hfilled hcurrent hvisited h hreplaced

/-- A group's tags are omitted, one of its attributes is outside the schema, and the entries of another
one are in another order. -/
theorem changed_exactly_differing_reordered :
    let schema := Provider.ManagedType.group.schema
    let desired : Attributes := [
      ("name", .string "rg"), ("location", .string "westeurope"), ("_origin", .string "file"),
      ("color", .string "red"), ("owners", .map [("a", .int 1), ("b", .list [])])]
    let current : Attributes := [
      ("owners", .map [("b", .list []), ("a", .int 1)]), ("location", .string "westeurope"),
      ("id", .string "/subscriptions/sub/resourceGroups/rg"), ("name", .string "rg")]
    let replaced : Attributes := [("color", .string "red"), ("tags", .map [])] ++ current
    schema.WellFormed ∧ desired.WellFormed ∧ current.WellFormed ∧
      changed schema desired current = .ok ["color", "tags"] ∧
      (∀ k, replaced.get? k =
        if k ∈ ["color", "tags"] then (schema.withDefaults desired).get? k else current.get? k) ∧
      changedIn schema replaced (schema.withDefaults desired).reverse = .ok [] := by
  intro schema desired current replaced
  have hschema : schema.WellFormed := Provider.ManagedType.group.schema_wellFormed
  have hdesired : desired.WellFormed := by
    refine ⟨by decide, ?_⟩
    simp only [desired, List.forall_mem_cons]
    refine ⟨.string _, .string _, .string _, .string _, .map (by decide) ?_, List.forall_mem_nil _⟩
    simp only [List.forall_mem_cons]
    exact ⟨.int _, .list (List.forall_mem_nil _), List.forall_mem_nil _⟩
  have hcurrent : current.WellFormed := by
    refine ⟨by decide, ?_⟩
    simp only [current, List.forall_mem_cons]
    refine ⟨.map (by decide) ?_, .string _, .string _, .string _, List.forall_mem_nil _⟩
    simp only [List.forall_mem_cons]
    exact ⟨.list (List.forall_mem_nil _), .int _, List.forall_mem_nil _⟩
  have hchanged : changed schema desired current = .ok ["color", "tags"] := by
    have hdiffering : differing schema current (schema.withDefaults desired) =
        .ok ["color", "tags"] := by decide
    rw [changed, hdiffering]
    exact congrArg Except.ok (List.mergeSort_of_pairwise (by decide))
  have hreplaced : ∀ k, replaced.get? k =
      if k ∈ ["color", "tags"] then (schema.withDefaults desired).get? k else current.get? k := by
    intro k
    by_cases hcolor : k = "color"
    · rw [hcolor]
      rfl
    by_cases htags : k = "tags"
    · rw [htags]
      rfl
    rw [if_neg (by simp [hcolor, htags])]
    simp only [replaced, List.cons_append, List.nil_append, Dictionary.get?_cons, if_neg (Ne.symm hcolor),
      if_neg (Ne.symm htags)]
  obtain ⟨hexact, heq, -⟩ := changed_exactly_differing hschema hdesired hcurrent
  obtain ⟨-, -, hok⟩ := hexact _ (List.Perm.refl _)
  obtain ⟨-, -, hagain⟩ := hok _ (heq.symm.trans hchanged)
  exact ⟨hschema, hdesired, hcurrent, hchanged, hreplaced,
    hagain replaced hreplaced _ (List.reverse_perm _)⟩

end Plan
end AzureProvisioning
