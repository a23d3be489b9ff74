/-
# Accounts in their own spelling

What is taken over from the service has its regions in programmatic form, each once (`settled_hydrate`),
so it is read back from its attributes as it is, except for texts that are empty (`eq_readBack`). What a
declaration gives is spelled anew: its selectors, its regions and its bounds (`exists_spelled`).
`canonical` says so of the two sides of a comparison.
-/

import AzureProvisioning.Proofs.Account.Comparison
import AzureProvisioning.Proofs.Plan.Spelling

namespace AzureProvisioning
namespace Account

/-- The regions placed so far are in programmatic form, the read regions each once. -/
structure Placed (placed : Option String × List String) : Prop where
  write : ∀ w, placed.1 = some w → Region.normalize w = w
  nodup : placed.2.Nodup
  reads : ∀ r ∈ placed.2, Region.normalize r = r

theorem Placed.next {placed : Option String × List String} (h : Placed placed) (location : Location) :
    Placed (placeLocation placed location) := by
  unfold placeLocation
  dsimp only
  split
  · refine ⟨fun w hw => ?_, h.nodup, h.reads⟩
    rw [← Option.some.inj hw]
    exact Region.normalize_normalize _
  · split
    · next hnew =>
      refine ⟨h.write, List.nodup_append.2 ⟨h.nodup, by simp, ?_⟩, fun r hr => ?_⟩
      · rintro a ha b hb rfl
        exact hnew.2 (List.mem_singleton.1 hb ▸ ha)
      · obtain hr | hr := List.mem_append.1 hr
        · exact h.reads r hr
        · rw [List.mem_singleton.1 hr]
          exact Region.normalize_normalize _
    · exact h

theorem placed_splitLocations (locations : List Location) : Placed (splitLocations locations) := by
  have hfold : ∀ (ls : List Location) (placed : Option String × List String),
      Placed placed → Placed (ls.foldl placeLocation placed) := by
    intro ls
    induction ls with
    | nil => exact fun _ h => h
    | cons l ls ih => exact fun placed h => ih _ (h.next l)
  exact hfold _ _ ⟨nofun, List.nodup_nil, List.forall_mem_nil _⟩

/-- **What is taken over from the service has its regions in programmatic form.** -/
theorem settled_hydrate (before : Account) (stored : DatabaseAccount) :
    (before.hydrate stored).Settled where
  write := (placed_splitLocations stored.properties.locations).write
  reads :=
    have h := placed_splitLocations stored.properties.locations
    Region.distinctNames_of_normal h.nodup h.reads

/-- What is compared of an account are its declared fields. -/
theorem get?_toAttributes_iff {a : Account} {k : String} {v : Value}
    (hc : Plan.compares schema k = true) :
    a.toAttributes.get? k = some v ↔ (k, some v) ∈ a.declaredFields :=
  Plan.get?_ofSet_iff a.toAttributes_distinct compares_assigned hc

/-- Reading an account never fails with the change of an attribute. -/
theorem notImmutable_ofAttributes (attributes : Attributes) :
    NotImmutable (ofAttributes attributes) := by
  have hselected {α : Type} {parse : String → Except ConfigurationError α}
      (h : ∀ s, NotImmutable (parse s)) (o : Option String) : NotImmutable (selected parse o) := by
    cases o with
    | none => exact notImmutable_ok none
    | some s => exact (h s).map some
  have hkind (s : String) : NotImmutable (AccountKind.parse s) := by
    unfold AccountKind.parse
    split <;> nofun
  have hlevel (s : String) : NotImmutable (ConsistencyLevel.parse s) := by
    unfold ConsistencyLevel.parse
    split <;> nofun
  have htext := attributes.notImmutable_optionalString
  have hlist := attributes.notImmutable_stringList
  exact (htext _).bind fun kind => (hselected hkind kind).bind fun _ =>
    (htext _).bind fun level => (hselected hlevel level).bind fun _ =>
    (attributes.notImmutable_requiredString _).bind fun _ =>
    (attributes.notImmutable_requiredString _).bind fun _ =>
    (attributes.notImmutable_optionalInt _).bind fun _ =>
    (attributes.notImmutable_optionalInt _).bind fun _ =>
    (hlist _).bind fun _ => (hlist _).bind fun _ => (htext _).bind fun _ => (hlist _).bind fun _ =>
    (attributes.notImmutable_optionalBool _).bind fun _ =>
    (attributes.notImmutable_stringMap _).bind fun _ =>
    (htext _).bind fun _ => (htext _).bind fun _ => (htext _).bind fun _ => notImmutable_ok _

section Last

variable {current last : Account} {identifier : String}

/-- **A settled account is read back from its attributes**, an empty text as absent. -/
theorem eq_readBack (h : current.Settled)
    (hlast : ofAttributes (current.toAttributes.insert "id" (.string identifier)) = .ok last) :
    last = ({ current with id := some identifier } : Account).readBack := by
  have hget : ∀ k ∈ fieldNames,
      Dictionary.get? (current.toAttributes.insert "id" (.string identifier)) k =
        (({ current with id := some identifier } : Account).fields.lookup k).join := by
    intro k hk
    rw [Dictionary.get?_insert, get?_toAttributes]
    simp only [fieldNames, List.mem_cons, List.not_mem_nil, or_false] at hk
    rcases hk with rfl | rfl | rfl | rfl | rfl | rfl | rfl | rfl | rfl | rfl | rfl | rfl | rfl | rfl |
      rfl <;> rfl
  have hread := ofAttributes_eq_ok_iff.1 hlast
  have hname : last.name = current.name := Value.string.inj (Option.some.inj
    ((Attributes.get?_of_requiredString hread.name).symm.trans (hget "name" (by decide))))
  have hgroup : last.group = current.group := Value.string.inj (Option.some.inj
    ((Attributes.get?_of_requiredString hread.group).symm.trans (hget "resource_group" (by decide))))
  have hsettled : ({ current with id := some identifier } : Account).Settled := ⟨h.write, h.reads⟩
  have hback := decodes_readBack (hname ▸ Attributes.requiredString_ne_empty hread.name)
    (hgroup ▸ Attributes.requiredString_ne_empty hread.group) hsettled hget
  exact Except.ok.inj (hlast.symm.trans (ofAttributes_eq_ok_iff.2 hback))

/-- What is read back has the declared fields, but no write region without a name. -/
theorem mem_declaredFields_readBack {a : Account} {k : String} {v : Value} :
    (k, some v) ∈ a.readBack.declaredFields ↔
      (k, some v) ∈ a.declaredFields ∧ (k = "write_region" → v ≠ .string "") := by
  by_cases hk : k = "write_region"
  · subst hk
    simpa [declaredFields, readBack] using Attributes.map_string_filter_eq_some
  · have hother : (k, some v) ∈ a.readBack.declaredFields ↔ (k, some v) ∈ a.declaredFields := by
      by_cases hl : a.consistencyLevel = some .boundedStaleness <;>
        simp [declaredFields, readBack, withoutIdleBounds, hk, hl]
    rw [hother]
    exact ⟨fun h => ⟨h, fun h' => absurd h' hk⟩, And.left⟩

end Last

/-- A selector that is set has been parsed. -/
theorem selected_eq_some {α : Type} {parse : String → Except ConfigurationError α} {o : Option String}
    {a : α} (h : selected parse o = .ok (some a)) : ∃ s, o = some s ∧ parse s = .ok a := by
  cases o with
  | none => cases h
  | some s =>
    rw [selected] at h
    cases hparse : parse s with
    | error e => rw [hparse] at h; cases h
    | ok b =>
      rw [hparse] at h
      exact ⟨s, rfl, (Option.some.inj (Except.ok.inj h)) ▸ hparse⟩

/-- A selector has the spelling of what is reported only if it selects that. -/
theorem follows_selected {α : Type} {parse : String → Except ConfigurationError α} {name : α → String}
    (hparse : ∀ a, parse (name a) = .ok a) {declared reported : Attributes} {k : String} {a : α}
    {reported? : Option α} (hreported : reported.get? k = reported?.map fun a => .string (name a))
    (h : ∃ o, declared.optionalString k = .ok o ∧ selected parse o = .ok (some a)) :
    Plan.Follows schema declared reported k (.string (name a)) := by
  obtain ⟨o, hread, hselected⟩ := h
  obtain ⟨s, rfl, hs⟩ := selected_eq_some hselected
  refine .of_text hread fun hspelled => ?_
  obtain ⟨b, -, hb⟩ := Option.map_eq_some_iff.1 (hreported.symm.trans hspelled)
  rw [← Value.string.inj hb, hparse] at hs
  rw [← Except.ok.inj hs, hb]

/-- **Where a declared field agrees as it is spelled, the account's own spelling agrees too.** -/
theorem follows {declared : Attributes} {desired current : Account} (h : Decodes declared desired)
    (hcurrent : current.Settled) {k : String} {v : Value}
    (hv : (k, some v) ∈ desired.declaredFields) :
    Plan.Follows schema declared current.toAttributes k v := by
  have hget := get?_toAttributes current
  have hbound : ∀ {c : Prop} [Decidable c] {field : String} {o : Option Int64},
      declared.optionalInt field = .ok o → some v = (if c then o.map .int else none) →
      Plan.Follows schema declared current.toAttributes field v := by
    intro c _ field o hread hv
    split at hv
    · obtain ⟨i, -, rfl⟩ := Option.map_eq_some_iff.1 hv.symm
      have hne : Value.int i ≠ .string "" := fun heq => by cases heq
      exact .of_mem (Schema.mem_withDefaults ((Attributes.get?_of_optionalInt hread).trans hv.symm)) hne
    · cases hv
  simp only [declaredFields, List.mem_cons, List.not_mem_nil, or_false, Prod.mk.injEq,
    Option.some.injEq] at hv
  rcases hv with ⟨rfl, rfl⟩ | ⟨rfl, rfl⟩ | ⟨rfl, hv⟩ | ⟨rfl, hv⟩ | ⟨rfl, hv⟩ | ⟨rfl, hv⟩ |
    ⟨rfl, rfl⟩ | ⟨rfl, rfl⟩ | ⟨rfl, hv⟩ | ⟨rfl, rfl⟩ | ⟨rfl, rfl⟩ | ⟨rfl, rfl⟩
  · exact .of_required h.name
  · exact .of_required h.group
  · obtain ⟨kind, hkind, rfl⟩ := Option.map_eq_some_iff.1 hv.symm
    exact follows_selected AccountKind.parse_name (hget "kind") (hkind ▸ h.kind)
  · obtain ⟨level, hlevel, rfl⟩ := Option.map_eq_some_iff.1 hv.symm
    exact follows_selected ConsistencyLevel.parse_name (hget "consistency_level") (hlevel ▸ h.level)
  · exact hbound h.maxInterval hv
  · exact hbound h.maxStalenessPrefix hv
  · exact .of_list h.ipRangeFilter ⟨_, rfl, rfl⟩ fun _ => rfl
  · exact .of_list h.networkRules ⟨_, rfl, rfl⟩ fun _ => rfl
  · obtain ⟨write, hwrite, rfl⟩ := Option.map_eq_some_iff.1 hv.symm
    exact .of_region hwrite h.writeRegion (hget "write_region") hcurrent.write
  · obtain ⟨items, hread, hitems⟩ := h.readRegions
    refine .of_list hread ⟨_, rfl, rfl⟩ fun hspelled => ?_
    have hsame : current.readRegions = items := Value.ofStrings_injective
      (Option.some.inj ((hget "read_regions").symm.trans hspelled))
    rw [hitems, ← hsame, hcurrent.reads]
  · obtain ⟨o, hread, ho⟩ := h.automaticFailover
    have hne : Value.bool desired.automaticFailover ≠ .string "" := fun heq => by cases heq
    refine .of_mem ?_ hne
    have hdeclared := Attributes.get?_of_optionalBool hread
    cases o with
    | none => exact ho ▸ Schema.mem_withDefaults_of_omitted hdeclared rfl rfl
    | some b => exact ho ▸ Schema.mem_withDefaults hdeclared
  · exact .of_map h.tags ⟨_, rfl, rfl⟩

/-- **A declared account and one taken over from the service, each with what its record makes of
it.** -/
theorem canonical {declared : Attributes} {desired current last : Account} {identifier : String}
    (hdesired : ofAttributes declared = .ok desired) (hcurrent : current.Settled)
    (hlast : ofAttributes (current.toAttributes.insert "id" (.string identifier)) = .ok last) :
    Plan.Canonical schema declared desired.toAttributes current.toAttributes last.toAttributes where
  reported_of_last k v hc hv := by
    rw [get?_toAttributes_iff hc] at hv ⊢
    rw [eq_readBack hcurrent hlast, mem_declaredFields_readBack] at hv
    exact hv.1
  last_of_reported k v hc hv hne := by
    rw [get?_toAttributes_iff hc] at hv ⊢
    rw [eq_readBack hcurrent hlast, mem_declaredFields_readBack]
    exact ⟨hv, fun _ => hne⟩
  follows k v hc hv :=
    follows (ofAttributes_eq_ok_iff.1 hdesired) hcurrent ((get?_toAttributes_iff hc).1 hv)
  distinct := desired.toAttributes_distinct
  withDefaults := desired.withDefaults_toAttributes

end Account
end AzureProvisioning
