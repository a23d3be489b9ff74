/-
# Groups in their own spelling

A group that is taken over from the service has its location in programmatic form, so it is read back
from its attributes as it is, except for a location that is empty (`declaredFields_last`). A declared
location is brought into that form. `canonical` says so of the two sides of a comparison.
-/

import AzureProvisioning.Proofs.Group.Attributes
import AzureProvisioning.Proofs.Plan.Spelling

namespace AzureProvisioning
namespace Group

/-- What is compared of a group are its declared fields. -/
theorem get?_toAttributes_iff {g : Group} {k : String} {v : Value}
    (hc : Plan.compares schema k = true) :
    g.toAttributes.get? k = some v ↔ (k, some v) ∈ g.declaredFields :=
  Plan.get?_ofSet_iff g.toAttributes_distinct compares_assigned hc

/-- The location is in programmatic form. -/
def Settled (g : Group) : Prop :=
  ∀ l, g.location = some l → Region.normalize l = l

theorem settled_hydrate (before : Group) (stored : ResourceGroup) :
    (before.hydrate stored).Settled := by
  intro l hl
  rw [← Option.some.inj hl]
  exact Region.normalize_normalize _

/-- Reading a group never fails with the change of an attribute. -/
theorem notImmutable_ofAttributes (attributes : Attributes) :
    NotImmutable (ofAttributes attributes) := by
  have htext := attributes.notImmutable_optionalString
  exact (attributes.notImmutable_requiredString _).bind fun _ => (htext _).bind fun _ =>
    (attributes.notImmutable_stringMap _).bind fun _ => (htext _).bind fun _ =>
    (htext _).bind fun _ => notImmutable_ok _

variable {current last : Group} {identifier : String}

/-- **A settled group is read back from its attributes**, an empty location as absent. -/
theorem declaredFields_last (h : current.Settled)
    (hlast : ofAttributes (current.toAttributes.insert "id" (.string identifier)) = .ok last) :
    last.declaredFields = current.withoutBlankLocation.declaredFields := by
  have hget : ∀ {k : String}, "id" ≠ k →
      Dictionary.get? (current.toAttributes.insert "id" (.string identifier)) k =
        (current.fields.lookup k).join := by
    intro k hk
    rw [Dictionary.get?_insert, if_neg hk, get?_toAttributes]
  have hread := ofAttributes_eq_ok_iff.1 hlast
  have hname : last.name = current.name := Value.string.inj (Option.some.inj
    ((Attributes.get?_of_requiredString hread.name).symm.trans (hget (by decide))))
  have htags : last.tags = current.tags := Except.ok.inj
    (hread.tags.symm.trans (Attributes.stringMap_of_get? (hget (by decide))))
  have hlocation : last.location = current.location.filter (· ≠ "") := by
    obtain ⟨o, ho, hnormal⟩ := hread.location
    rw [hnormal, ← Except.ok.inj
      ((Attributes.optionalString_of_map (hget (k := "location") (by decide))).symm.trans ho)]
    cases hl : current.location with
    | none => rfl
    | some l => by_cases hne : l = "" <;> simp [hne, Option.filter_some, h l hl]
  rw [declaredFields, hname, htags, hlocation]
  rfl

theorem mem_declaredFields_withoutBlankLocation {g : Group} {k : String} {v : Value} :
    (k, some v) ∈ g.withoutBlankLocation.declaredFields ↔
      (k, some v) ∈ g.declaredFields ∧ (k = "location" → v ≠ .string "") := by
  by_cases hk : k = "location"
  · subst hk
    simpa [declaredFields, withoutBlankLocation] using Attributes.map_string_filter_eq_some
  · simp [declaredFields, withoutBlankLocation, hk]

/-- **Where a declared field agrees as it is spelled, the group's own spelling agrees too.** -/
theorem follows {declared : Attributes} {desired : Group} (h : Decodes declared desired)
    (hcurrent : current.Settled) {k : String} {v : Value}
    (hv : (k, some v) ∈ desired.declaredFields) :
    Plan.Follows schema declared current.toAttributes k v := by
  simp only [declaredFields, List.mem_cons, List.not_mem_nil, or_false, Prod.mk.injEq,
    Option.some.injEq] at hv
  rcases hv with ⟨rfl, rfl⟩ | ⟨rfl, hv⟩ | ⟨rfl, rfl⟩
  · exact .of_required h.name
  · obtain ⟨location, hlocation, rfl⟩ := Option.map_eq_some_iff.1 hv.symm
    exact .of_region hlocation h.location (get?_toAttributes current "location") hcurrent
  · exact .of_map h.tags ⟨_, rfl, rfl⟩

/-- **A declared group and one taken over from the service, each with what its record makes of it.** -/
theorem canonical {declared : Attributes} {desired : Group}
    (hdesired : ofAttributes declared = .ok desired) (hcurrent : current.Settled)
    (hlast : ofAttributes (current.toAttributes.insert "id" (.string identifier)) = .ok last) :
    Plan.Canonical schema declared desired.toAttributes current.toAttributes last.toAttributes where
  reported_of_last k v hc hv := by
    rw [get?_toAttributes_iff hc] at hv ⊢
    rw [declaredFields_last hcurrent hlast, mem_declaredFields_withoutBlankLocation] at hv
    exact hv.1
  last_of_reported k v hc hv hne := by
    rw [get?_toAttributes_iff hc] at hv ⊢
    rw [declaredFields_last hcurrent hlast, mem_declaredFields_withoutBlankLocation]
    exact ⟨hv, fun _ => hne⟩
  follows k v hc hv :=
    follows (ofAttributes_eq_ok_iff.1 hdesired) hcurrent ((get?_toAttributes_iff hc).1 hv)
  distinct := desired.toAttributes_distinct
  withDefaults := desired.withDefaults_toAttributes

end Group
end AzureProvisioning
