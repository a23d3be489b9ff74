/-
# Plans and spelling

A plan compares the attributes of a declaration as they are spelled. An update compares what the two
sides are once they have passed through the record of their type, which gives selectors and regions one
spelling and leaves out what it does not know. `Plan.Canonical` says what such a pass does to the two
sides, and from it follows where the two comparisons agree: everywhere but at the attributes whose
spelling the pass changes, and that do not agree with what was reported (`Plan.Misjudged`).
-/

import AzureProvisioning.Proofs.Plan
import AzureProvisioning.Proofs.Region

namespace AzureProvisioning
namespace Plan

variable {schema : Schema} {declared desired reported last : Attributes}

/-- The declaration spells a value, and where its spelling agrees with what is reported, the value does
too. -/
def Follows (schema : Schema) (declared reported : Attributes) (k : String) (v : Value) : Prop :=
  ∃ spelled, (k, spelled) ∈ schema.withDefaults declared ∧ spelled ≠ .string "" ∧
    ∀ found, reported.get? k = some found → Value.same found spelled = true →
      Value.same found v = true

/-- The declared and the reported attributes with what they are once they have passed through a
record. -/
structure Canonical (schema : Schema) (declared desired reported last : Attributes) : Prop where
  /-- The pass leaves what is reported as it is, … -/
  reported_of_last : ∀ k v, compares schema k = true → last.get? k = some v →
    reported.get? k = some v
  /-- … except for a text that counts as absent. -/
  last_of_reported : ∀ k v, compares schema k = true → reported.get? k = some v → v ≠ .string "" →
    last.get? k = some v
  /-- What the pass makes of a declared value is what is reported, if the declared one is. -/
  follows : ∀ k v, compares schema k = true → desired.get? k = some v →
    Follows schema declared reported k v
  distinct : desired.Distinct
  withDefaults : schema.withDefaults desired = desired

/-- The plan finds a difference in an attribute that the pass has spelled otherwise, or left out. -/
structure Misjudged (schema : Schema) (declared desired reported : Attributes) (k : String)
    (v : Value) : Prop where
  declared : (k, v) ∈ schema.withDefaults declared
  compared : compares schema k = true
  respelled : desired.get? k ≠ some v
  differs : agrees reported k v = false

/-- What is compared of a record are its declared fields. -/
theorem get?_ofSet_iff {fields assigned : List (String × Option Value)}
    (hd : (Attributes.ofSet (fields ++ assigned)).Distinct)
    (hassigned : ∀ f ∈ assigned.map Prod.fst, compares schema f = false) {k : String} {v : Value}
    (hc : compares schema k = true) :
    (Attributes.ofSet (fields ++ assigned)).get? k = some v ↔ (k, some v) ∈ fields := by
  constructor
  · intro h
    obtain hdeclared | hother := List.mem_append.1 (Attributes.mem_ofSet.1 (Dictionary.mem_of_get? h))
    · exact hdeclared
    · exact absurd (hc.symm.trans (hassigned k (List.mem_map_of_mem hother))) (by decide)
  · intro h
    exact Dictionary.get?_of_mem hd (Attributes.mem_ofSet.2 (List.mem_append_left _ h))

theorem agrees_eq_true_iff {current : Attributes} {k : String} {v : Value} :
    agrees current k v = true ↔ ∃ found, current.get? k = some found ∧ Value.same found v = true := by
  unfold agrees
  cases current.get? k <;> simp

namespace Follows

variable {k : String} {v : Value}

/-- A value that stands as it is spelled. -/
theorem of_mem (h : (k, v) ∈ schema.withDefaults declared) (hne : v ≠ .string "") :
    Follows schema declared reported k v :=
  ⟨v, h, hne, fun _ _ hsame => hsame⟩

/-- A text that has to be there stands as it is spelled. -/
theorem of_required {s : String} (h : declared.requiredString k = .ok s) :
    Follows schema declared reported k (.string s) :=
  of_mem (Schema.mem_withDefaults (Attributes.get?_of_requiredString h)) fun hempty =>
    Attributes.requiredString_ne_empty h (Value.string.inj hempty)

/-- What is made of a text, if what is reported is left as it is. -/
theorem of_text {s : String} (h : declared.optionalString k = .ok (some s))
    (hform : reported.get? k = some (.string s) → v = .string s) :
    Follows schema declared reported k v := by
  refine ⟨.string s, Schema.mem_withDefaults (Attributes.get?_of_optionalString h), ?_, ?_⟩
  · intro hempty
    exact Attributes.optionalString_ne_empty h (by rw [Value.string.inj hempty])
  · intro found hfound hsame
    rw [hform (Value.eq_of_same_string hsame ▸ hfound)]
    exact hsame

/-- A declared region, where what is reported is in programmatic form. -/
theorem of_region {region found? : Option String} {r : String} (hregion : region = some r)
    (hread : ∃ o, declared.optionalString k = .ok o ∧ region = o.map Region.normalize)
    (hget : reported.get? k = found?.map .string)
    (hnormal : ∀ w, found? = some w → Region.normalize w = w) :
    Follows schema declared reported k (.string r) := by
  obtain ⟨o, ho, hnormalized⟩ := hread
  obtain ⟨s, rfl, rfl⟩ := Option.map_eq_some_iff.1 (hnormalized.symm.trans hregion)
  refine .of_text ho fun hspelled => ?_
  obtain ⟨w, hw, hws⟩ := Option.map_eq_some_iff.1 (hget.symm.trans hspelled)
  rw [← Value.string.inj hws, hnormal w hw]

/-- What is made of a list of texts, if what is reported is left as it is. -/
theorem of_list {items : List String} (h : declared.stringList k = .ok items)
    (himplied : ∃ a, schema.attributes.get? k = some a ∧ a.implied? = some (.ofStrings []))
    (hform : reported.get? k = some (.ofStrings items) → v = .ofStrings items) :
    Follows schema declared reported k v := by
  refine ⟨.ofStrings items, ?_, nofun, ?_⟩
  · obtain hget | ⟨hget, rfl⟩ := Attributes.get?_of_stringList h
    · exact Schema.mem_withDefaults hget
    · obtain ⟨a, ha, hv⟩ := himplied
      exact Schema.mem_withDefaults_of_omitted hget ha hv
  · intro found hfound hsame
    rw [hform (Value.eq_of_same_ofStrings hsame ▸ hfound)]
    exact hsame

/-- A map of texts stands as it is spelled. -/
theorem of_map {entries : Dictionary String String} (h : declared.stringMap k = .ok entries)
    (himplied : ∃ a, schema.attributes.get? k = some a ∧ a.implied? = some (.ofStringMap [])) :
    Follows schema declared reported k (.ofStringMap entries) := by
  refine of_mem ?_ nofun
  obtain hget | ⟨hget, rfl⟩ := Attributes.get?_of_stringMap h
  · exact Schema.mem_withDefaults hget
  · obtain ⟨a, ha, hv⟩ := himplied
    exact Schema.mem_withDefaults_of_omitted hget ha hv

end Follows

namespace Canonical

variable (h : Canonical schema declared desired reported last)
include h

/-- A value that agrees after the pass agrees with what was reported. -/
theorem agrees_reported {k : String} {v : Value} (hc : compares schema k = true)
    (hlast : agrees last k v = true) : agrees reported k v = true := by
  obtain ⟨found, hfound, hsame⟩ := agrees_eq_true_iff.1 hlast
  exact agrees_eq_true_iff.2 ⟨found, h.reported_of_last k found hc hfound, hsame⟩

/-- **A declared value that agrees as it is spelled agrees after the pass.** -/
theorem exists_spelled {k : String} {v : Value} (hc : compares schema k = true)
    (hv : (k, v) ∈ desired) :
    ∃ spelled, (k, spelled) ∈ schema.withDefaults declared ∧
      (agrees reported k spelled = true → agrees last k v = true) := by
  obtain ⟨spelled, hmem, hne, hfollows⟩ := h.follows k v hc (Dictionary.get?_of_mem h.distinct hv)
  refine ⟨spelled, hmem, fun hagrees => ?_⟩
  obtain ⟨found, hfound, hsame⟩ := agrees_eq_true_iff.1 hagrees
  have hfound' : found ≠ .string "" := by
    rintro rfl
    cases spelled with
    | string s =>
      rw [Value.same, beq_iff_eq] at hsame
      exact hne (by rw [← hsame])
    | int | bool | list | map => simp [Value.same] at hsame
  exact agrees_eq_true_iff.2
    ⟨found, h.last_of_reported k found hc hfound hfound', hfollows found hfound hsame⟩

/-- A value that the pass leaves as it is spelled is compared after it as before. -/
theorem agrees_of_not_misjudged {k : String} {v : Value} (hc : compares schema k = true)
    (hv : (k, v) ∈ schema.withDefaults declared)
    (hnot : ¬ Misjudged schema declared desired reported k v)
    (hdesired : (k, v) ∈ desired → agrees last k v = true) : agrees reported k v = true := by
  by_cases hspelled : desired.get? k = some v
  · exact h.agrees_reported hc (hdesired (Dictionary.mem_of_get? hspelled))
  · rw [← Bool.not_eq_false]
    exact fun hdiffers => hnot ⟨hv, hc, hspelled, hdiffers⟩

/-- **A plan has nothing to do exactly when the comparison after the pass finds nothing**, and no
attribute is misjudged. -/
theorem changed_eq_nil_iff :
    changed schema declared reported = .ok [] ↔
      changed schema desired last = .ok [] ∧
        ¬ ∃ k v, Misjudged schema declared desired reported k v := by
  rw [Plan.changed_eq_nil_iff, Plan.changed_eq_nil_iff, h.withDefaults]
  constructor
  · refine fun hagrees => ⟨fun e he hc => ?_, ?_⟩
    · obtain ⟨spelled, hmem, hfollows⟩ := h.exists_spelled hc he
      exact hfollows (hagrees (e.1, spelled) hmem hc)
    · rintro ⟨k, v, hmisjudged⟩
      exact Bool.false_ne_true
        (hmisjudged.differs.symm.trans (hagrees (k, v) hmisjudged.declared hmisjudged.compared))
  · rintro ⟨hagrees, hnone⟩ e he hc
    exact h.agrees_of_not_misjudged hc he (fun hmisjudged => hnone ⟨_, _, hmisjudged⟩)
      fun hmem => hagrees e hmem hc

/-- **A plan refuses a change of what is set at creation only exactly when the comparison after the
pass does**, or such an attribute is misjudged. -/
theorem exists_immutable_iff :
    (∃ field, changed schema declared reported = .error (.immutable field)) ↔
      (∃ field, changed schema desired last = .error (.immutable field)) ∨
        ∃ k v, Misjudged schema declared desired reported k v ∧
          schema.mutability? k = some .immutable := by
  rw [Plan.exists_immutable_iff, Plan.exists_immutable_iff, h.withDefaults]
  constructor
  · rintro ⟨⟨k, v⟩, hmem, hc, himmutable, hdiffers⟩
    by_cases hspelled : desired.get? k = some v
    · refine .inl ⟨(k, v), Dictionary.mem_of_get? hspelled, hc, himmutable, ?_⟩
      rw [← Bool.not_eq_true]
      exact fun hlast => Bool.false_ne_true (hdiffers.symm.trans (h.agrees_reported hc hlast))
    · exact .inr ⟨k, v, ⟨hmem, hc, hspelled, hdiffers⟩, himmutable⟩
  · rintro (⟨⟨k, v⟩, hmem, hc, himmutable, hdiffers⟩ | ⟨k, v, hmisjudged, himmutable⟩)
    · obtain ⟨spelled, hspelled, hfollows⟩ := h.exists_spelled hc hmem
      refine ⟨(k, spelled), hspelled, hc, himmutable, ?_⟩
      rw [← Bool.not_eq_true]
      exact fun hagrees => Bool.false_ne_true (hdiffers.symm.trans (hfollows hagrees))
    · exact ⟨(k, v), hmisjudged.declared, hmisjudged.compared, himmutable, hmisjudged.differs⟩

end Canonical
end Plan
end AzureProvisioning
