/-
# Comparing accounts

The attributes that an account writes hold every attribute that stands for something when omitted,
so two accounts are compared as they write themselves (`withDefaults_toAttributes`). They do not
differ when one has the other's fields, those apart that the service assigns (`changed_eq_nil`).
-/

import AzureProvisioning.Proofs.Account.Attributes
import AzureProvisioning.Proofs.Plan

namespace AzureProvisioning
namespace Account

/-- The attributes of an account that stand for something when they are omitted. -/
theorem implied_mem : ∀ e ∈ schema.attributes, e.2.implied?.isSome = true →
    e.1 ∈ ["ip_range_filter", "virtual_network_rules", "read_regions", "enable_automatic_failover",
      "tags"] := by
  decide +kernel

theorem withDefaults_toAttributes (a : Account) :
    schema.withDefaults a.toAttributes = a.toAttributes := by
  refine Schema.withDefaults_of_contains fun e he hi => ?_
  have hmem := implied_mem e he (Option.isSome_iff_ne_none.2 hi)
  rw [Dictionary.contains, get?_toAttributes]
  simp only [List.mem_cons, List.not_mem_nil, or_false] at hmem
  rcases hmem with h | h | h | h | h <;> rw [h] <;> rfl

theorem toAttributes_withoutIdleBounds (a : Account) :
    a.withoutIdleBounds.toAttributes = a.toAttributes := by
  have hfields : a.withoutIdleBounds.fields = a.fields := by
    by_cases h : a.consistencyLevel = some .boundedStaleness <;>
      simp [fields, declaredFields, assignedFields, withoutIdleBounds, h]
  rw [toAttributes, hfields]
  rfl

theorem mutability?_of_mem_fieldNames : ∀ f ∈ fieldNames, schema.mutability? f ≠ none := by
  decide +kernel

/-- What differs between a declared account and another one can be updated. -/
theorem updatable_of_mem_changed {desired : Account} {current : Attributes} {names : List String}
    (h : Plan.changed schema desired.toAttributes current = .ok names) {f : String}
    (hf : f ∈ names) : schema.mutability? f = some .updatable := by
  refine Plan.updatable_of_mem_changed h (fun e he => ?_) hf
  rw [withDefaults_toAttributes] at he
  refine mutability?_of_mem_fieldNames e.1 ?_
  rw [← map_fst_fields desired]
  exact List.mem_map_of_mem (Attributes.mem_ofSet.1 he)

/-- So whatever differs is something to write. -/
theorem exists_updatable_of_changed {desired : Account} {current : Attributes} {names : List String}
    (h : Plan.changed schema desired.toAttributes current = .ok names) (hne : names ≠ []) :
    ∃ f ∈ names, schema.mutability? f = some .updatable := by
  obtain ⟨f, rest, rfl⟩ := List.exists_cons_of_ne_nil hne
  exact ⟨f, List.mem_cons_self, updatable_of_mem_changed h List.mem_cons_self⟩

theorem wellFormed_of_mem_declaredFields {a : Account} (htags : a.tags.Distinct) {k : String}
    {v : Value} (h : (k, some v) ∈ a.declaredFields) : v.WellFormed := by
  have hmap : ∀ {α : Type} {o : Option α} {f : α → Value}, (∀ x, (f x).WellFormed) →
      some v = o.map f → v.WellFormed := by
    intro α o f hf h
    obtain ⟨x, -, rfl⟩ := Option.map_eq_some_iff.1 h.symm
    exact hf x
  have hbound : ∀ {c : Prop} [Decidable c] {o : Option Int64},
      some v = (if c then o.map .int else none) → v.WellFormed := by
    intro c _ o h
    split at h
    · exact hmap .int h
    · cases h
  have hsome : ∀ {w : Value}, w.WellFormed → some v = some w → v.WellFormed := by
    intro w hw h
    rwa [Option.some.inj h]
  simp only [declaredFields, List.mem_cons, List.not_mem_nil, or_false, Prod.mk.injEq] at h
  rcases h with ⟨-, h⟩ | ⟨-, h⟩ | ⟨-, h⟩ | ⟨-, h⟩ | ⟨-, h⟩ | ⟨-, h⟩ | ⟨-, h⟩ | ⟨-, h⟩ | ⟨-, h⟩ |
    ⟨-, h⟩ | ⟨-, h⟩ | ⟨-, h⟩
  · exact hsome (.string _) h
  · exact hsome (.string _) h
  · exact hmap (fun (k : AccountKind) => .string k.name) h
  · exact hmap (fun (l : ConsistencyLevel) => .string l.name) h
  · exact hbound h
  · exact hbound h
  · exact hsome (Value.wellFormed_ofStrings _) h
  · exact hsome (Value.wellFormed_ofStrings _) h
  · exact hmap .string h
  · exact hsome (Value.wellFormed_ofStrings _) h
  · exact hsome (.bool _) h
  · exact hsome (Value.wellFormed_ofStringMap htags) h

theorem wellFormed_of_mem_toAttributes {a : Account} (htags : a.tags.Distinct) {e : String × Value}
    (h : e ∈ a.toAttributes) : e.2.WellFormed := by
  rcases List.mem_append.1 (Attributes.mem_ofSet.1 h) with h | h
  · exact wellFormed_of_mem_declaredFields htags h
  · simp only [assignedFields, List.mem_cons, List.not_mem_nil, or_false, Prod.mk.injEq] at h
    rcases h with ⟨-, h⟩ | ⟨-, h⟩ | ⟨-, h⟩ <;>
      obtain ⟨s, -, hs⟩ := Option.map_eq_some_iff.1 h.symm <;>
      exact hs ▸ .string s

/-- What the service assigns is not compared. -/
theorem compares_assigned : ∀ f ∈ ["id", "document_endpoint", "provisioning_state"],
    Plan.compares schema f = false := by
  decide +kernel

theorem compares_declared (a : Account) :
    ∀ e ∈ a.declaredFields, Plan.compares schema e.1 = true := by
  have hnames : ∀ f ∈ fieldNames.take 12, Plan.compares schema f = true := by decide +kernel
  have hmap : a.declaredFields.map Prod.fst = fieldNames.take 12 := rfl
  intro e he
  exact hnames e.1 (hmap ▸ List.mem_map_of_mem he)

/-- Every attribute of an accepted declaration is compared. -/
theorem compares_of_mem {attributes : Attributes} {a : Account}
    (hcheck : schema.check attributes = .ok ()) (h : ofAttributes attributes = .ok a) {e : String × Value} (he : e ∈ a.toAttributes) :
    Plan.compares schema e.1 = true := by
  have hdecodes := ofAttributes_eq_ok_iff.1 h
  rcases List.mem_append.1 (Attributes.mem_ofSet.1 he) with hd | ha
  · exact compares_declared a (e.1, some e.2) hd
  · simp only [assignedFields, List.mem_cons, List.not_mem_nil, or_false, Prod.mk.injEq] at ha
    exfalso
    rcases ha with ⟨-, ha⟩ | ⟨-, ha⟩ | ⟨-, ha⟩ <;>
      obtain ⟨s, hs, -⟩ := Option.map_eq_some_iff.1 ha.symm
    · exact Schema.optionalString_ne_some hcheck (by decide +kernel) s (hs ▸ hdecodes.id)
    · exact Schema.optionalString_ne_some hcheck (by decide +kernel) s
        (hs ▸ hdecodes.documentEndpoint)
    · exact Schema.optionalString_ne_some hcheck (by decide +kernel) s
        (hs ▸ hdecodes.provisioningState)

/-- **Accounts with the same declared fields do not differ.** -/
theorem changed_eq_nil {desired live : Account} (htags : desired.tags.Distinct)
    (h : live.declaredFields = desired.declaredFields) :
    Plan.changed schema desired.toAttributes live.toAttributes = .ok [] := by
  have hassigned : ∀ e ∈ desired.assignedFields, Plan.compares schema e.1 = false :=
    fun e he => compares_assigned e.1 (List.mem_map_of_mem he)
  refine Plan.changed_ofSet_eq_nil live.toAttributes_distinct hassigned
    desired.withDefaults_toAttributes (fun k v hv => wellFormed_of_mem_declaredFields htags hv) ?_
  intro k v hv
  rw [← h] at hv
  exact Attributes.mem_ofSet.2 (List.mem_append_left _ hv)

end Account
end AzureProvisioning
