/-
# Checks in other orders

A map is checked entry by entry, in the order in which the entries are visited, up to the first one that
has not the type. So the check of one value may give several errors, one in each order. They are the errors
that are right about the value (`AttributeType.exists_order_iff`), unless a test of a type looks at the
order itself (`AttributeType.IgnoresOrder`).

For a declaration, `Schema.MayReport` says what is reported of an attribute in some order, and
`Schema.MustReport` of which attributes something is reported in every order. For schemas whose tests
ignore orders, these are the reports that are right and the attributes with which something is wrong
(`Schema.mayReport_iff`, `Schema.mustReport_iff`).
-/

import AzureProvisioning.Proofs.Plan.Differences
import AzureProvisioning.Proofs.Schema.Defects
import AzureProvisioning.Proofs.Values.Orders

namespace AzureProvisioning
namespace AttributeType

/-- No test of the type looks at the order of a map's entries. -/
def IgnoresOrder : AttributeType → Prop
  | custom _ base test =>
    base.IgnoresOrder ∧ ∀ v w : Value, v.WellFormed → v.VisitedAs w → test w = test v
  | list item => item.IgnoresOrder
  | map item => item.IgnoresOrder
  | _ => True

variable {t : AttributeType} {v w : Value} {e : TypeError}

theorem Conforms.of_visitedAs (ht : t.IgnoresOrder) (hv : v.WellFormed) (h : v.VisitedAs w)
    (hc : t.Conforms v) : t.Conforms w := by
  induction hc generalizing w with
  | string | int | bool => cases h.equal; constructor
  | enum hmem hs => cases h.equal; exact .enum hmem hs
  | custom _ htest ih => exact .custom (ih ht.1 hv h) ((ht.2 _ _ hv h).trans htest)
  | @list item items _ ih =>
    obtain ⟨others, rfl, hlength, hitems⟩ := Value.visitedAs_list_iff.1 h
    cases hv with
    | list hv =>
      refine .list fun b hb => ?_
      obtain ⟨i, hb⟩ := List.mem_iff_getElem?.1 hb
      have hi : i < items.length := hlength ▸ (List.getElem?_eq_some_iff.1 hb).1
      have ha := List.getElem?_eq_getElem hi
      exact ih _ (List.getElem_mem hi) ht (hv _ (List.getElem_mem hi)) (hitems i _ b ha hb)
  | @map item entries _ ih =>
    cases hv with
    | map hd hv =>
      obtain ⟨others, rfl, hothers⟩ := (Value.visitedAs_map_iff hd).1 h
      refine .map fun ⟨k, b⟩ hb => ?_
      obtain ⟨a, ha, hab⟩ := hothers.of_get? (Dictionary.get?_of_mem hothers.distinct hb)
      have ha := Dictionary.mem_of_get? ha
      exact ih _ ha ht (hv _ ha) hab

/-- An error that is right in one order is right in any other one. -/
theorem Fails.of_visitedAs (ht : t.IgnoresOrder) (hv : v.WellFormed) (h : v.VisitedAs w)
    (hf : t.Fails w e) : t.Fails v e := by
  induction hf generalizing v with
  | @mismatch t w shape hshape hw =>
    have hname : v.typeName = w.typeName := by cases h.equal <;> rfl
    rw [← hname]
    exact .mismatch hshape (hname ▸ hw)
  | unknownVariant hnone => cases h.equal; exact .unknownVariant hnone
  | base _ ih => exact .base (ih ht.1 hv h)
  | refused hbase htest =>
    exact .refused (hbase.of_visitedAs ht.1 h.wellFormed (h.symm hv)) ((ht.2 _ _ hv h).symm.trans htest)
  | @ofItem item others index b e hb hbefore _ ih =>
    have hsymm := h.symm hv
    obtain ⟨items, rfl, hlength, hitems⟩ := Value.visitedAs_list_iff.1 hsymm
    have hwf := h.wellFormed
    cases hv with
    | list hv =>
      cases hwf with
      | list hw =>
        have hi : index < items.length := hlength ▸ (List.getElem?_eq_some_iff.1 hb).1
        have ha := List.getElem?_eq_getElem hi
        have hmem := List.getElem_mem hi
        have hba := hitems index b _ hb ha
        refine .ofItem ha (fun a ha => ?_) (ih ht (hv _ hmem) (hba.symm (hw b (List.mem_of_getElem? hb))))
        -- what stands before it has the type, in the other order as in this one
        obtain ⟨j, hj, rfl⟩ := List.mem_take_iff_getElem.1 ha
        obtain ⟨hbound, hj⟩ := Nat.lt_min.1 hj
        have hj' : j < others.length := hlength ▸ hj
        have htake : others[j] ∈ others.take index :=
          List.mem_take_iff_getElem.2 ⟨j, Nat.lt_min.2 ⟨hbound, hj'⟩, rfl⟩
        exact (hbefore _ htake).of_visitedAs ht (hw _ (List.getElem_mem hj'))
          (hitems j _ _ (List.getElem?_eq_getElem hj') (List.getElem?_eq_getElem hj))
  | @ofEntry item others k b e hb _ ih =>
    cases h.equal with
    | @map entries _ _ _ =>
      cases hv with
      | map hd hv =>
        obtain ⟨others, hothers', hothers⟩ := (Value.visitedAs_map_iff hd).1 h
        obtain rfl := Value.map.inj hothers'
        obtain ⟨a, ha, hab⟩ := hothers.of_get? (Dictionary.get?_of_mem hothers.distinct hb)
        have ha := Dictionary.mem_of_get? ha
        exact .ofEntry ha (ih ht (hv _ ha) hab)

theorem check_of_typeName_ne {shape : String} (ht : t.shape? = some shape) (hv : v.typeName ≠ shape) :
    t.check v = .error (.mismatch t.name v.typeName) := by
  cases t with
  | custom => cases ht
  | string | int | bool | enum | list | map =>
    obtain rfl := Option.some.inj ht
    cases v with
    | string | int | bool | list | map => first | rfl | exact absurd rfl hv

/-- **Every error that is right is reported in some order.** -/
theorem Fails.exists_order (hv : v.WellFormed) (h : t.Fails v e) :
    ∃ w, v.VisitedAs w ∧ t.check w = .error e := by
  induction h with
  | mismatch ht hne => exact ⟨_, .refl hv, check_of_typeName_ne ht hne⟩
  | unknownVariant hnone =>
    refine ⟨_, .refl hv, if_neg fun hselects => ?_⟩
    obtain ⟨v, hv, hs⟩ := selects_iff.1 hselects
    exact hnone v hv hs
  | base _ ih =>
    obtain ⟨w, hvw, hw⟩ := ih hv
    exact ⟨w, hvw, by rw [check, hw]⟩
  | refused hbase htest =>
    exact ⟨_, .refl hv, by rw [check, check_eq_ok_iff.2 hbase]; simp [htest]⟩
  | @ofItem item items index v e hitem hbefore _ ih =>
    cases hv with
    | list hitems =>
      have hmem := List.mem_of_getElem? hitem
      have hindex := (List.getElem?_eq_some_iff.1 hitem).1
      obtain ⟨w, hvw, hw⟩ := ih (hitems v hmem)
      refine ⟨.list (items.set index w), Value.visitedAs_list_iff.2
        ⟨_, rfl, List.length_set, fun i a b ha hb => ?_⟩, ?_⟩
      · by_cases hi : index = i
        · subst hi
          rw [List.getElem?_set_self hindex] at hb
          rw [← Option.some.inj hb, ← Option.some.inj (hitem.symm.trans ha)]
          exact hvw
        · rw [List.getElem?_set_ne hi, ha] at hb
          rw [← Option.some.inj hb]
          exact .refl (hitems a (List.mem_of_getElem? ha))
      · rw [check, checkItems_eq_error_iff]
        refine ⟨index, w, e, List.getElem?_set_self hindex, fun u hu => ?_, hw, by rw [Nat.zero_add]⟩
        rw [List.take_set_of_le (Nat.le_refl index)] at hu
        exact check_eq_ok_iff.2 (hbefore u hu)
  | @ofEntry item entries k v e hentry _ ih =>
    cases hv with
    | map hd hentries =>
      obtain ⟨w, hvw, hw⟩ := ih (hentries _ hentry)
      have hreplaced : Dictionary.VisitedAs Value.VisitedAs entries (Dictionary.insert entries k w) :=
        .insert hd (fun k a ha => .refl (hentries _ (Dictionary.mem_of_get? ha)))
          (Dictionary.get?_of_mem hd hentry) hvw
      -- the failing entry is visited first
      obtain ⟨before, after, hsplit⟩ :=
        List.append_of_mem (Dictionary.mem_of_get? (Dictionary.get?_insert_self entries k w))
      refine ⟨.map ((k, w) :: (before ++ after)), (Value.visitedAs_map_iff hd).2
        ⟨_, rfl, hreplaced.trans_perm ?_⟩, ?_⟩
      · rw [hsplit]
        exact List.perm_middle.symm
      · rw [check, checkEntries, hw]

/-- For types whose tests ignore orders, the errors that are reported in some order are those that are
right. -/
theorem exists_order_iff (ht : t.IgnoresOrder) (hv : v.WellFormed) :
    (∃ w, v.VisitedAs w ∧ t.check w = .error e) ↔ t.Fails v e := by
  constructor
  · rintro ⟨w, hvw, hw⟩
    exact (fails_of_check hw).of_visitedAs ht hv hvw
  · exact Fails.exists_order hv

end AttributeType

/-- The attribute with the entries in its default in other orders. -/
structure AttributeSchema.VisitedAs (a b : AttributeSchema) : Prop where
  same : b = { a with default? := b.default? }
  default? : Option.Rel Value.VisitedAs a.default? b.default?

/-- The schema with its attributes in another order. -/
structure Schema.VisitedAs (schema visited : Schema) : Prop where
  same : visited = { schema with attributes := visited.attributes }
  attributes : Dictionary.VisitedAs AttributeSchema.VisitedAs schema.attributes visited.attributes

namespace AttributeSchema

variable {a b : AttributeSchema}

theorem VisitedAs.type_eq (h : a.VisitedAs b) : b.type = a.type := by
  rw [h.same]

theorem VisitedAs.mutability_eq (h : a.VisitedAs b) : b.mutability = a.mutability := by
  rw [h.same]

theorem VisitedAs.default?_eq_none_iff (h : a.VisitedAs b) : b.default? = none ↔ a.default? = none := by
  have hdefault := h.default?
  cases ha : a.default? <;> cases hb : b.default? <;> simp_all

end AttributeSchema

namespace Schema

theorem WellFormed.visitedAs_get? {schema : Schema} (h : schema.WellFormed) (k : String)
    (a : AttributeSchema) (ha : schema.attributes.get? k = some a) : a.VisitedAs a := by
  refine ⟨rfl, ?_⟩
  cases hdefault : a.default? with
  | none => exact .none
  | some v => exact .some (.refl (h.defaults _ (Dictionary.mem_of_get? ha) v hdefault))

theorem VisitedAs.refl {schema : Schema} (h : schema.WellFormed) : schema.VisitedAs schema :=
  ⟨rfl, .refl h.distinct h.visitedAs_get?⟩

/-- The attribute is required, nothing stands for it, and it is omitted. -/
def Omits (schema : Schema) (attributes : Attributes) (name : String) : Prop :=
  ∃ a, schema.attributes.get? name = some a ∧ a.required = true ∧ a.default? = none ∧
    attributes.get? name = none

theorem Omits.get?_eq_none {schema : Schema} {attributes : Attributes} {name : String}
    (h : schema.Omits attributes name) : attributes.get? name = none := by
  obtain ⟨a, -, -, -, homitted⟩ := h
  exact homitted

/-- What is reported of the attribute in some order of the entries in its value. -/
inductive MayReport (schema : Schema) (attributes : Attributes) (name : String) : TypeError → Prop
  | missing (h : schema.Omits attributes name) : MayReport schema attributes name (.missing name)
  | declared {v w : Value} {d : TypeError} (hv : attributes.get? name = some v) (hw : v.VisitedAs w)
      (hd : schema.attributeDefect? name w = some d) : MayReport schema attributes name d

/-- Something is reported of the attribute in every order of the entries in its value. -/
inductive MustReport (schema : Schema) (attributes : Attributes) (name : String) : Prop
  | missing (h : schema.Omits attributes name)
  | declared {v : Value} (hv : attributes.get? name = some v)
      (h : ∀ w, v.VisitedAs w → schema.attributeDefect? name w ≠ none)

variable {schema schema' : Schema} {attributes attributes' : Attributes} {name : String} {d : TypeError}

theorem MayReport.attribute?_eq (h : schema.MayReport attributes name d) : d.attribute? = some name := by
  cases h with
  | missing => rfl
  | declared _ _ hd => exact attribute?_of_attributeDefect? hd

/-- The order of a schema has no effect on what is reported of a declared attribute. -/
theorem VisitedAs.attributeDefect?_eq (h : schema.VisitedAs schema') (name : String) (v : Value) :
    schema'.attributeDefect? name v = schema.attributeDefect? name v := by
  unfold attributeDefect?
  cases ha : schema.attributes.get? name with
  | none => rw [h.attributes.get?_eq_none_iff.2 ha]
  | some a =>
    obtain ⟨b, hb, hab⟩ := h.attributes.to_get? ha
    simp only [hb, hab.mutability_eq, hab.type_eq]

theorem VisitedAs.omits_iff (h : schema.VisitedAs schema') (ha : attributes.VisitedAs attributes') :
    schema'.Omits attributes' name ↔ schema.Omits attributes name := by
  unfold Omits
  rw [ha.get?_eq_none_iff]
  constructor
  · rintro ⟨b, hb, hrequired, hdefault, homitted⟩
    obtain ⟨a, ha, hab⟩ := h.attributes.of_get? hb
    rw [hab.same] at hrequired
    exact ⟨a, ha, hrequired, hab.default?_eq_none_iff.1 hdefault, homitted⟩
  · rintro ⟨a, ha, hrequired, hdefault, homitted⟩
    obtain ⟨b, hb, hab⟩ := h.attributes.to_get? ha
    refine ⟨b, hb, ?_, hab.default?_eq_none_iff.2 hdefault, homitted⟩
    rw [hab.same]
    exact hrequired

/-- If nothing has to be reported of a declared attribute, then in some order nothing is. -/
theorem exists_none_of_not_mustReport (h : ¬ schema.MustReport attributes name) {v : Value}
    (hv : attributes.get? name = some v) : ∃ w, v.VisitedAs w ∧ schema.attributeDefect? name w = none := by
  by_contra hnone
  exact h (.declared hv fun w hvw hw => hnone ⟨w, hvw, hw⟩)

theorem MustReport.exists_attribute (hattributes : attributes.WellFormed) (h : schema.MustReport attributes name) :
    ∃ a, schema.attributes.get? name = some a := by
  cases h with
  | missing homits =>
    obtain ⟨a, ha, -⟩ := homits
    exact ⟨a, ha⟩
  | @declared v hv hmust =>
    obtain ⟨d, hd⟩ := Option.ne_none_iff_exists'.1 (hmust v (hattributes.visitedAs_get? name v hv))
    obtain ⟨a, ha, -⟩ := attributeDefect?_eq_some_iff.1 hd
    exact ⟨a, ha⟩

/-- No test of a type of the schema looks at the order of a map's entries. -/
def IgnoresOrder (schema : Schema) : Prop :=
  ∀ e ∈ schema.attributes, e.2.type.IgnoresOrder

section IgnoresOrder

variable (horder : schema.IgnoresOrder) (hattributes : attributes.WellFormed)
include horder hattributes

/-- What may be reported of an attribute is then what is right about it. -/
theorem mayReport_iff : schema.MayReport attributes name d ↔ schema.Reports attributes name d := by
  constructor
  · rintro (⟨a, ha, hrequired, hdefault, homitted⟩ | ⟨hv, hvw, hd⟩)
    · exact .missing ha hrequired hdefault homitted
    · obtain ⟨a, ha, ⟨hassigned, rfl⟩ | ⟨hassigned, e, hcheck, rfl⟩⟩ := attributeDefect?_eq_some_iff.1 hd
      · exact .readOnly ha hv hassigned
      · exact .ofAttribute ha hv hassigned ((AttributeType.exists_order_iff
          (horder _ (Dictionary.mem_of_get? ha)) (hattributes.values _ (Dictionary.mem_of_get? hv))).1
            ⟨_, hvw, hcheck⟩)
  · rintro (⟨ha, hrequired, hdefault, homitted⟩ | ⟨ha, hv, hassigned⟩ | ⟨ha, hv, hassigned, hfails⟩)
    · exact .missing ⟨_, ha, hrequired, hdefault, homitted⟩
    · exact .declared hv (hattributes.visitedAs_get? name _ hv)
        (attributeDefect?_eq_some_iff.2 ⟨_, ha, .inl ⟨hassigned, rfl⟩⟩)
    · obtain ⟨w, hvw, hw⟩ := hfails.exists_order (hattributes.values _ (Dictionary.mem_of_get? hv))
      exact .declared hv hvw (attributeDefect?_eq_some_iff.2 ⟨_, ha, .inr ⟨hassigned, _, hw, rfl⟩⟩)

/-- Something has then to be reported of an attribute when something is wrong with it. -/
theorem mustReport_iff : schema.MustReport attributes name ↔ schema.Defective attributes name := by
  constructor
  · rintro (⟨a, ha, hrequired, hdefault, homitted⟩ | ⟨hv, hmust⟩)
    · exact .missing ha hrequired hdefault homitted
    · have hvv := hattributes.visitedAs_get? name _ hv
      obtain ⟨d, hd⟩ := Option.ne_none_iff_exists'.1 (hmust _ hvv)
      exact ((mayReport_iff horder hattributes).1 (.declared hv hvv hd)).defective
  · rintro (⟨ha, hrequired, hdefault, homitted⟩ | ⟨ha, hv, hassigned⟩ | @⟨a, v, ha, hv, htype⟩)
    · exact .missing ⟨_, ha, hrequired, hdefault, homitted⟩
    · exact .declared hv fun w _ => Option.ne_none_iff_exists'.2
        ⟨.readOnly name, attributeDefect?_eq_some_iff.2 ⟨_, ha, .inl ⟨hassigned, rfl⟩⟩⟩
    · refine .declared hv fun w hvw => Option.ne_none_iff_exists'.2 ?_
      by_cases hassigned : a.mutability = .output
      · exact ⟨_, attributeDefect?_eq_some_iff.2 ⟨a, ha, .inl ⟨hassigned, rfl⟩⟩⟩
      · have hw : ¬ a.type.Conforms w := fun hw => htype (hw.of_visitedAs
          (horder _ (Dictionary.mem_of_get? ha)) hvw.wellFormed
          (hvw.symm (hattributes.values _ (Dictionary.mem_of_get? hv))))
        obtain ⟨e, he⟩ := AttributeType.exists_check_eq_error hw
        exact ⟨_, attributeDefect?_eq_some_iff.2 ⟨a, ha, .inr ⟨hassigned, e, he, rfl⟩⟩⟩

end IgnoresOrder

end Schema

/-- Whether the type has no test of its own, nor has a type beneath it. -/
def AttributeType.isPlain : AttributeType → Bool
  | custom _ _ _ => false
  | list item => item.isPlain
  | map item => item.isPlain
  | _ => true

theorem AttributeType.ignoresOrder_of_isPlain {t : AttributeType} (h : t.isPlain = true) :
    t.IgnoresOrder := by
  induction t with
  | custom => cases h
  | list _ ih => exact ih h
  | map _ ih => exact ih h
  | string | int | bool | enum => trivial

/-- A test that gives one answer to all that is no text does not look at orders. -/
theorem AttributeType.ignoresOrder_of_texts {name detail : String} {test : Value → Except String Unit}
    (h : ∀ v : Value, v.typeName ≠ "String" → test v = .error detail) :
    (custom name string test).IgnoresOrder := by
  refine ⟨trivial, fun v w _ hvw => ?_⟩
  cases hvw.equal with
  | string | int | bool => rfl
  | list | map => rw [h _ (by simp [Value.typeName]), h _ (by simp [Value.typeName])]

/-- The tests of the registered types do not look at orders. -/
theorem Provider.ManagedType.schema_ignoresOrder (t : ManagedType) : t.schema.IgnoresOrder := by
  rintro ⟨name, a⟩ ha
  have hget := Dictionary.get?_of_mem t.schema_wellFormed.distinct ha
  have hplain : ∀ e ∈ t.schema.attributes, e.1 ≠ "name" → e.2.type.isPlain = true := by
    cases t <;> decide
  by_cases hname : name = "name"
  · -- the names of both types have a test, which refuses all that is no text
    subst hname
    cases t with
    | account | group =>
      obtain rfl := Option.some.inj hget
      exact AttributeType.ignoresOrder_of_texts fun v hv => by
        cases v <;> first | rfl | exact absurd rfl hv
  · exact AttributeType.ignoresOrder_of_isPlain (hplain _ ha hname)

end AzureProvisioning
