/-
# The answers of a check

The defects of a declaration are sorted by text, but which one of several errors in a map is met first, and
which one of two defects with one text comes first, is up to the order in which the entries are visited.
`Schema.Answers` lists what can come out: one report for each attribute of which something has to be
reported, in ascending order of the texts. Each order gives an answer, and each answer is given by some
order (`Schema.inSomeOrder_defects_iff`).

So the defects are the same in every order exactly when there is one answer
(`Schema.inEveryOrder_defects_iff`), and a check is refused with a report that comes first in an answer
(`Schema.inSomeOrder_check_eq_error_iff`).
-/

import AzureProvisioning.Proofs.Schema.Orders

namespace AzureProvisioning

namespace TypeError

theorem message_missing (name : String) :
    (missing name).message = "Required attribute '" ++ name ++ "' is missing" := rfl

theorem message_readOnly (name : String) : (readOnly name).message =
    "Attribute '" ++ name ++ "' is assigned by the provider and cannot be set" := rfl

theorem message_ofAttribute (name : String) (inner : TypeError) :
    (ofAttribute name inner).message = "Attribute '" ++ name ++ "': " ++ inner.message := rfl

end TypeError

namespace Schema

/-- It holds in some order of the schema's attributes and of the declaration's entries, at any depth. -/
abbrev InSomeOrder (schema : Schema) (attributes : Attributes) (P : Schema → Attributes → Prop) : Prop :=
  ∃ schema' attributes', schema.VisitedAs schema' ∧ attributes.VisitedAs attributes' ∧ P schema' attributes'

/-- It holds in all these orders. -/
abbrev InEveryOrder (schema : Schema) (attributes : Attributes) (P : Schema → Attributes → Prop) : Prop :=
  ∀ schema' attributes', schema.VisitedAs schema' → attributes.VisitedAs attributes' → P schema' attributes'

/-- A list of reports in ascending order of their texts, one for each attribute of which something has to
be reported. -/
structure Answers (schema : Schema) (attributes : Attributes) (l : List TypeError) : Prop where
  ascending : l.Pairwise fun d e => d.message ≤ e.message
  once : (l.filterMap TypeError.attribute?).Nodup
  reports : ∀ d ∈ l, ∃ name, schema.MayReport attributes name d
  complete : ∀ name, schema.MustReport attributes name → name ∈ l.filterMap TypeError.attribute?

variable {schema schema' : Schema} {attributes attributes' : Attributes} {name : String} {d : TypeError}
  {l : List TypeError}

/-- What is reported in another order. -/
theorem mem_defects_visitedAs_iff (h : schema.VisitedAs schema') (ha : attributes.VisitedAs attributes') :
    d ∈ schema'.defects attributes' ↔
      (∃ name, schema.Omits attributes name ∧ d = .missing name) ∨
      ∃ name w, attributes'.get? name = some w ∧ schema.attributeDefect? name w = some d := by
  rw [mem_defects_iff h.attributes.distinct ha.distinct]
  refine or_congr ?_ ?_
  · constructor
    · rintro ⟨name, a, hget, hrequired, hdefault, homitted, rfl⟩
      exact ⟨name, (h.omits_iff ha).1 ⟨a, hget, hrequired, hdefault, homitted⟩, rfl⟩
    · rintro ⟨name, homits, rfl⟩
      obtain ⟨a, hget, hrequired, hdefault, homitted⟩ := (h.omits_iff ha).2 homits
      exact ⟨name, a, hget, hrequired, hdefault, homitted, rfl⟩
  · simp only [h.attributeDefect?_eq]

/-- In every order the defects are one of the answers. -/
theorem answers_of_visitedAs (h : schema.VisitedAs schema') (ha : attributes.VisitedAs attributes') :
    schema.Answers attributes (schema'.defects attributes') where
  ascending := (stableOrder_mergeSort TypeError.message _).ascending
  once := nodup_attributes h.attributes.distinct ha.distinct
  reports d hd := by
    obtain ⟨name, homits, rfl⟩ | ⟨name, w, hw, hdefect⟩ := (mem_defects_visitedAs_iff h ha).1 hd
    · exact ⟨name, .missing homits⟩
    · obtain ⟨v, hv, hvw⟩ := ha.of_get? hw
      exact ⟨name, .declared hv hvw hdefect⟩
  complete name hmust := by
    rw [List.mem_filterMap]
    cases hmust with
    | missing homits => exact ⟨_, (mem_defects_visitedAs_iff h ha).2 (.inl ⟨name, homits, rfl⟩), rfl⟩
    | declared hv hmust =>
      obtain ⟨w, hw, hvw⟩ := ha.to_get? hv
      obtain ⟨d, hd⟩ := Option.ne_none_iff_exists'.1 (hmust w hvw)
      exact ⟨d, (mem_defects_visitedAs_iff h ha).2 (.inr ⟨name, w, hw, hd⟩),
        attribute?_of_attributeDefect? hd⟩

namespace Answers

theorem map_attribute? (h : schema.Answers attributes l) :
    l.map TypeError.attribute? = (l.filterMap TypeError.attribute?).map some := by
  have hsome : ∀ d ∈ l, (d.attribute?.map some) = some d.attribute? := by
    intro d hd
    obtain ⟨name, hreport⟩ := h.reports d hd
    rw [hreport.attribute?_eq, Option.map_some]
  rw [List.map_filterMap, ← List.filterMap_eq_map]
  exact (List.filterMap_congr hsome).symm

theorem nodup_map (h : schema.Answers attributes l) : (l.map TypeError.attribute?).Nodup := by
  rw [h.map_attribute?]
  exact h.once.map (Option.some_injective _)

theorem nodup (h : schema.Answers attributes l) : l.Nodup :=
  h.nodup_map.of_map

theorem mayReport (h : schema.Answers attributes l) (hd : d ∈ l) (hname : d.attribute? = some name) :
    schema.MayReport attributes name d := by
  obtain ⟨name', hreport⟩ := h.reports d hd
  rwa [← Option.some.inj (hreport.attribute?_eq.symm.trans hname)]

end Answers

/-- A report of what is missing has a text of its own. -/
theorem MayReport.eq_missing {name' : String} (h : schema.MayReport attributes name d)
    (htext : d.message = (TypeError.missing name').message) : d = .missing name' := by
  cases h with
  | missing =>
    rw [TypeError.message_missing, TypeError.message_missing, String.append_left_inj,
      String.append_right_inj] at htext
    rw [htext]
  | declared _ _ hd =>
    -- the other texts start with another letter
    have hchars := congrArg (fun s => s.toList.head?) htext
    obtain ⟨a, -, ⟨-, rfl⟩ | ⟨-, e, -, rfl⟩⟩ := attributeDefect?_eq_some_iff.1 hd
    · simp [TypeError.message_missing, TypeError.message_readOnly] at hchars
    · simp [TypeError.message_missing, TypeError.message_ofAttribute] at hchars

theorem missingDefects_isMissing (hd : d ∈ schema.missingDefects attributes) :
    ∃ name, d = .missing name := by
  obtain ⟨e, -, he⟩ := List.mem_filterMap.1 hd
  exact ⟨e.1, (Option.some.inj (Option.ite_none_right_eq_some.1 he).2).symm⟩

/-- There is an order in which the report that the answer has of the attribute is made, if any. -/
theorem Answers.exists_value (h : schema.Answers attributes l) {v : Value}
    (hv : attributes.get? name = some v) :
    ∃ w, v.VisitedAs w ∧
      ∀ d, schema.attributeDefect? name w = some d ↔ d ∈ l ∧ d.attribute? = some name := by
  by_cases hreported : ∃ d ∈ l, d.attribute? = some name
  · obtain ⟨d, hd, hname⟩ := hreported
    cases h.mayReport hd hname with
    | missing homits => cases homits.get?_eq_none.symm.trans hv
    | @declared v' w _ hv' hvw hdefect =>
      obtain rfl := Option.some.inj (hv.symm.trans hv')
      refine ⟨w, hvw, fun e => ?_⟩
      rw [hdefect, Option.some.injEq]
      constructor
      · rintro rfl
        exact ⟨hd, hname⟩
      · rintro ⟨he, hname'⟩
        exact List.inj_on_of_nodup_map h.nodup_map hd he (hname.trans hname'.symm)
  · -- nothing has to be reported of the attribute
    have hmust : ¬ schema.MustReport attributes name := fun hmust =>
      hreported (List.mem_filterMap.1 (h.complete name hmust))
    obtain ⟨w, hvw, hw⟩ := exists_none_of_not_mustReport hmust hv
    refine ⟨w, hvw, fun d => ?_⟩
    rw [hw]
    exact ⟨nofun, fun hd => absurd ⟨d, hd⟩ hreported⟩

/-- What is missing does not depend on the order of the declaration. -/
theorem missingDefects_of_perm (hattributes : attributes.Distinct) (hperm : attributes'.Perm attributes) :
    schema.missingDefects attributes' = schema.missingDefects attributes := by
  refine List.filterMap_congr fun e _ => ?_
  rw [Dictionary.contains, Dictionary.get?_of_perm hattributes hperm, ← Dictionary.contains]

/-- Sorting gives the answer, if the reports of what is declared are in its order. -/
theorem Answers.mergeSort_eq (h : schema.Answers attributes l) {declared : List TypeError}
    (hsub : declared.Sublist l) (hperm : (schema.missingDefects attributes' ++ declared).Perm l) :
    ((schema.missingDefects attributes' ++ declared).mergeSort fun d e => d.message ≤ e.message) = l := by
  have hsorted : l.mergeSort (fun d e => d.message ≤ e.message) = l :=
    List.mergeSort_of_pairwise (by simpa using h.ascending)
  rw [← hsorted, mergeSort_eq_iff]
  intro text
  have hfilter := hperm.filter fun d => decide (d.message = text)
  by_cases hmissing : ∃ d ∈ schema.missingDefects attributes', d.message = text
  · -- the text is that of one report only
    obtain ⟨d, hd, rfl⟩ := hmissing
    obtain ⟨name, rfl⟩ := missingDefects_isMissing hd
    have hsame : ∀ d ∈ (l.filter fun d => d.message = (TypeError.missing name).message),
        d = .missing name := by
      intro d hd
      obtain ⟨hd, htext⟩ := List.mem_filter.1 hd
      obtain ⟨name', hreport⟩ := h.reports d hd
      exact hreport.eq_missing (of_decide_eq_true htext)
    exact eq_of_perm_of_forall_eq hfilter fun d hd e he => (hsame d hd).trans (hsame e he).symm
  · have hnone : ((schema.missingDefects attributes').filter fun d => d.message = text) = [] :=
      List.filter_eq_nil_iff.2 fun d hd htext => hmissing ⟨d, hd, of_decide_eq_true htext⟩
    rw [List.filter_append, hnone, List.nil_append] at hfilter ⊢
    exact (hsub.filter _).eq_of_length hfilter.length_eq

section Exact

variable (hschema : schema.WellFormed) (hattributes : attributes.WellFormed)
include hschema hattributes

/-- For each answer there are orders in the values in which the reports of the answer are made. -/
theorem Answers.exists_values (h : schema.Answers attributes l) :
    ∃ attributes', attributes.VisitedAs attributes' ∧ ∀ d, d ∈ schema.defects attributes' ↔ d ∈ l := by
  choose! value hvalue using
    fun name v (hv : attributes.get? name = some v) => h.exists_value hv
  have hvisited : attributes.VisitedAs (attributes.map fun e => (e.1, value e.1 e.2)) :=
    .map hattributes.distinct fun k v hv => (hvalue k v hv).1
  refine ⟨_, hvisited, fun d => ?_⟩
  rw [mem_defects_visitedAs_iff (.refl hschema) hvisited]
  constructor
  · rintro (⟨name, homits, rfl⟩ | ⟨name, w, hw, hdefect⟩)
    · obtain ⟨d, hd, hname⟩ := List.mem_filterMap.1 (h.complete name (.missing homits))
      cases h.mayReport hd hname with
      | missing => exact hd
      | declared hv => cases homits.get?_eq_none.symm.trans hv
    · rw [Dictionary.get?_map] at hw
      obtain ⟨v, hv, rfl⟩ := Option.map_eq_some_iff.1 hw
      exact (((hvalue name v hv).2 d).1 hdefect).1
  · intro hd
    obtain ⟨name, hreport⟩ := h.reports d hd
    cases hreport with
    | missing homits => exact .inl ⟨name, homits, rfl⟩
    | @declared v w _ hv hvw hdefect =>
      refine .inr ⟨name, value name v, ?_, ?_⟩
      · rw [Dictionary.get?_map, hv, Option.map_some]
      · exact ((hvalue name v hv).2 d).2 ⟨hd, attribute?_of_attributeDefect? hdefect⟩

/-- **Each answer is what some order gives.** -/
theorem Answers.exists_order (h : schema.Answers attributes l) :
    ∃ attributes', attributes.VisitedAs attributes' ∧ schema.defects attributes' = l := by
  obtain ⟨valued, hvalued, hmem⟩ := h.exists_values hschema hattributes
  have hperm : (schema.missingDefects valued ++ schema.declaredDefects valued).Perm l :=
    defects_perm.symm.trans ((List.perm_ext_iff_of_nodup
      (answers_of_visitedAs (.refl hschema) hvalued).nodup h.nodup).2 hmem)
  -- what is declared is visited in the order in which the answer has the reports
  have hdeclared : (schema.declaredDefects valued).Perm
      (l.filter (· ∈ schema.declaredDefects valued)) := by
    refine (List.perm_ext_iff_of_nodup
      (List.nodup_append.1 (hperm.nodup_iff.2 h.nodup)).2.1 (h.nodup.filter _)).2 fun d => ?_
    rw [List.mem_filter, decide_eq_true_iff]
    exact ⟨fun hd => ⟨hperm.subset (List.mem_append_right _ hd), hd⟩, fun hd => hd.2⟩
  obtain ⟨visited, hvisited, hdefects⟩ := exists_perm_filterMap_eq hdeclared
  refine ⟨visited, hvalued.trans_perm hvisited, ?_⟩
  rw [defects, hdefects, missingDefects_of_perm hvalued.distinct hvisited]
  exact h.mergeSort_eq List.filter_sublist ((hdeclared.symm.append_left _).trans hperm)

/-- **The defects in some order are an answer, and each answer is the defects in some order.** -/
theorem inSomeOrder_defects_iff :
    schema.InSomeOrder attributes (fun s a => s.defects a = l) ↔ schema.Answers attributes l := by
  constructor
  · rintro ⟨schema', attributes', h, ha, rfl⟩
    exact answers_of_visitedAs h ha
  · intro h
    obtain ⟨attributes', ha, hl⟩ := h.exists_order hschema hattributes
    exact ⟨schema, attributes', .refl hschema, ha, hl⟩

/-- Each report that may be made is in some answer. -/
theorem MayReport.exists_answers (h : schema.MayReport attributes name d) :
    ∃ l, schema.Answers attributes l ∧ d ∈ l := by
  cases h with
  | missing homits =>
    exact ⟨_, answers_of_visitedAs (.refl hschema) (.refl hattributes),
      (mem_defects_visitedAs_iff (.refl hschema) (.refl hattributes)).2 (.inl ⟨name, homits, rfl⟩)⟩
  | @declared v w _ hv hvw hd =>
    have hreplaced : attributes.VisitedAs (attributes.insert name w) :=
      .insert hattributes.distinct hattributes.visitedAs_get? hv hvw
    exact ⟨_, answers_of_visitedAs (.refl hschema) hreplaced,
      (mem_defects_visitedAs_iff (.refl hschema) hreplaced).2
        (.inr ⟨name, w, Dictionary.get?_insert_self _ _ _, hd⟩)⟩

/-- Of an attribute of which nothing has to be reported, nothing is reported in some answer. -/
theorem exists_answers_of_not_mustReport (h : ¬ schema.MustReport attributes name) :
    ∃ l, schema.Answers attributes l ∧ ∀ d ∈ l, d.attribute? ≠ some name := by
  cases hv : attributes.get? name with
  | none =>
    have hanswers := answers_of_visitedAs (.refl hschema) (.refl hattributes)
    refine ⟨_, hanswers, fun d hd hname => ?_⟩
    cases hanswers.mayReport hd hname with
    | missing homits => exact h (.missing homits)
    | declared hv' => cases hv.symm.trans hv'
  | some v =>
    obtain ⟨w, hvw, hw⟩ := exists_none_of_not_mustReport h hv
    have hreplaced : attributes.VisitedAs (attributes.insert name w) :=
      .insert hattributes.distinct hattributes.visitedAs_get? hv hvw
    refine ⟨_, answers_of_visitedAs (.refl hschema) hreplaced, fun d hd hname => ?_⟩
    obtain ⟨_, homits, rfl⟩ | ⟨name', w', hw', hdefect⟩ :=
      (mem_defects_visitedAs_iff (.refl hschema) hreplaced).1 hd
    · obtain rfl := Option.some.inj hname
      exact h (.missing homits)
    · obtain rfl := Option.some.inj ((attribute?_of_attributeDefect? hdefect).symm.trans hname)
      obtain rfl := Option.some.inj ((Dictionary.get?_insert_self _ _ _).symm.trans hw')
      cases hw.symm.trans hdefect

end Exact

theorem Answers.of_perm (h : schema.Answers attributes l) {l' : List TypeError} (hperm : l'.Perm l)
    (hascending : l'.Pairwise fun d e => d.message ≤ e.message) : schema.Answers attributes l' where
  ascending := hascending
  once := (hperm.filterMap _).nodup_iff.2 h.once
  reports d hd := h.reports d (hperm.subset hd)
  complete name hmust := (hperm.filterMap _).symm.subset (h.complete name hmust)

/-- The same is reported of each attribute in every order, and texts tell the attributes apart. -/
structure Unambiguous (schema : Schema) (attributes : Attributes) : Prop where
  must : ∀ name d, schema.MayReport attributes name d → schema.MustReport attributes name
  one : ∀ name d e, schema.MayReport attributes name d → schema.MayReport attributes name e → d = e
  apart : ∀ name name' d e, schema.MayReport attributes name d → schema.MayReport attributes name' e →
    d.message = e.message → name = name'

theorem Unambiguous.answers_eq (h : schema.Unambiguous attributes) {l l' : List TypeError}
    (hl : schema.Answers attributes l) (hl' : schema.Answers attributes l') : l = l' := by
  have hsubset : ∀ {l l'}, schema.Answers attributes l → schema.Answers attributes l' →
      ∀ d ∈ l, d ∈ l' := by
    intro l l' hl hl' d hd
    obtain ⟨name, hreport⟩ := hl.reports d hd
    obtain ⟨e, he, hname⟩ := List.mem_filterMap.1 (hl'.complete name (h.must name d hreport))
    rwa [h.one name d e hreport (hl'.mayReport he hname)]
  have hperm : l.Perm l' := (List.perm_ext_iff_of_nodup hl.nodup hl'.nodup).2
    fun d => ⟨hsubset hl hl' d, hsubset hl' hl d⟩
  refine hperm.eq_of_pairwise (fun d e hd he hde hed => ?_) hl.ascending hl'.ascending
  obtain ⟨name, hreport⟩ := hl.reports d hd
  obtain ⟨name', hreport'⟩ := hl'.reports e he
  obtain rfl := h.apart name name' d e hreport hreport' (String.le_antisymm hde hed)
  exact h.one name d e hreport hreport'

/-- If there is one answer only, then reports of different attributes have different texts. -/
theorem Answers.eq_of_message_eq (hl : schema.Answers attributes l)
    (hone : ∀ l', schema.Answers attributes l' → l' = l) {e : TypeError} (hd : d ∈ l) (he : e ∈ l)
    (htext : d.message = e.message) : d = e := by
  have hsorted := stableOrder_mergeSort TypeError.message l
  have hsorted' := stableOrder_mergeSort TypeError.message l.reverse
  have hreversed : (l.reverse.mergeSort fun d e => d.message ≤ e.message) =
      l.mergeSort fun d e => d.message ≤ e.message :=
    (hone _ (hl.of_perm ((List.mergeSort_perm _ _).trans (List.reverse_perm l)) hsorted'.ascending)).trans
      (hone _ (hl.of_perm (List.mergeSort_perm _ _) hsorted.ascending)).symm
  exact eq_of_mergeSort_reverse hl.nodup hreversed hd he htext

section Exact

variable (hschema : schema.WellFormed) (hattributes : attributes.WellFormed)
include hschema hattributes

/-- **The defects are the same in every order when the declaration is unambiguous**, and only then. -/
theorem inEveryOrder_defects_iff :
    schema.InEveryOrder attributes (fun s a => s.defects a = schema.defects attributes) ↔
      schema.Unambiguous attributes := by
  have hfirst : schema.Answers attributes (schema.defects attributes) :=
    answers_of_visitedAs (.refl hschema) (.refl hattributes)
  constructor
  · intro hsame
    have hone : ∀ l, schema.Answers attributes l → l = schema.defects attributes := by
      intro l hl
      obtain ⟨attributes', ha, rfl⟩ := hl.exists_order hschema hattributes
      exact hsame schema attributes' (.refl hschema) ha
    have hmem : ∀ {name d}, schema.MayReport attributes name d → d ∈ schema.defects attributes := by
      intro name d h
      obtain ⟨l, hl, hd⟩ := h.exists_answers hschema hattributes
      exact hone l hl ▸ hd
    refine ⟨fun name d h => ?_, fun name d e h h' => ?_, fun name name' d e h h' htext => ?_⟩
    · by_contra hmust
      obtain ⟨l, hl, hnone⟩ := exists_answers_of_not_mustReport hschema hattributes hmust
      exact hnone d (hone l hl ▸ hmem h) h.attribute?_eq
    · exact List.inj_on_of_nodup_map hfirst.nodup_map (hmem h) (hmem h')
        (h.attribute?_eq.trans h'.attribute?_eq.symm)
    · obtain rfl := hfirst.eq_of_message_eq hone (hmem h) (hmem h') htext
      exact Option.some.inj (h.attribute?_eq.symm.trans h'.attribute?_eq)
  · intro h schema' attributes' hs ha
    exact h.answers_eq (answers_of_visitedAs hs ha) hfirst

end Exact

/-- In some order this report is the first one: something else has to be reported of an attribute only
when it may have a text that is not less. -/
def MayLead (schema : Schema) (attributes : Attributes) (d : TypeError) : Prop :=
  ∃ name, schema.MayReport attributes name d ∧ ∀ name', schema.MustReport attributes name' →
    ∃ e, schema.MayReport attributes name' e ∧ d.message ≤ e.message

/-- Reports that may come after the first one: one for each other attribute of which something has to be
reported. -/
theorem exists_followers (hschema : schema.WellFormed) (hattributes : attributes.WellFormed)
    (hothers : ∀ name', schema.MustReport attributes name' →
      ∃ e, schema.MayReport attributes name' e ∧ d.message ≤ e.message) (name : String) :
    ∃ rest : List TypeError, (rest.Pairwise fun d e => d.message ≤ e.message) ∧
      (rest.filterMap TypeError.attribute?).Nodup ∧
      (∀ e ∈ rest, ∃ name', name' ≠ name ∧ schema.MayReport attributes name' e ∧ d.message ≤ e.message) ∧
      ∀ name', name' ≠ name → schema.MustReport attributes name' →
        name' ∈ rest.filterMap TypeError.attribute? := by
  have hpick : ∀ name', ∃ o : Option TypeError,
      (∀ e ∈ o, name' ≠ name ∧ schema.MayReport attributes name' e ∧ d.message ≤ e.message) ∧
      (name' ≠ name → schema.MustReport attributes name' → o.isSome) := by
    intro name'
    by_cases h : name' ≠ name ∧ schema.MustReport attributes name'
    · obtain ⟨e, hreport, hle⟩ := hothers name' h.2
      exact ⟨some e, fun _ he => Option.some.inj he ▸ ⟨h.1, hreport, hle⟩, fun _ _ => rfl⟩
    · exact ⟨none, nofun, fun hne hmust => absurd ⟨hne, hmust⟩ h⟩
  choose pick hmay hmust using hpick
  let picked := schema.attributes.filterMap fun e => pick e.1
  have hperm := List.mergeSort_perm picked fun d e => decide (d.message ≤ e.message)
  refine ⟨_, (stableOrder_mergeSort TypeError.message picked).ascending, ?_, fun e he => ?_,
    fun name' hne hmust' => ?_⟩
  · rw [(hperm.filterMap _).nodup_iff]
    exact nodup_attribute? hschema.distinct fun f e he => (hmay f.1 e he).2.1.attribute?_eq
  · obtain ⟨f, -, hf⟩ := List.mem_filterMap.1 (hperm.subset he)
    exact ⟨f.1, hmay f.1 e hf⟩
  · rw [(hperm.filterMap _).mem_iff]
    obtain ⟨a, ha⟩ := hmust'.exists_attribute hattributes
    obtain ⟨e, he⟩ := Option.isSome_iff_exists.1 (hmust name' hne hmust')
    exact List.mem_filterMap.2 ⟨e, List.mem_filterMap.2
      ⟨(name', a), Dictionary.mem_of_get? ha, he⟩, (hmay name' e he).2.1.attribute?_eq⟩

/-- The reports that may come first are those at the heads of the answers. -/
theorem exists_answers_cons_iff (hschema : schema.WellFormed) (hattributes : attributes.WellFormed) :
    (∃ rest, schema.Answers attributes (d :: rest)) ↔ schema.MayLead attributes d := by
  constructor
  · rintro ⟨rest, h⟩
    obtain ⟨name, hreport⟩ := h.reports d List.mem_cons_self
    refine ⟨name, hreport, fun name' hmust => ?_⟩
    obtain ⟨e, he, hname⟩ := List.mem_filterMap.1 (h.complete name' hmust)
    refine ⟨e, h.mayReport he hname, ?_⟩
    obtain rfl | he := List.mem_cons.1 he
    · exact String.le_refl _
    · exact (List.pairwise_cons.1 h.ascending).1 e he
  · rintro ⟨name, hreport, hothers⟩
    obtain ⟨rest, hascending, honce, hrest, hcomplete⟩ :=
      exists_followers hschema hattributes hothers name
    refine ⟨rest, ?_, ?_, fun e he => ?_, fun name' hmust => ?_⟩
    · refine List.pairwise_cons.2 ⟨fun e he => ?_, hascending⟩
      obtain ⟨-, -, -, hle⟩ := hrest e he
      exact hle
    · rw [List.filterMap_cons_some hreport.attribute?_eq, List.nodup_cons]
      refine ⟨fun hmem => ?_, honce⟩
      obtain ⟨e, he, hname⟩ := List.mem_filterMap.1 hmem
      obtain ⟨name', hother, hreport', -⟩ := hrest e he
      exact hother (Option.some.inj (hreport'.attribute?_eq.symm.trans hname))
    · obtain rfl | he := List.mem_cons.1 he
      · exact ⟨name, hreport⟩
      · obtain ⟨name', -, hreport', -⟩ := hrest e he
        exact ⟨name', hreport'⟩
    · rw [List.filterMap_cons_some hreport.attribute?_eq, List.mem_cons]
      exact Classical.or_iff_not_imp_left.2 fun hne => hcomplete name' hne hmust

theorem check_eq_error_iff {c : ConfigurationError} :
    schema.check attributes = .error c ↔
      ∃ d rest, schema.defects attributes = d :: rest ∧ c = .ofTypeError schema.resourceType d := by
  rw [check]
  cases schema.defects attributes with
  | nil => simp
  | cons d rest => simp [eq_comm]

section Exact

variable (hschema : schema.WellFormed) (hattributes : attributes.WellFormed)
include hschema hattributes

/-- **A check may be refused with any report that comes first in some order**, and with no other. -/
theorem inSomeOrder_check_eq_error_iff {c : ConfigurationError} :
    schema.InSomeOrder attributes (fun s a => s.check a = .error c) ↔
      ∃ d, schema.MayLead attributes d ∧ c = .ofTypeError schema.resourceType d := by
  simp only [check_eq_error_iff, ← exists_answers_cons_iff hschema hattributes]
  constructor
  · rintro ⟨schema', attributes', h, ha, d, rest, hdefects, rfl⟩
    refine ⟨d, ⟨rest, hdefects ▸ answers_of_visitedAs h ha⟩, ?_⟩
    rw [h.same]
  · rintro ⟨d, ⟨rest, h⟩, rfl⟩
    obtain ⟨attributes', ha, hl⟩ := h.exists_order hschema hattributes
    exact ⟨schema, attributes', .refl hschema, ha, d, rest, hl, rfl⟩

/-- A check may accept when of no attribute something has to be reported. -/
theorem inSomeOrder_check_eq_ok_iff :
    schema.InSomeOrder attributes (fun s a => s.check a = .ok ()) ↔
      ∀ name, ¬ schema.MustReport attributes name := by
  have hnil : schema.Answers attributes [] ↔ ∀ name, ¬ schema.MustReport attributes name :=
    ⟨fun h name hmust => List.not_mem_nil (h.complete name hmust),
      fun h => ⟨.nil, List.nodup_nil, nofun, fun name hmust => absurd hmust (h name)⟩⟩
  rw [← hnil, ← inSomeOrder_defects_iff hschema hattributes]
  refine exists_congr fun schema' => exists_congr fun attributes' => and_congr_right fun _ =>
    and_congr_right fun _ => ?_
  show schema'.check attributes' = .ok () ↔ schema'.defects attributes' = []
  rw [check]
  cases schema'.defects attributes' <;> simp

/-- **A check gives the same in every order when all reports that may come first make the same error**, and
there is none when it may accept. -/
theorem inEveryOrder_check_iff :
    schema.InEveryOrder attributes (fun s a => s.check a = schema.check attributes) ↔
      (∀ d e, schema.MayLead attributes d → schema.MayLead attributes e →
        ConfigurationError.ofTypeError schema.resourceType d = .ofTypeError schema.resourceType e) ∧
      ∀ d, schema.MayLead attributes d → ∃ name, schema.MustReport attributes name := by
  constructor
  · intro hsame
    have herror : ∀ d, schema.MayLead attributes d →
        schema.check attributes = .error (.ofTypeError schema.resourceType d) := by
      intro d hd
      obtain ⟨schema', attributes', h, ha, hcheck⟩ :=
        (inSomeOrder_check_eq_error_iff hschema hattributes).2 ⟨d, hd, rfl⟩
      rw [← hsame schema' attributes' h ha, hcheck]
    refine ⟨fun d e hd he => Except.error.inj ((herror d hd).symm.trans (herror e he)), fun d hd => ?_⟩
    by_contra hnone
    obtain ⟨schema', attributes', h, ha, hcheck⟩ :=
      (inSomeOrder_check_eq_ok_iff hschema hattributes).2 fun name hmust => hnone ⟨name, hmust⟩
    cases (herror d hd).symm.trans ((hsame schema' attributes' h ha).symm.trans hcheck)
  · rintro ⟨hone, hmust⟩ schema' attributes' h ha
    have hlead : ∀ {s a c}, schema.VisitedAs s → attributes.VisitedAs a → s.check a = .error c →
        ∃ d, schema.MayLead attributes d ∧ c = .ofTypeError schema.resourceType d :=
      fun h ha hcheck => (inSomeOrder_check_eq_error_iff hschema hattributes).1 ⟨_, _, h, ha, hcheck⟩
    have haccepts : ∀ {s a}, schema.VisitedAs s → attributes.VisitedAs a → s.check a = .ok () →
        ∀ name, ¬ schema.MustReport attributes name :=
      fun h ha hcheck => (inSomeOrder_check_eq_ok_iff hschema hattributes).1 ⟨_, _, h, ha, hcheck⟩
    cases hcheck : schema'.check attributes' with
    | ok =>
      cases hcheck' : schema.check attributes with
      | ok => rfl
      | error c =>
        obtain ⟨d, hd, -⟩ := hlead (.refl hschema) (.refl hattributes) hcheck'
        obtain ⟨name, hname⟩ := hmust d hd
        exact absurd hname (haccepts h ha hcheck name)
    | error c =>
      obtain ⟨d, hd, rfl⟩ := hlead h ha hcheck
      cases hcheck' : schema.check attributes with
      | ok =>
        obtain ⟨name, hname⟩ := hmust d hd
        exact absurd hname (haccepts (.refl hschema) (.refl hattributes) hcheck' name)
      | error c' =>
        obtain ⟨e, he, rfl⟩ := hlead (.refl hschema) (.refl hattributes) hcheck'
        rw [hone d e hd he]

end Exact

end Schema
end AzureProvisioning
