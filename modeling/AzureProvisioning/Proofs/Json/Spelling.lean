/-
# Spellings of a record

A JSON value can give the same records in many spellings. At any record inside it

| edit | spelling |
| --- | --- |
| `permute` | the members in another order |
| `add` | one more member, of a name that the record does not know |
| `arrange` | an array of the fields in their order, with null for an optional field that is unset |

and an edit may be made inside a field of a record or inside an item of a list. A `Shape` says where
the records are, and `Respelled` is any number of edits.

A reader respects a shape when it reads the same from the value before and after each edit
(`Respects`). An edit at a record changes no field but one that is edited inside, or an unset one that
becomes null (`Edit.exists_fields?`); so a reader of a record respects its shape as soon as the reader
of each field does.
-/

import AzureProvisioning.Json.Record
import Mathlib.Data.List.Nodup
import Mathlib.Logic.Relation

namespace AzureProvisioning
namespace Json

/-- A field of a record. -/
structure Field (σ : Type) where
  name : String
  /-- The shape of its value. -/
  shape : σ
  /-- The field may be unset. -/
  optional : Bool := false

/-- Where the records of a value are. -/
inductive Shape
  /-- No record: a text, a number, a truth value or a map of texts. -/
  | plain
  | list (item : Shape)
  | record (fields : List (Field Shape))

/-- The names of fields, in their order. -/
def names {σ : Type} (fields : List (Field σ)) : List String :=
  fields.map Field.name

/-- A field that has no records inside it. -/
abbrev Field.value (name : String) : Field Shape := ⟨name, .plain, false⟩

/-- A field without records inside it that may be unset. -/
abbrev Field.optionalValue (name : String) : Field Shape := ⟨name, .plain, true⟩

/-- The value of an optional field that is unset is null in an array of fields. -/
inductive Positional (members : List (String × Json)) (f : Field Shape) : Json → Prop
  | set {v : Json} (h : members.lookup f.name = some v) : Positional members f v
  | unset (hoptional : f.optional = true) (h : members.lookup f.name = none) :
      Positional members f null

/-- One edit of a value of the given shape. -/
inductive Edit : Shape → Json → Json → Prop
  | permute {fields members members'} (h : members.Perm members') :
      Edit (.record fields) (object members) (object members')
  | add {fields before after name v} (h : name ∉ names fields) :
      Edit (.record fields) (object (before ++ after)) (object (before ++ (name, v) :: after))
  | arrange {fields members items} (h : List.Forall₂ (Positional members) fields items) :
      Edit (.record fields) (object members) (array items)
  | member {fields} {f : Field Shape} {before after v v'} (hf : f ∈ fields) (h : Edit f.shape v v') :
      Edit (.record fields) (object (before ++ (f.name, v) :: after))
        (object (before ++ (f.name, v') :: after))
  | position {fields₁ fields₂} {f : Field Shape} {before after v v'}
      (hlength : before.length = fields₁.length) (h : Edit f.shape v v') :
      Edit (.record (fields₁ ++ f :: fields₂)) (array (before ++ v :: after))
        (array (before ++ v' :: after))
  | item {shape before after v v'} (h : Edit shape v v') :
      Edit (.list shape) (array (before ++ v :: after)) (array (before ++ v' :: after))

/-- Any number of edits. -/
def Respelled (shape : Shape) : Json → Json → Prop :=
  Relation.ReflTransGen (Edit shape)

/-- What was found the first time is found the second time. -/
def Kept {α : Type} (x x' : Option α) : Prop :=
  ∀ a, x = some a → x' = some a

/-- One step of a reader after another. -/
theorem Kept.bind {α β : Type} {x x' : Option α} {f : α → Option β} (h : Kept x x')
    {f' : α → Option β} (hrest : ∀ a, Kept (f a) (f' a)) : Kept (x.bind f) (x'.bind f') := by
  intro b hb
  obtain ⟨a, ha, hb⟩ := Option.bind_eq_some_iff.1 hb
  exact Option.bind_eq_some_iff.2 ⟨a, h a ha, hrest a b hb⟩

theorem Kept.refl {α : Type} (x : Option α) : Kept x x := fun _ h => h

/-- What is read from a value is read from it after each edit. -/
def Respects {α : Type} (shape : Shape) (read : Json → Option α) : Prop :=
  ∀ j j', Edit shape j j' → Kept (read j) (read j')

theorem Respects.respelled {α : Type} {shape : Shape} {read : Json → Option α}
    (h : Respects shape read) {j j' : Json} (hspelled : Respelled shape j j') :
    Kept (read j) (read j') := by
  induction hspelled with
  | refl => exact .refl _
  | tail _ hedit ih => exact fun a ha => h _ _ hedit a (ih a ha)

/-- Nothing is edited that has no records inside it. -/
theorem respects_plain {α : Type} (read : Json → Option α) : Respects .plain read :=
  fun _ _ h => nomatch h

/-- A list is read when each of its items is. -/
theorem mapM_eq_some_iff {α β : Type} {read : α → Option β} {items : List α} {bs : List β} :
    items.mapM read = some bs ↔ List.Forall₂ (fun item b => read item = some b) items bs := by
  induction items generalizing bs with
  | nil => simp [eq_comm]
  | cons item items ih =>
    rw [List.mapM_cons]
    constructor
    · intro h
      obtain ⟨b, hb, h⟩ := Option.bind_eq_some_iff.1 h
      obtain ⟨bs, hbs, h⟩ := Option.bind_eq_some_iff.1 h
      obtain rfl := Option.some.inj h
      exact .cons hb (ih.1 hbs)
    · rintro (_ | ⟨hb, hbs⟩)
      rw [hb, ih.2 hbs]
      rfl

theorem respects_arrayOf? {α : Type} {shape : Shape} {read : Json → Option α}
    (h : Respects shape read) : Respects (.list shape) (arrayOf? read) := by
  rintro _ _ ⟨⟩ as hread
  rename_i before after v v' hedit
  have hitems : List.Forall₂ (fun j a => read j = some a) (before ++ v :: after) as :=
    mapM_eq_some_iff.1 hread
  refine mapM_eq_some_iff.2 ?_
  clear hread
  induction before generalizing as with
  | nil =>
    obtain ⟨a, rest, hv, hafter, rfl⟩ := List.forall₂_cons_left_iff.1 hitems
    exact .cons (h v v' hedit a hv) hafter
  | cons item before ih =>
    obtain ⟨a, rest, hitem, hrest, rfl⟩ := List.forall₂_cons_left_iff.1 hitems
    exact .cons hitem (ih rest hrest)

/-- An edit leaves no null, and is not made at one. -/
theorem Edit.ne_null {shape : Shape} {j j' : Json} (h : Edit shape j j') : j ≠ null ∧ j' ≠ null := by
  cases h <;> exact ⟨nofun, nofun⟩

/-- What an edit at a record does to one of its fields. -/
inductive Alike (f : Field Shape) : Option Json → Option Json → Prop
  | same (x : Option Json) : Alike f x x
  | nulled (h : f.optional = true) : Alike f none (some null)
  | edited {v v' : Json} (h : Edit f.shape v v') : Alike f (some v) (some v')

theorem Positional.alike {members : List (String × Json)} {f : Field Shape} {item : Json}
    (h : Positional members f item) : Alike f (members.lookup f.name) (some item) := by
  cases h with
  | set hv => rw [hv]; exact .same _
  | unset hoptional hv => rw [hv]; exact .nulled hoptional

/-- What an edit at a record does to the fields, in their order. -/
inductive AllAlike : List (Field Shape) → List (Option Json) → List (Option Json) → Prop
  | nil : AllAlike [] [] []
  | cons {f fields x x' xs xs'} (h : Alike f x x') (hrest : AllAlike fields xs xs') :
      AllAlike (f :: fields) (x :: xs) (x' :: xs')

namespace AllAlike

theorem map {fields : List (Field Shape)} {g g' : Field Shape → Option Json}
    (h : ∀ f ∈ fields, Alike f (g f) (g' f)) :
    AllAlike fields (fields.map g) (fields.map g') := by
  induction fields with
  | nil => exact .nil
  | cons f fields ih =>
    exact .cons (h f List.mem_cons_self) (ih fun f' hf => h f' (List.mem_cons_of_mem f hf))

theorem refl {fields : List (Field Shape)} {xs : List (Option Json)}
    (h : xs.length = fields.length) : AllAlike fields xs xs := by
  induction fields generalizing xs with
  | nil => rw [List.eq_nil_of_length_eq_zero h]; exact .nil
  | cons f fields ih =>
    obtain ⟨x, xs, rfl⟩ := List.exists_cons_of_length_eq_add_one h
    exact .cons (.same x) (ih (Nat.succ.inj h))

theorem append {fields₁ fields₂ : List (Field Shape)} {xs₁ xs₁' xs₂ xs₂' : List (Option Json)}
    (h₁ : AllAlike fields₁ xs₁ xs₁') (h₂ : AllAlike fields₂ xs₂ xs₂') :
    AllAlike (fields₁ ++ fields₂) (xs₁ ++ xs₂) (xs₁' ++ xs₂') := by
  induction h₁ with
  | nil => exact h₂
  | cons h _ ih => exact .cons h ih

end AllAlike

/-- A name that stands once at most has the same value in any order. -/
theorem lookup_eq_of_perm {members members' : List (String × Json)} (h : members.Perm members')
    {n : String} (hn : (members.map Prod.fst).count n ≤ 1) :
    members.lookup n = members'.lookup n := by
  induction h with
  | nil => rfl
  | cons m _ ih =>
    rw [List.lookup_cons, List.lookup_cons]
    rw [List.map_cons, List.count_cons] at hn
    rw [ih (by omega)]
  | swap m₁ m₂ rest =>
    simp only [List.map_cons, List.count_cons, beq_iff_eq] at hn
    by_cases h₁ : m₁.1 = n
    · have h₂ : m₂.1 ≠ n := fun h₂ => by simp [h₁, h₂] at hn
      rw [List.lookup_cons, List.lookup_cons, List.lookup_cons, List.lookup_cons,
        beq_false_of_ne h₂.symm]
    · rw [List.lookup_cons, List.lookup_cons, List.lookup_cons, List.lookup_cons,
        beq_false_of_ne (Ne.symm h₁)]
  | trans h₁ _ ih₁ ih₂ =>
    rw [ih₁ hn, ih₂ (by rwa [← (h₁.map Prod.fst).count_eq])]

section Fields

variable {fields : List (Field Shape)} {members members' : List (String × Json)}
  {items : List Json} {xs : List (Option Json)}

/-- No field that the record knows stands twice. -/
def Known (fields : List (Field Shape)) (members : List (String × Json)) : Prop :=
  ((members.map Prod.fst).filter fun n => (names fields).contains n).Nodup

theorem fields?_object_eq_some_iff :
    (object members).fields? (names fields) = some xs ↔
      Known fields members ∧ xs = fields.map fun f => members.lookup f.name := by
  simp only [fields?, Known, names, List.map_map]
  split
  · next h => exact ⟨fun hxs => ⟨h, (Option.some.inj hxs).symm⟩, fun hxs => congrArg some hxs.2.symm⟩
  · next h => exact ⟨nofun, fun hxs => absurd hxs.1 h⟩

theorem fields?_array_eq_some_iff :
    (array items).fields? (names fields) = some xs ↔
      items.length ≤ fields.length ∧
        xs = items.map some ++ List.replicate (fields.length - items.length) none := by
  have hlength : (names fields).length = fields.length := List.length_map _
  rw [fields?, hlength]
  split
  · next h => exact ⟨fun hxs => ⟨h, (Option.some.inj hxs).symm⟩, fun hxs => congrArg some hxs.2.symm⟩
  · next h => exact ⟨nofun, fun hxs => absurd hxs.1 h⟩

theorem Known.perm (hknown : Known fields members) (h : members.Perm members') :
    Known fields members' :=
  ((h.map Prod.fst).filter _).nodup_iff.1 hknown

/-- Known names stay apart when a known one keeps its place, or an unknown one comes in. -/
theorem Known.of_names (hknown : Known fields members)
    (h : (members'.map Prod.fst).filter (fun n => (names fields).contains n) =
      (members.map Prod.fst).filter fun n => (names fields).contains n) : Known fields members' := by
  rwa [Known, h]

theorem Known.count_le (hknown : Known fields members) {f : Field Shape} (hf : f ∈ fields) :
    (members.map Prod.fst).count f.name ≤ 1 := by
  have hmem : (names fields).contains f.name = true := by
    simpa [names] using ⟨f, hf, rfl⟩
  rw [← List.count_filter (p := fun n => (names fields).contains n) hmem]
  exact List.nodup_iff_count_le_one.1 hknown f.name

theorem lookup_middle (before after : List (String × Json)) (n name : String) (v : Json) :
    (before ++ (name, v) :: after).lookup n =
      (before.lookup n).or (if n = name then some v else after.lookup n) := by
  rw [List.lookup_append, List.lookup_cons]
  by_cases h : n = name
  · simp [h]
  · simp [h, beq_false_of_ne h]

/-- **An edit at a record keeps its fields**, up to an edit inside one of them and a null for one that
is unset. -/
theorem Edit.exists_fields? {j j' : Json} {known : List String} (h : Edit (.record fields) j j')
    (hfields : j.fields? known = some xs) (hnames : names fields = known) (hnodup : known.Nodup) :
    ∃ xs', j'.fields? known = some xs' ∧ AllAlike fields xs xs' := by
  subst hnames
  cases h with
  | permute hperm =>
    obtain ⟨hknown, rfl⟩ := fields?_object_eq_some_iff.1 hfields
    refine ⟨_, fields?_object_eq_some_iff.2 ⟨hknown.perm hperm, rfl⟩, .map fun f hf => ?_⟩
    rw [lookup_eq_of_perm hperm (hknown.count_le hf)]
    exact .same _
  | @add _ before after name v hname =>
    obtain ⟨hknown, rfl⟩ := fields?_object_eq_some_iff.1 hfields
    refine ⟨_, fields?_object_eq_some_iff.2 ⟨hknown.of_names ?_, rfl⟩, .map fun f hf => ?_⟩
    · simp [hname]
    · have hne : f.name ≠ name := fun he => hname (he ▸ List.mem_map_of_mem hf)
      rw [lookup_middle, if_neg hne, ← List.lookup_append]
      exact .same _
  | @arrange _ members items hitems =>
    obtain ⟨hknown, rfl⟩ := fields?_object_eq_some_iff.1 hfields
    have hlength := hitems.length_eq
    refine ⟨items.map some, fields?_array_eq_some_iff.2 ⟨Nat.le_of_eq hlength.symm, by simp [hlength]⟩, ?_⟩
    clear hfields hknown hnodup hlength
    induction hitems with
    | nil => exact .nil
    | cons hitem _ ih => exact .cons hitem.alike ih
  | @member _ f before after v v' hf hedit =>
    obtain ⟨hknown, rfl⟩ := fields?_object_eq_some_iff.1 hfields
    refine ⟨_, fields?_object_eq_some_iff.2 ⟨hknown.of_names (by simp), rfl⟩, .map fun f' hf' => ?_⟩
    rw [lookup_middle, lookup_middle]
    by_cases hname : f'.name = f.name
    · obtain rfl := List.inj_on_of_nodup_map hnodup hf' hf hname
      cases before.lookup f'.name with
      | some w => exact .same _
      | none => simpa using Alike.edited hedit
    · rw [if_neg hname, if_neg hname]
      exact .same _
  | @position fields₁ fields₂ f before after v v' hlength hedit =>
    obtain ⟨hle, rfl⟩ := fields?_array_eq_some_iff.1 hfields
    refine ⟨_, fields?_array_eq_some_iff.2 ⟨by simpa using hle, rfl⟩, ?_⟩
    simp only [List.map_append, List.map_cons, List.append_assoc, List.cons_append]
    refine .append (.refl (by simpa using hlength)) (.cons (.edited hedit) ?_)
    simp only [List.length_append, List.length_cons] at hle ⊢
    exact .refl (by simp; omega)

end Fields

@[simp] theorem string?_string (s : String) : string? (string s) = some s := rfl

@[simp] theorem bool?_bool (b : Bool) : bool? (bool b) = some b := rfl

section Field

variable {α : Type} {read : Json → Option α} {v : Json}

@[simp] theorem required?_some : required? read (some v) = read v := rfl

@[simp] theorem defaulted?_some (default : α) : defaulted? default read (some v) = read v := rfl

theorem optional?_some_of_ne_null (h : v ≠ null) : optional? read (some v) = (read v).map some := by
  cases v <;> first | rfl | exact absurd rfl h

variable {f : Field Shape} {x x' : Option Json}

theorem Alike.required? (h : Alike f x x') (hf : f.optional = false) (hread : Respects f.shape read) :
    Kept (Json.required? read x) (Json.required? read x') := by
  cases h with
  | same => exact .refl _
  | nulled hnull => exact absurd hnull (by simp [hf])
  | edited hedit => exact hread _ _ hedit

theorem Alike.defaulted? (h : Alike f x x') (hf : f.optional = false) (default : α)
    (hread : Respects f.shape read) :
    Kept (Json.defaulted? default read x) (Json.defaulted? default read x') := by
  cases h with
  | same => exact .refl _
  | nulled hnull => exact absurd hnull (by simp [hf])
  | edited hedit => exact hread _ _ hedit

/-- An unset optional field and a null one are read alike. -/
theorem Alike.optional? (h : Alike f x x') (hread : Respects f.shape read) :
    Kept (Json.optional? read x) (Json.optional? read x') := by
  cases h with
  | same => exact .refl _
  | nulled => exact .refl _
  | edited hedit =>
    rw [optional?_some_of_ne_null hedit.ne_null.1, optional?_some_of_ne_null hedit.ne_null.2,
      Option.map_eq_bind, Option.map_eq_bind]
    exact (hread _ _ hedit).bind fun _ => .refl _

end Field
end Json
end AzureProvisioning
