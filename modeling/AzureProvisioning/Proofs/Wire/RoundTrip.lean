/-
# Reading what was written

Each record of the management service is read back from its JSON form, in every spelling of it. A
record has two lemmas:

| lemma | says |
| --- | --- |
| `ofJson?_toJson` | the record is read from what is written of it |
| `respects_ofJson?` | an edit at the record, or inside one of its fields, does not change what is read |

A record in a field of another one enters the lemmas of that one through its own, so the result about
accounts and groups, `read_back_in_every_spelling`, is put together from the inside out. The tags are
no record: every member of theirs is data.
-/

import AzureProvisioning.Proofs.Json.Spelling
import AzureProvisioning.Proofs.Values
import AzureProvisioning.Wire.Account
import AzureProvisioning.Wire.Group

namespace AzureProvisioning

namespace Json

theorem int64?_toInt (n : Int64) : int64? (int n.toInt) = some n := by
  rw [int64?, if_pos ⟨n.minValue_le_toInt, n.toInt_le⟩, Int64.ofInt_toInt]

theorem int32?_toInt (n : Int32) : int32? (int n.toInt) = some n := by
  rw [int32?, if_pos ⟨n.minValue_le_toInt, n.toInt_le⟩, Int32.ofInt_toInt]

theorem stringMap?_ofStringMap {d : Dictionary String String} (h : d.Distinct) :
    stringMap? (ofStringMap d) = some d := by
  have hentries : (d.map fun e => (e.1, string e.2)).mapM
      (fun m : String × Json => m.2.string?.map (m.1, ·)) = some d := by
    rw [mapM_eq_some_iff, List.forall₂_map_left_iff, List.forall₂_same]
    exact fun _ _ => rfl
  show Option.map Dictionary.ofEntries (List.mapM _ _) = _
  rw [hentries, Option.map_some, Dictionary.ofEntries_of_distinct h]

theorem arrayOf?_map {α : Type} {write : α → Json} {read : Json → Option α}
    (h : ∀ a, read (write a) = some a) (as : List α) :
    arrayOf? read (array (as.map write)) = some as := by
  rw [arrayOf?, mapM_eq_some_iff, List.forall₂_map_left_iff, List.forall₂_same]
  exact fun a _ => h a

/-- An optional field is read back, set or unset, if its values are and none is null. -/
theorem optional?_map {α : Type} {write : α → Json} {read : Json → Option α}
    (h : ∀ a, read (write a) = some a) (hnull : ∀ a, write a ≠ null)
    (x : Option α) : optional? read (x.map write) = some x := by
  cases x with
  | none => rfl
  | some a => rw [Option.map_some, optional?_some_of_ne_null (hnull a), h, Option.map_some]

/-- The members of an object that are set. -/
def setMembers (members : List (String × Option Json)) : List (String × Json) :=
  members.filterMap fun m => m.2.map (m.1, ·)

theorem names_setMembers (members : List (String × Option Json)) :
    ((setMembers members).map Prod.fst).Sublist (members.map Prod.fst) := by
  induction members with
  | nil => exact .slnil
  | cons m members ih =>
    obtain ⟨n, _ | v⟩ := m
    · exact ih.cons n
    · exact ih.cons_cons n

theorem lookup_setMembers {members : List (String × Option Json)}
    (hnodup : (members.map Prod.fst).Nodup) {n : String} {x : Option Json} (hm : (n, x) ∈ members) :
    (setMembers members).lookup n = x := by
  induction members with
  | nil => cases hm
  | cons m members ih =>
    obtain ⟨hnew, hrest⟩ := List.nodup_cons.1 hnodup
    obtain rfl | hmem := List.mem_cons.1 hm
    · cases x with
      | none =>
        refine List.lookup_eq_none_iff.2 fun e he => ?_
        have hname := (names_setMembers members).subset (List.mem_map_of_mem he)
        exact bne_iff_ne.2 fun heq => hnew (heq ▸ hname)
      | some v => exact List.lookup_cons_self
    · have hne : n ≠ m.1 := fun he => hnew (he ▸ List.mem_map_of_mem hmem)
      obtain ⟨n', _ | v⟩ := m
      · exact ih hrest hmem
      · show List.lookup n ((n', v) :: setMembers members) = x
        rw [List.lookup_cons, beq_false_of_ne hne]
        exact ih hrest hmem

/-- The members of the written object are the fields of the record. -/
theorem fields?_ofMembers {names : List String} {members : List (String × Option Json)}
    (hnodup : names.Nodup) (h : members.map Prod.fst = names) :
    (ofMembers members).fields? names = some (members.map Prod.snd) := by
  subst h
  have hset : ((setMembers members).map Prod.fst).Nodup := hnodup.sublist (names_setMembers members)
  show fields? _ (object (setMembers members)) = _
  rw [fields?, if_pos (hset.filter _), List.map_map]
  exact congrArg some (List.map_congr_left fun m hm => lookup_setMembers hnodup hm)

/-- The fields of an object that is written whole. -/
theorem fields?_object {names : List String} {members : List (String × Json)}
    (hnodup : names.Nodup) (h : members.map Prod.fst = names) :
    (object members).fields? names = some (members.map fun m => some m.2) := by
  have hset : members = setMembers (members.map fun m => (m.1, some m.2)) := by
    simp [setMembers, List.filterMap_map]
  rw [hset]
  exact (fields?_ofMembers hnodup (by simpa [Function.comp_def] using h)).trans (by simp [← hset])

end Json

namespace Json

/-- The one field of a record with one text field. -/
def singleFields (field : String) : List (Field Shape) := [.value field]

theorem single?_ofSingle (field s : String) : single? field (ofSingle field s) = some s := by
  rw [single?, ofSingle, fields?_object]
  · simp
  · exact List.nodup_singleton field
  · rfl

theorem respects_single? (field : String) :
    Respects (.record (singleFields field)) (single? field) := by
  intro j j' h s hread
  unfold single? at hread
  split at hread
  · next text hfields =>
    obtain ⟨_, hfields', _ | ⟨htext, _ | _⟩⟩ :=
      h.exists_fields? hfields rfl (List.nodup_singleton field)
    rw [single?, hfields']
    revert s
    exact htext.required? rfl (respects_plain _)
  · cases hread

end Json

namespace ConsistencyPolicy

def fields : List (Json.Field Json.Shape) :=
  [.value "defaultConsistencyLevel", .optionalValue "maxStalenessPrefix",
    .optionalValue "maxIntervalInSeconds"]

theorem ofJson?_toJson (p : ConsistencyPolicy) : ofJson? p.toJson = some p := by
  rw [ofJson?, toJson, Json.fields?_ofMembers]
  · simp [Json.optional?_map Json.int64?_toInt fun _ => nofun]
  · decide
  · rfl

theorem respects_ofJson? : Json.Respects (.record fields) ofJson? := by
  intro j j' h p hread
  unfold ofJson? at hread
  split at hread
  · next level staleness interval hfields =>
    obtain ⟨_, hfields', _ | ⟨hlevel, _ | ⟨hstaleness, _ | ⟨hinterval, _ | _⟩⟩⟩⟩ :=
      h.exists_fields? hfields rfl (by decide)
    rw [ofJson?, hfields']
    revert p
    refine (hlevel.required? rfl (Json.respects_plain _)).bind fun _ => ?_
    refine (hstaleness.optional? (Json.respects_plain _)).bind fun _ => ?_
    exact (hinterval.optional? (Json.respects_plain _)).bind fun _ => .refl _
  · cases hread

end ConsistencyPolicy

namespace Location

def fields : List (Json.Field Json.Shape) :=
  [.value "locationName", .value "failoverPriority", .value "isZoneRedundant"]

theorem ofJson?_toJson (l : Location) : ofJson? l.toJson = some l := by
  rw [ofJson?, toJson, Json.fields?_object]
  · simp [Json.int32?_toInt]
  · decide
  · rfl

theorem respects_ofJson? : Json.Respects (.record fields) ofJson? := by
  intro j j' h l hread
  unfold ofJson? at hread
  split at hread
  · next name priority redundant hfields =>
    obtain ⟨_, hfields', _ | ⟨hname, _ | ⟨hpriority, _ | ⟨hredundant, _ | _⟩⟩⟩⟩ :=
      h.exists_fields? hfields rfl (by decide)
    rw [ofJson?, hfields']
    revert l
    refine (hname.required? rfl (Json.respects_plain _)).bind fun _ => ?_
    refine (hpriority.required? rfl (Json.respects_plain _)).bind fun _ => ?_
    exact (hredundant.defaulted? rfl false (Json.respects_plain _)).bind fun _ => .refl _
  · cases hread

end Location

namespace NetworkRule

def fields : List (Json.Field Json.Shape) :=
  [.value "id", .value "ignoreMissingVNetServiceEndpoint"]

theorem ofJson?_toJson (r : NetworkRule) : ofJson? r.toJson = some r := by
  rw [ofJson?, toJson, Json.fields?_object]
  · simp
  · decide
  · rfl

theorem respects_ofJson? : Json.Respects (.record fields) ofJson? := by
  intro j j' h r hread
  unfold ofJson? at hread
  split at hread
  · next subnet ignoreMissing hfields =>
    obtain ⟨_, hfields', _ | ⟨hsubnet, _ | ⟨hignore, _ | _⟩⟩⟩ :=
      h.exists_fields? hfields rfl (by decide)
    rw [ofJson?, hfields']
    revert r
    refine (hsubnet.required? rfl (Json.respects_plain _)).bind fun _ => ?_
    exact (hignore.defaulted? rfl false (Json.respects_plain _)).bind fun _ => .refl _
  · cases hread

end NetworkRule

namespace AccountProperties

def fields : List (Json.Field Json.Shape) :=
  [.optionalValue "provisioningState", .optionalValue "documentEndpoint",
    .optionalValue "databaseAccountOfferType",
    ⟨"consistencyPolicy", .record ConsistencyPolicy.fields, true⟩,
    ⟨"locations", .list (.record Location.fields), false⟩,
    ⟨"capabilities", .list (.record (Json.singleFields "name")), false⟩,
    ⟨"ipRules", .list (.record (Json.singleFields "ipAddressOrRange")), false⟩,
    .value "isVirtualNetworkFilterEnabled",
    ⟨"virtualNetworkRules", .list (.record NetworkRule.fields), false⟩,
    .value "enableAutomaticFailover"]

theorem ofJson?_toJson (p : AccountProperties) : ofJson? p.toJson = some p := by
  rw [ofJson?, toJson, Json.fields?_ofMembers]
  · simp [Json.optional?_map Json.string?_string fun _ => nofun,
      Json.optional?_map ConsistencyPolicy.ofJson?_toJson fun _ => nofun,
      Json.arrayOf?_map Location.ofJson?_toJson, Json.arrayOf?_map (Json.single?_ofSingle _),
      Json.arrayOf?_map NetworkRule.ofJson?_toJson]
  · decide
  · rfl

theorem respects_ofJson? : Json.Respects (.record fields) ofJson? := by
  intro j j' h p hread
  unfold ofJson? at hread
  split at hread
  · next state endpoint offer policy locations capabilities ipRules filterEnabled networkRules
      failover hfields =>
    obtain ⟨_, hfields', _ | ⟨hstate, _ | ⟨hendpoint, _ | ⟨hoffer, _ | ⟨hpolicy, _ | ⟨hlocations,
        _ | ⟨hcapabilities, _ | ⟨hipRules, _ | ⟨hfilterEnabled, _ | ⟨hnetworkRules,
        _ | ⟨hfailover, _ | _⟩⟩⟩⟩⟩⟩⟩⟩⟩⟩⟩ := h.exists_fields? hfields rfl (by decide)
    rw [ofJson?, hfields']
    revert p
    refine (hstate.optional? (Json.respects_plain _)).bind fun _ => ?_
    refine (hendpoint.optional? (Json.respects_plain _)).bind fun _ => ?_
    refine (hoffer.optional? (Json.respects_plain _)).bind fun _ => ?_
    refine (hpolicy.optional? ConsistencyPolicy.respects_ofJson?).bind fun _ => ?_
    refine (hlocations.defaulted? rfl [] (Json.respects_arrayOf? Location.respects_ofJson?)).bind
      fun _ => ?_
    refine (hcapabilities.defaulted? rfl []
      (Json.respects_arrayOf? (Json.respects_single? "name"))).bind fun _ => ?_
    refine (hipRules.defaulted? rfl []
      (Json.respects_arrayOf? (Json.respects_single? "ipAddressOrRange"))).bind fun _ => ?_
    refine (hfilterEnabled.defaulted? rfl false (Json.respects_plain _)).bind fun _ => ?_
    refine (hnetworkRules.defaulted? rfl []
      (Json.respects_arrayOf? NetworkRule.respects_ofJson?)).bind fun _ => ?_
    exact (hfailover.defaulted? rfl false (Json.respects_plain _)).bind fun _ => .refl _
  · cases hread

end AccountProperties

namespace DatabaseAccount

def fields : List (Json.Field Json.Shape) :=
  [.optionalValue "id", .optionalValue "name", .value "location", .optionalValue "kind",
    .value "tags", ⟨"properties", .record AccountProperties.fields, false⟩]

theorem ofJson?_toJson {a : DatabaseAccount} (h : a.tags.Distinct) : ofJson? a.toJson = some a := by
  rw [ofJson?, toJson, Json.fields?_ofMembers]
  · simp [Json.optional?_map Json.string?_string fun _ => nofun, Json.stringMap?_ofStringMap h,
      AccountProperties.ofJson?_toJson]
  · decide
  · rfl

theorem respects_ofJson? : Json.Respects (.record fields) ofJson? := by
  intro j j' h a hread
  unfold ofJson? at hread
  split at hread
  · next id name location kind tags properties hfields =>
    obtain ⟨_, hfields', _ | ⟨hid, _ | ⟨hname, _ | ⟨hlocation, _ | ⟨hkind, _ | ⟨htags,
      _ | ⟨hproperties, _ | _⟩⟩⟩⟩⟩⟩⟩ := h.exists_fields? hfields rfl (by decide)
    rw [ofJson?, hfields']
    revert a
    refine (hid.optional? (Json.respects_plain _)).bind fun _ => ?_
    refine (hname.optional? (Json.respects_plain _)).bind fun _ => ?_
    refine (hlocation.defaulted? rfl "" (Json.respects_plain _)).bind fun _ => ?_
    refine (hkind.optional? (Json.respects_plain _)).bind fun _ => ?_
    refine (htags.defaulted? rfl [] (Json.respects_plain _)).bind fun _ => ?_
    exact (hproperties.defaulted? rfl {} AccountProperties.respects_ofJson?).bind fun _ => .refl _
  · cases hread

end DatabaseAccount

namespace GroupProperties

def fields : List (Json.Field Json.Shape) := [.optionalValue "provisioningState"]

theorem ofJson?_toJson (p : GroupProperties) : ofJson? p.toJson = some p := by
  rw [ofJson?, toJson, Json.fields?_ofMembers]
  · simp [Json.optional?_map Json.string?_string fun _ => nofun]
  · decide
  · rfl

theorem respects_ofJson? : Json.Respects (.record fields) ofJson? := by
  intro j j' h p hread
  unfold ofJson? at hread
  split at hread
  · next state hfields =>
    obtain ⟨_, hfields', _ | ⟨hstate, _ | _⟩⟩ := h.exists_fields? hfields rfl (by decide)
    rw [ofJson?, hfields']
    revert p
    exact (hstate.optional? (Json.respects_plain _)).bind fun _ => .refl _
  · cases hread

end GroupProperties

namespace ResourceGroup

def fields : List (Json.Field Json.Shape) :=
  [.optionalValue "id", .optionalValue "name", .value "location", .value "tags",
    ⟨"properties", .record GroupProperties.fields, true⟩]

theorem ofJson?_toJson {g : ResourceGroup} (h : g.tags.Distinct) : ofJson? g.toJson = some g := by
  rw [ofJson?, toJson, Json.fields?_ofMembers]
  · simp [Json.optional?_map Json.string?_string fun _ => nofun, Json.stringMap?_ofStringMap h,
      Json.optional?_map GroupProperties.ofJson?_toJson fun _ => nofun]
  · decide
  · rfl

theorem respects_ofJson? : Json.Respects (.record fields) ofJson? := by
  intro j j' h g hread
  unfold ofJson? at hread
  split at hread
  · next id name location tags properties hfields =>
    obtain ⟨_, hfields', _ | ⟨hid, _ | ⟨hname, _ | ⟨hlocation, _ | ⟨htags,
      _ | ⟨hproperties, _ | _⟩⟩⟩⟩⟩⟩ := h.exists_fields? hfields rfl (by decide)
    rw [ofJson?, hfields']
    revert g
    refine (hid.optional? (Json.respects_plain _)).bind fun _ => ?_
    refine (hname.optional? (Json.respects_plain _)).bind fun _ => ?_
    refine (hlocation.defaulted? rfl "" (Json.respects_plain _)).bind fun _ => ?_
    refine (htags.defaulted? rfl [] (Json.respects_plain _)).bind fun _ => ?_
    exact (hproperties.optional? GroupProperties.respects_ofJson?).bind fun _ => .refl _
  · cases hread

end ResourceGroup

open Json in
/-- **Accounts and groups are read back** from what is written of them, and from every other spelling
of that: with members in another order, with unknown ones, or as an array of the fields, at any of the
records inside it. -/
theorem read_back_in_every_spelling :
    (∀ a : DatabaseAccount, a.tags.Distinct → DatabaseAccount.ofJson? a.toJson = some a ∧
      ∀ j, Respelled (.record DatabaseAccount.fields) a.toJson j →
        DatabaseAccount.ofJson? j = some a) ∧
    ∀ g : ResourceGroup, g.tags.Distinct → ResourceGroup.ofJson? g.toJson = some g ∧
      ∀ j, Respelled (.record ResourceGroup.fields) g.toJson j →
        ResourceGroup.ofJson? j = some g := by
  refine ⟨fun a ha => ?_, fun g hg => ?_⟩
  · have hread := DatabaseAccount.ofJson?_toJson ha
    exact ⟨hread, fun j hj => DatabaseAccount.respects_ofJson?.respelled hj a hread⟩
  · have hread := ResourceGroup.ofJson?_toJson hg
    exact ⟨hread, fun j hj => ResourceGroup.respects_ofJson?.respelled hj g hread⟩

open Json in
/-- A group as an array of its fields, with null for the id that is unset and with a member in its
properties that is not known. -/
theorem read_back_in_every_spelling_group :
    let g : ResourceGroup :=
      { name := some "rg", location := "eastus", tags := [("env", "prod")],
        properties := some { provisioningState := some "Succeeded" } }
    let spelled := array [null, string "rg", string "eastus", object [("env", string "prod")],
      object [("unmodeled", bool true), ("provisioningState", string "Succeeded")]]
    g.tags.Distinct ∧ Respelled (.record ResourceGroup.fields) g.toJson spelled ∧
      ResourceGroup.ofJson? spelled = some g := by
  intro g spelled
  have hdistinct : g.tags.Distinct := List.nodup_singleton "env"
  have hspelled : Respelled (.record ResourceGroup.fields) g.toJson spelled := by
    refine .tail (.single (.arrange (.cons (.unset rfl rfl) (.cons (.set rfl) (.cons (.set rfl)
      (.cons (.set rfl) (.cons (.set rfl) .nil)))))))
      (@Edit.position [_, _, _, _] [] _ [_, _, _, _] [] _ _ rfl (@Edit.add _ [] _ _ _ (by decide)))
  exact ⟨hdistinct, hspelled, (read_back_in_every_spelling.2 g hdistinct).2 spelled hspelled⟩

end AzureProvisioning
