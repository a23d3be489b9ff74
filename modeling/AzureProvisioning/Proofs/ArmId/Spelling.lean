/-
# Spellings of an id

The path of an id is written with its keywords in any letter case and with any number of slashes at its
two ends (`Spelling`). An id is read from a text exactly when the text is a spelling of it and its
components are segments of a path (`parse?_eq_some_iff`): what is read is what was written, and no text is
read but the spellings. The group of a resource may hold a slash, and then its path has too many segments
and names nothing (`parse?_memberText`).
-/

import AzureProvisioning.Proofs.ArmId

namespace AzureProvisioning
namespace ArmId

/-- How a path is spelled: its keywords, in some letter case, and the slashes at its two ends. -/
structure Spelling where
  subscriptions : String
  groups : String
  providers : String
  leading : Nat
  trailing : Nat
  subscriptions_folded : Text.sameFolded subscriptions "subscriptions" = true
  groups_folded : Text.sameFolded groups "resourceGroups" = true
  providers_folded : Text.sameFolded providers "providers" = true

/-- The given number of slashes. -/
def slashes (n : Nat) : String :=
  String.ofList (List.replicate n '/')

namespace Spelling

/-- The spelling of `text`. -/
def usual : Spelling where
  subscriptions := "subscriptions"
  groups := "resourceGroups"
  providers := "providers"
  leading := 1
  trailing := 0
  subscriptions_folded := Text.sameFolded_refl _
  groups_folded := Text.sameFolded_refl _
  providers_folded := Text.sameFolded_refl _

/-- The path of an id, spelled so. -/
def write (w : Spelling) (id : ArmId) : String :=
  let member := match id.member? with
    | none => ""
    | some r => "/" ++ w.providers ++ "/" ++ r.type ++ "/" ++ r.name
  slashes w.leading ++ w.subscriptions ++ "/" ++ id.subscription ++ "/" ++ w.groups ++ "/" ++ id.group ++
    member ++ slashes w.trailing

theorem write_usual (id : ArmId) : usual.write id = id.text := by
  rw [← String.toList_inj]
  cases h : id.member? <;> simp [write, usual, slashes, text, groupText_eq, h]

end Spelling

/-- A text is a segment when it is one in another letter case. -/
theorem isSegment_of_sameFolded {a b : String} (h : Text.sameFolded a b = true)
    (hb : '/' ∉ Text.foldCase b) (hne : Text.foldCase b ≠ []) : IsSegment a := by
  rw [Text.sameFolded_iff] at h
  rw [← h] at hb hne
  refine ⟨?_, fun hslash => hb (List.mem_map.2 ⟨'/', hslash, rfl⟩)⟩
  rintro rfl
  exact hne rfl

theorem Spelling.isSegment_subscriptions (w : Spelling) : IsSegment w.subscriptions :=
  isSegment_of_sameFolded w.subscriptions_folded (by decide) (by decide)

theorem Spelling.isSegment_groups (w : Spelling) : IsSegment w.groups :=
  isSegment_of_sameFolded w.groups_folded (by decide) (by decide)

theorem Spelling.isSegment_providers (w : Spelling) : IsSegment w.providers :=
  isSegment_of_sameFolded w.providers_folded (by decide) (by decide)

/-- The reader knows the keyword of groups by another letter case. -/
theorem sameFolded_resourceGroups (s : String) :
    Text.sameFolded s "resourcegroups" = Text.sameFolded s "resourceGroups" := by
  have hfold : Text.foldCase "resourcegroups" = Text.foldCase "resourceGroups" := by decide
  rw [Text.sameFolded, hfold, Text.sameFolded]

/-- The components of the id are segments of its path. In the path of a resource, all but the name may
be empty, and the type is two segments. -/
inductive Legible : ArmId → Prop
  | group {subscription group : String} (hsub : IsSegment subscription) (hgroup : IsSegment group) :
      Legible ⟨subscription, group, none⟩
  | member {subscription group provider type name : String} (hsub : '/' ∉ subscription.toList)
      (hgroup : '/' ∉ group.toList) (hprovider : '/' ∉ provider.toList) (htype : '/' ∉ type.toList)
      (hname : IsSegment name) :
      Legible ⟨subscription, group, some ⟨provider ++ "/" ++ type, name⟩⟩

/-- **An id is read from each of its spellings.** -/
theorem parse?_write {id : ArmId} (h : id.Legible) (w : Spelling) : parse? (w.write id) = some id := by
  cases h with
  | @group subscription group hsub hgroup =>
    have hsegments : segments (w.write ⟨subscription, group, none⟩) =
        [w.subscriptions, subscription, w.groups, group] := by
      rw [segments_of_join (m := w.leading) (n := w.trailing) w.isSegment_subscriptions
        [subscription, w.groups] hgroup (by simp [Spelling.write, slashes, Text.join])]
      simp [Text.split_of_not_mem hsub.slash, Text.split_of_not_mem w.isSegment_groups.slash]
    rw [parse?, hsegments, ofSegments?, w.subscriptions_folded, sameFolded_resourceGroups,
      w.groups_folded]
    simp [hsub.ne_empty, hgroup.ne_empty]
  | @member subscription group provider type name hsub hgroup hprovider htype hname =>
    have hsegments :
        segments (w.write ⟨subscription, group, some ⟨provider ++ "/" ++ type, name⟩⟩) =
          [w.subscriptions, subscription, w.groups, group, w.providers, provider, type, name] := by
      rw [segments_of_join (m := w.leading) (n := w.trailing) w.isSegment_subscriptions
        [subscription, w.groups, group, w.providers, provider, type] hname
        (by simp [Spelling.write, slashes, Text.join])]
      simp [Text.split_of_not_mem hsub, Text.split_of_not_mem w.isSegment_groups.slash,
        Text.split_of_not_mem hgroup, Text.split_of_not_mem w.isSegment_providers.slash,
        Text.split_of_not_mem hprovider, Text.split_of_not_mem htype]
    rw [parse?, hsegments, ofSegments?, w.subscriptions_folded, sameFolded_resourceGroups,
      w.groups_folded, w.providers_folded]
    simp [hname.ne_empty]

/-- **Only the spellings of an id are read as it.** -/
theorem legible_of_parse? {s : String} {id : ArmId} (h : parse? s = some id) :
    id.Legible ∧ ∃ w : Spelling, s = w.write id := by
  obtain ⟨m, n, hs⟩ := exists_join_segments s
  have hslash : ∀ part ∈ segments s, '/' ∉ part.toList := fun part => slash_not_mem_of_mem_segments
  rw [parse?] at h
  unfold ofSegments? at h
  split at h
  · next subscriptions subscription groups group hsegments =>
    rw [hsegments] at hs hslash
    simp only [List.forall_mem_cons] at hslash
    obtain ⟨-, hsub, -, hgroup, -⟩ := hslash
    split at h
    · next hcheck =>
      simp only [Bool.and_eq_true, Bool.not_eq_true', String.isEmpty_eq_false_iff] at hcheck
      obtain ⟨⟨⟨hsubscriptions, hgroups⟩, hsub'⟩, hgroup'⟩ := hcheck
      obtain rfl := Option.some.inj h
      refine ⟨.group ⟨hsub', hsub⟩ ⟨hgroup', hgroup⟩,
        ⟨subscriptions, groups, "providers", m, n, hsubscriptions,
          sameFolded_resourceGroups groups ▸ hgroups, Text.sameFolded_refl _⟩, ?_⟩
      rw [← String.toList_inj, hs]
      simp [Spelling.write, slashes, Text.join]
    · cases h
  · next subscriptions subscription groups group providers provider type name hsegments =>
    rw [hsegments] at hs hslash
    simp only [List.forall_mem_cons] at hslash
    obtain ⟨-, hsub, -, hgroup, -, hprovider, htype, hname, -⟩ := hslash
    split at h
    · next hcheck =>
      simp only [Bool.and_eq_true, Bool.not_eq_true', String.isEmpty_eq_false_iff] at hcheck
      obtain ⟨⟨⟨hsubscriptions, hgroups⟩, hproviders⟩, hname'⟩ := hcheck
      obtain rfl := Option.some.inj h
      refine ⟨.member hsub hgroup hprovider htype ⟨hname', hname⟩,
        ⟨subscriptions, groups, providers, m, n, hsubscriptions,
          sameFolded_resourceGroups groups ▸ hgroups, hproviders⟩, ?_⟩
      rw [← String.toList_inj, hs]
      simp [Spelling.write, slashes, Text.join]
    · cases h
  · cases h

theorem parse?_eq_some_iff {s : String} {id : ArmId} :
    parse? s = some id ↔ id.Legible ∧ ∃ w : Spelling, s = w.write id := by
  constructor
  · exact legible_of_parse?
  · rintro ⟨hid, w, rfl⟩
    exact parse?_write hid w

example : parse? "subscriptions//resourceGroups//providers///x" = some ⟨"", "", some ⟨"/", "x"⟩⟩ := by
  decide

/-- A text spells one id. -/
theorem Spelling.write_injective {id id' : ArmId} {w w' : Spelling} (h : id.Legible)
    (h' : id'.Legible) (hwrite : w.write id = w'.write id') : id = id' := by
  have hparse := parse?_write h w
  rw [hwrite, parse?_write h' w'] at hparse
  exact (Option.some.inj hparse).symm

/-- **Reading an id inverts writing it.** The usual spelling is the written form. The components of a group
and of a resource are read from each of their spellings, as they are. What is read from a text is an id
whose components are segments and of which the text is a spelling, and each such id is read. So two texts
with one id differ in the letter case of keywords and in the slashes at their ends only, and no text
spells a group and a resource. -/
theorem parse?_inverts_write :
    (∀ id : ArmId, Spelling.usual.write id = id.text) ∧
    (∀ (w : Spelling) (subscription group : String), IsSegment subscription → IsSegment group →
      parse? (w.write ⟨subscription, group, none⟩) = some ⟨subscription, group, none⟩) ∧
    (∀ (w : Spelling) (subscription group provider type name : String), IsSegment subscription →
      IsSegment group → IsSegment provider → IsSegment type → IsSegment name →
      parse? (w.write ⟨subscription, group, some ⟨provider ++ "/" ++ type, name⟩⟩) =
        some ⟨subscription, group, some ⟨provider ++ "/" ++ type, name⟩⟩) ∧
    (∀ (s : String) (id : ArmId), parse? s = some id ↔ id.Legible ∧ ∃ w : Spelling, s = w.write id) ∧
    (∀ (s t : String) (id : ArmId), parse? s = some id → parse? t = some id →
      ∃ w w' : Spelling, s = w.write id ∧ t = w'.write id) ∧
    ∀ (w w' : Spelling) (id id' : ArmId), id.Legible → id'.Legible → id.member? = none →
      id'.member? ≠ none → w.write id ≠ w'.write id' := by
  refine ⟨Spelling.write_usual, ?_, ?_, fun s id => parse?_eq_some_iff, ?_, ?_⟩
  · intro w subscription group hsub hgroup
    exact parse?_write (.group hsub hgroup) w
  · intro w subscription group provider type name hsub hgroup hprovider htype hname
    exact parse?_write (.member hsub.slash hgroup.slash hprovider.slash htype.slash hname) w
  · intro s t id hs ht
    obtain ⟨-, w, hw⟩ := legible_of_parse? hs
    obtain ⟨-, w', hw'⟩ := legible_of_parse? ht
    exact ⟨w, w', hw, hw'⟩
  · intro w w' id id' h h' hgroup hmember hwrite
    rw [Spelling.write_injective h h' hwrite] at hgroup
    exact hmember hgroup

/-- A group and an account of it, with loud keywords and slashes at both ends. -/
theorem parse?_inverts_write_loud :
    let loud : Spelling := ⟨"SUBSCRIPTIONS", "resourcegroups", "PROVIDERS", 2, 1, by decide, by decide,
      by decide⟩
    let group : ArmId := ⟨"0000", "rg-Data", none⟩
    let account : ArmId := ⟨"0000", "rg-Data", some ⟨"Microsoft.DocumentDB/databaseAccounts", "Orders"⟩⟩
    loud.write group = "//SUBSCRIPTIONS/0000/resourcegroups/rg-Data/" ∧
      loud.write account = "//SUBSCRIPTIONS/0000/resourcegroups/rg-Data/PROVIDERS/" ++
        "Microsoft.DocumentDB/databaseAccounts/Orders/" ∧
      parse? (loud.write group) = some group ∧ parse? (loud.write account) = some account ∧
      loud.write group ≠ Spelling.usual.write account ∧
      (∃ w w' : Spelling, "subscriptions/0000/RESOURCEGROUPS/rg-Data" = w.write group ∧
        "//SUBSCRIPTIONS/0000/resourcegroups/rg-Data/" = w'.write group) := by
  intro loud group account
  obtain ⟨-, hgroup, hmember, hread, hsame, hapart⟩ := parse?_inverts_write
  have hsub : IsSegment "0000" := ⟨by decide, by decide⟩
  have hname : IsSegment "rg-Data" := ⟨by decide, by decide⟩
  have hgroupRead := hgroup loud _ _ hsub hname
  have haccountRead := hmember loud _ _ "Microsoft.DocumentDB" "databaseAccounts" "Orders" hsub hname
    ⟨by decide, by decide⟩ ⟨by decide, by decide⟩ ⟨by decide, by decide⟩
  refine ⟨by decide, by decide, hgroupRead, haccountRead, ?_, hsame _ _ _ (by decide) (by decide)⟩
  exact hapart _ _ _ _ ((hread _ _).1 hgroupRead).1 ((hread _ _).1 haccountRead).1 rfl
    (Option.some_ne_none _)

variable {subscription group provider type name : String}

/-- **The id of a group is read back.** -/
theorem parse?_groupText (hsub : '/' ∉ subscription.toList) (hsub' : subscription ≠ "")
    (hgroup : '/' ∉ group.toList) (hgroup' : group ≠ "") :
    parse? (groupText subscription group) = some ⟨subscription, group, none⟩ := by
  have hread := parse?_write (.group ⟨hsub', hsub⟩ ⟨hgroup', hgroup⟩) .usual
  rwa [Spelling.write_usual] at hread

/-- **The id of a resource is read back**, unless the group holds a slash: then it has too many
segments. -/
theorem parse?_memberText (hsub : '/' ∉ subscription.toList) (hprovider : '/' ∉ provider.toList)
    (htype : '/' ∉ type.toList) (hname : '/' ∉ name.toList) (hname' : name ≠ "") :
    parse? (groupText subscription group ++ "/providers/" ++ provider ++ "/" ++ type ++ "/" ++ name) =
      if '/' ∈ group.toList then none
      else some ⟨subscription, group, some ⟨provider ++ "/" ++ type, name⟩⟩ := by
  split
  · next hslash =>
    have hsegments := segments_of_join (s := groupText subscription group ++ "/providers/" ++ provider ++
        "/" ++ type ++ "/" ++ name) (m := 1) (n := 0)
      (⟨by decide, by decide⟩ : IsSegment "subscriptions")
      [subscription, "resourceGroups", group, "providers", provider, type] ⟨hname', hname⟩
      (by simp [groupText_eq, Text.join])
    have hlong := Text.two_le_length_split hslash
    cases hread : parse? (groupText subscription group ++ "/providers/" ++ provider ++ "/" ++ type ++
        "/" ++ name) with
    | none => rfl
    | some id =>
      rw [parse?, hsegments] at hread
      have hlength := length_of_ofSegments? hread
      simp [Text.split_of_not_mem hsub, Text.split_of_not_mem hprovider, Text.split_of_not_mem htype,
        Text.split] at hlength
      omega
  · next hslash =>
    have hread := parse?_write (.member hsub hslash hprovider htype ⟨hname', hname⟩) .usual
    rw [Spelling.write_usual] at hread
    rw [← hread]
    simp [text, String.append_assoc]

end ArmId
end AzureProvisioning
