/-
# What the ids of the service name

The service gives an object an id of its own subscription. The id names the object that it was given
to, and an account or a group that has it addresses that object, from a context in that
subscription. Valid names hold no slash; the group of an account may, and then the id names nothing.
-/

import AzureProvisioning.Group.Record
import AzureProvisioning.Account.Record
import AzureProvisioning.Memory
import AzureProvisioning.Proofs.ArmId.Spelling

namespace AzureProvisioning

theorem AccountName.slash_not_mem {s : String} (h : isValid s = true) : '/' ∉ s.toList := by
  intro hm
  simp only [isValid, Bool.and_eq_true, List.all_eq_true] at h
  have hslash := h.1.1.2 '/' hm
  revert hslash
  decide

theorem AccountName.ne_empty {s : String} (h : isValid s = true) : s ≠ "" := by
  rintro rfl
  revert h
  decide

theorem GroupName.slash_not_mem {s : String} (h : isValid s = true) : '/' ∉ s.toList := by
  intro hm
  simp only [isValid, Bool.and_eq_true, List.all_eq_true] at h
  have hslash := h.1.2 '/' hm
  simp [allows, Text.isWordChar_slash] at hslash

theorem GroupName.ne_empty {s : String} (h : isValid s = true) : s ≠ "" := by
  rintro rfl
  revert h
  decide

/-- Calls in the subscription of the service reach its objects. -/
theorem Context.owns_of_subscription {context : Context}
    (h : context.subscription = Memory.subscription) (group : String)
    (member? : Option ArmId.Member) :
    context.owns ⟨Memory.subscription, group, member?⟩ = true := by
  rw [owns, h]
  exact Text.sameFolded_refl _

namespace Account

variable {group name : String}

/-- The name of an account need not be valid for its id to name it. -/
theorem parse?_accountId_of_segment (hname : ArmId.IsSegment name) :
    ArmId.parse? (Memory.accountId group name) =
      if '/' ∈ group.toList then none
      else some ⟨Memory.subscription, group, some ⟨armType, name⟩⟩ := by
  have htext : Memory.accountId group name = ArmId.groupText Memory.subscription group ++
      "/providers/" ++ "Microsoft.DocumentDB" ++ "/" ++ "databaseAccounts" ++ "/" ++ name := by
    rw [← String.toList_inj]
    simp [Memory.accountId, Memory.groupId, String.toList_append]
  rw [htext, ArmId.parse?_memberText (by decide) (by decide) (by decide) hname.slash hname.ne_empty]
  rfl

theorem parse?_accountId (hname : AccountName.isValid name = true) :
    ArmId.parse? (Memory.accountId group name) =
      if '/' ∈ group.toList then none
      else some ⟨Memory.subscription, group, some ⟨armType, name⟩⟩ :=
  parse?_accountId_of_segment ⟨AccountName.ne_empty hname, AccountName.slash_not_mem hname⟩

/-- The id of an account names it, unless its group holds a slash. -/
theorem ofIdentifier?_accountId (hname : AccountName.isValid name = true) :
    ofIdentifier? (Memory.accountId group name) =
      if '/' ∈ group.toList then none
      else some { name, group, id := some (Memory.accountId group name) } := by
  rw [ofIdentifier?, parse?_accountId hname]
  by_cases hslash : '/' ∈ group.toList
  · rw [if_pos hslash, if_pos hslash]
  · have htype : ArmId.isType ⟨Memory.subscription, group, some ⟨armType, name⟩⟩ armType = true :=
      Text.sameFolded_refl _
    rw [if_neg hslash, if_neg hslash]
    simp only [htype, if_true]
    rfl

/-- What an account addresses is said by its id, when that names an account. -/
theorem key?_of_parse? {a : Account} {identifier : String} {id : ArmId} (context : Context)
    (hid : a.id = some identifier) (hparse : ArmId.parse? identifier = some id)
    (htype : id.isType armType = true) :
    a.key? context = if context.owns id then nonEmptyKey id.group id.name else none := by
  have harm : a.armId? = some id := by
    rw [armId?, hid, Option.bind_some, hparse, Option.filter_some, if_pos htype]
  rw [key?, harm]

/-- An account with the id of the service addresses the object under that id. -/
theorem key?_of_id {context : Context} {a : Account}
    (hcontext : context.subscription = Memory.subscription)
    (hname : AccountName.isValid name = true) (hgroup : group ≠ "") (hslash : '/' ∉ group.toList)
    (hid : a.id = some (Memory.accountId group name)) : a.key? context = some (group, name) := by
  have hparse := @parse?_accountId group name hname
  rw [if_neg hslash] at hparse
  have hname' := AccountName.ne_empty hname
  rw [key?_of_parse? context hid hparse (Text.sameFolded_refl _)]
  simp only [Context.owns_of_subscription hcontext, if_true, ArmId.name, nonEmptyKey]
  simp [hgroup, hname']

end Account

namespace Group

variable {name : String}

/-- The name of a group need not be valid for its id to name it. -/
theorem parse?_groupId_of_segment (hname : ArmId.IsSegment name) :
    ArmId.parse? (Memory.groupId name) = some ⟨Memory.subscription, name, none⟩ :=
  ArmId.parse?_groupText (by decide) (by decide) hname.slash hname.ne_empty

theorem parse?_groupId (hname : GroupName.isValid name = true) :
    ArmId.parse? (Memory.groupId name) = some ⟨Memory.subscription, name, none⟩ :=
  parse?_groupId_of_segment ⟨GroupName.ne_empty hname, GroupName.slash_not_mem hname⟩

/-- The id of a group names it. -/
theorem ofIdentifier?_groupId (hname : GroupName.isValid name = true) :
    ofIdentifier? (Memory.groupId name) = some { name, id := some (Memory.groupId name) } := by
  rw [ofIdentifier?, parse?_groupId hname]
  rfl

/-- What a group addresses is said by its id, when that names a group. -/
theorem key?_of_parse? {g : Group} {identifier : String} {id : ArmId} (context : Context)
    (hid : g.id = some identifier) (hparse : ArmId.parse? identifier = some id)
    (hmember : id.member?.isNone = true) :
    g.key? context = if context.owns id && !id.group.isEmpty then some id.group else none := by
  have harm : g.armId? = some id := by
    rw [armId?, hid, Option.bind_some, hparse, Option.filter_some, if_pos hmember]
  rw [key?, harm]

/-- A group with the id of the service addresses the object under that id. -/
theorem key?_of_id {context : Context} {g : Group}
    (hcontext : context.subscription = Memory.subscription)
    (hname : GroupName.isValid name = true) (hid : g.id = some (Memory.groupId name)) :
    g.key? context = some name := by
  have hname' := GroupName.ne_empty hname
  rw [key?_of_parse? context hid (parse?_groupId hname) rfl]
  simp [Context.owns_of_subscription hcontext, hname']

end Group
end AzureProvisioning
