/-
# Coherent stores

In a store of the service an object is found by its key, and the id and the name that are kept of it
are what a later look-up goes by. A store is `Coherent` when they lead back to the key: the id of
every object names an object of its type in the subscription of the service, under the name and the
group that are kept, and their small letters are the key.

Every `Step` keeps a store coherent, be it a call, which may fail, an account that is put there
before, or a failure that is planned. Only a creation and such an account bring in names; they have to
be segments of an id, since the id of an object is written with them. So every store that is reached
from the empty one is coherent (`coherent_of_reachable`), and so is the store after every run of an
operation (`Coherent.run`).
-/

import AzureProvisioning.Proofs.Identity
import AzureProvisioning.Proofs.Program
import AzureProvisioning.Proofs.Values
import Mathlib.Logic.Relation

namespace AzureProvisioning

namespace Memory

/-- The id and the name of a stored account lead back to where it is stored: to the key, and to the
group as it was given. -/
def CoherentAccount (key : String × String) (given : String) (w : DatabaseAccount) : Prop :=
  ∃ identifier id, w.id = some identifier ∧ ArmId.parse? identifier = some id ∧
    id.subscription = subscription ∧ id.isType Account.armType = true ∧ id.group = given ∧
    w.name = some id.name ∧ accountKey id.group id.name = key

/-- The id and the name of a stored group lead back to its key. -/
def CoherentGroup (key : String) (w : ResourceGroup) : Prop :=
  ∃ identifier id, w.id = some identifier ∧ ArmId.parse? identifier = some id ∧
    id.subscription = subscription ∧ id.member? = none ∧ w.name = some id.group ∧
    groupKey id.group = key

/-- Every stored object leads back to where it is stored. -/
structure Coherent (m : Memory) : Prop where
  accounts : ∀ e ∈ m.accounts, CoherentAccount e.1 e.2.1 e.2.2
  groups : ∀ e ∈ m.groups, CoherentGroup e.1 e.2

variable {m m' : Memory} {group name : String}

theorem coherentAccount_of_id {w : DatabaseAccount} (hgroup : ArmId.IsSegment group)
    (hname : ArmId.IsSegment name) (hid : w.id = some (accountId group name))
    (hw : w.name = some name) : CoherentAccount (accountKey group name) group w :=
  ⟨_, ⟨subscription, group, some ⟨Account.armType, name⟩⟩, hid,
    by rw [Account.parse?_accountId_of_segment hname, if_neg hgroup.slash], rfl,
    Text.sameFolded_refl _, rfl, hw, rfl⟩

theorem coherentGroup_of_id {w : ResourceGroup} (hname : ArmId.IsSegment name)
    (hid : w.id = some (groupId name)) (hw : w.name = some name) :
    CoherentGroup (groupKey name) w :=
  ⟨_, _, hid, Group.parse?_groupId_of_segment hname, rfl, rfl, hw, rfl⟩

theorem coherent_empty : Coherent {} :=
  ⟨List.forall_mem_nil _, List.forall_mem_nil _⟩

namespace Coherent

/-- Neither the record of the calls nor a planned failure counts. -/
theorem of_objects (h : m.Coherent) (haccounts : m'.accounts = m.accounts)
    (hgroups : m'.groups = m.groups) : m'.Coherent :=
  ⟨haccounts ▸ h.accounts, hgroups ▸ h.groups⟩

theorem insertAccount (h : m.Coherent) {key : String × String} {given : String} {w : DatabaseAccount}
    (hw : CoherentAccount key given w) :
    Coherent { m with accounts := m.accounts.insert key (given, w) } where
  accounts e he := by
    obtain rfl | he := Dictionary.mem_of_mem_insert he
    · exact hw
    · exact h.accounts e he
  groups := h.groups

theorem insertGroup (h : m.Coherent) {key : String} {w : ResourceGroup}
    (hw : CoherentGroup key w) : Coherent { m with groups := m.groups.insert key w } where
  accounts := h.accounts
  groups e he := by
    obtain rfl | he := Dictionary.mem_of_mem_insert he
    · exact hw
    · exact h.groups e he

theorem eraseAccount (h : m.Coherent) (key : String × String) :
    Coherent { m with accounts := m.accounts.erase key } :=
  ⟨fun e he => h.accounts e ((List.mem_filter.1 he).1), h.groups⟩

theorem eraseGroup (h : m.Coherent) (key : String) :
    Coherent { m with groups := m.groups.erase key } :=
  ⟨h.accounts, fun e he => h.groups e ((List.mem_filter.1 he).1)⟩

/-- The account under a key leads back to it. -/
theorem account_of_get? (h : m.Coherent) {key : String × String} {found : String × DatabaseAccount}
    (hget : m.accounts.get? key = some found) : CoherentAccount key found.1 found.2 :=
  h.accounts (key, found) (Dictionary.mem_of_get? hget)

theorem group_of_get? (h : m.Coherent) {key : String} {w : ResourceGroup}
    (hget : m.groups.get? key = some w) : CoherentGroup key w :=
  h.groups (key, w) (Dictionary.mem_of_get? hget)

end Coherent

end Memory

/-- The names that a creation brings in are segments of an id. -/
def Call.BringsSegments : Call → Prop
  | .putAccount group name _ => ArmId.IsSegment group ∧ ArmId.IsSegment name
  | .putGroup name _ => ArmId.IsSegment name
  | _ => True

namespace Memory

variable {m m' : Memory} {group name : String}

/-- **What a call does to a coherent store.** A creation writes the id from the names; an update writes
neither id nor name, and a deletion takes the object out. -/
theorem Coherent.perform (h : m.Coherent) {c : Call} (hc : c.BringsSegments) :
    (Memory.perform c m).2.Coherent := by
  cases c with
  | getAccount | listAccounts | listAccountsIn | getGroup | listGroups => exact h
  | putAccount group name account =>
    exact h.insertAccount (coherentAccount_of_id hc.1 hc.2 rfl rfl)
  | patchAccount group name update =>
    simp only [Memory.perform]
    cases hget : m.accounts.get? (accountKey group name) with
    | none => exact h
    | some found =>
      dsimp only
      split
      · exact h.insertAccount (h.account_of_get? hget)
      · exact h
  | changePriorities group name policies =>
    simp only [Memory.perform]
    cases hget : m.accounts.get? (accountKey group name) with
    | none => exact h
    | some found =>
      dsimp only
      split
      · exact h.insertAccount (h.account_of_get? hget)
      · exact h
  | deleteAccount group name =>
    simp only [Memory.perform]
    cases m.accounts.get? (accountKey group name) with
    | none => exact h
    | some found => exact h.eraseAccount _
  | putGroup name group => exact h.insertGroup (coherentGroup_of_id hc rfl rfl)
  | setGroupTags name tags =>
    simp only [Memory.perform]
    cases hget : m.group? name with
    | none => exact h
    | some found =>
      have hfound : CoherentGroup (groupKey name) found := h.group_of_get? hget
      exact h.insertGroup hfound
  | deleteGroup name =>
    simp only [Memory.perform]
    cases m.group? name with
    | none => exact h
    | some found => exact h.eraseGroup _

/-- One step of a store. -/
inductive Step (m : Memory) : Memory → Prop
  | call (c : Call) (h : c.BringsSegments) : Step m (answer c m).2
  /-- An account without an id is put there. -/
  | seed {group name : String} {account : DatabaseAccount} (hgroup : ArmId.IsSegment group)
      (hname : ArmId.IsSegment name) (hnamed : account.name = some name) (hid : account.id = none) :
      Step m (m.seedAccount group account)
  | plan (operation : String) : Step m (m.failNext operation)

/-- A call that fails as planned leaves the objects as they are. -/
theorem Coherent.answer (h : m.Coherent) {c : Call} (hc : c.BringsSegments) :
    (Memory.answer c m).2.Coherent := by
  have hrecorded (calls : List String) : Coherent { m with calls } := h.of_objects rfl rfl
  simp only [Memory.answer]
  split
  · exact h.of_objects rfl rfl
  · exact (hrecorded _).perform hc

/-- **Every step keeps a store coherent.** -/
theorem Coherent.step (h : m.Coherent) (hstep : Step m m') : m'.Coherent := by
  cases hstep with
  | call c hc => exact h.answer hc
  | seed hgroup hname hnamed hid =>
    simp only [seedAccount, hnamed, hid, Option.getD_some, Option.getD_none]
    exact h.insertAccount (coherentAccount_of_id hgroup hname rfl rfl)
  | plan operation => exact h.of_objects rfl rfl

theorem coherent_of_reachable (h : Relation.ReflTransGen Step {} m) : m.Coherent := by
  induction h with
  | refl => exact coherent_empty
  | tail _ hstep ih => exact ih.step hstep

/-- A run keeps a store coherent when every creation in it brings in segments. -/
theorem Coherent.run {α : Type} {operation : Operation α} (h : m.Coherent)
    (hcalls : ∀ c ∈ (Memory.run operation m).asked, c.BringsSegments) :
    (Memory.run operation m).state.Coherent :=
  Program.run_state_keeps Memory.answer (fun c hc _ hm => hm.answer (hcalls c hc)) h

end Memory
end AzureProvisioning
