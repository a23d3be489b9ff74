/-
# The changes of an update

An update of an account is a list of changes that nothing the service answers can alter
(`quiet_update`): patches of the regions, a patch of the properties, a new order, and a last patch
when a former write region is removed. `Change.after?` says what a change makes of an account, by
the rules of the service; `Change.Steps` chains changes and says of every account on the way that it
has a property, so that a chain which is cut off anywhere still leaves an account with that
property.
-/

import AzureProvisioning.Proofs.Account.Locations
import AzureProvisioning.Proofs.Account.Regions
import AzureProvisioning.Proofs.Program

namespace AzureProvisioning
namespace Account

/-- A change of an account. -/
inductive Change
  | patch (update : AccountUpdate)
  | order (policies : List FailoverPolicy)

namespace Change

/-- The call that asks for the change. -/
def call (group name : String) : Change → Call
  | patch update => .patchAccount group name update
  | order policies => .changePriorities group name policies

/-- The account after the change; none when the service refuses it. -/
def after? : Change → DatabaseAccount → Option DatabaseAccount
  | patch update, a =>
    if Memory.keepsWriteRegion a update then some (Memory.patched a update) else none
  | order policies, a =>
    if Memory.namesEveryRegion a (policies.map (·.location)) then some (Memory.reordered a policies)
    else none

/-- The changes lead from one account to another, and all accounts from the first to the last have
the property. -/
inductive Steps (P : DatabaseAccount → Prop) : List Change → DatabaseAccount → DatabaseAccount → Prop
  | nil {a : DatabaseAccount} (h : P a) : Steps P [] a a
  | cons {c : Change} {cs : List Change} {a b d : DatabaseAccount} (ha : P a)
      (h : c.after? a = some b) (rest : Steps P cs b d) : Steps P (c :: cs) a d

namespace Steps

variable {P : DatabaseAccount → Prop} {cs ds : List Change} {a b d : DatabaseAccount}

theorem first (h : Steps P cs a b) : P a := by
  cases h with
  | nil h => exact h
  | cons h => exact h

theorem last (h : Steps P cs a b) : P b := by
  induction h with
  | nil h => exact h
  | cons _ _ _ ih => exact ih

theorem append (h : Steps P cs a b) (h' : Steps P ds b d) : Steps P (cs ++ ds) a d := by
  induction h with
  | nil => exact h'
  | cons ha hc _ ih => exact .cons ha hc (ih h')

theorem single {c : Change} (ha : P a) (h : c.after? a = some b) (hb : P b) : Steps P [c] a b :=
  .cons ha h (.nil hb)

end Steps
end Change

/-- The region lists that are written before the order changes. -/
def regionLists (desired current : Account) (write : String) : List (List String) :=
  (if (addedRegions desired current write).isEmpty then []
    else [extendedRegions desired current write]) ++
  (if (extendedRegions desired current write).any (isRemoved desired current write) then
    [remainingRegions desired current write] else [])

/-- The change that writes a list of regions. -/
def regionChange (regions : List String) : Change :=
  .patch (regionUpdate regions)

/-- The changes of an update, in order. -/
def changes (desired current : Account) (policy : ConsistencyPolicy) (write : String) :
    List Change :=
  (regionLists desired current write).map regionChange ++
    .patch (desired.propertyUpdate policy) ::
    .order (failoverOrder (orderedRegions desired current write)) ::
    (staleWrite? desired current write).toList.map fun _ =>
      regionChange (write :: desired.readRegions)

section Quiet

open Program

variable (context : Context) (desired current : Account)

theorem quiet_putRegions (group name : String) (regions : List String) :
    (desired.putRegions group name regions).quiet =
      Operation.inOrder [(regionChange regions).call group name] := by
  simp only [putRegions, bind_eq_bind, pure_eq_done, quiet_bind, quiet_note, done_bind, quiet_done,
    Operation.quiet_request (.patchAccount group name (regionUpdate regions))]
  rfl

theorem quiet_changeMembers (group name write : String) :
    (changeMembers desired current group name write).quiet =
      Operation.inOrder
        (((regionLists desired current write).map regionChange).map (Change.call group name)) := by
  have hwhen (c : Bool) (regions : List String) :
      (if c = true then desired.putRegions group name regions else pure ()).quiet =
        Operation.inOrder
          (((if c = true then [regions] else []).map regionChange).map (Change.call group name)) := by
    cases c with
    | false => rfl
    | true => exact desired.quiet_putRegions group name regions
  have hmembers : changeMembers desired current group name write =
      (if (!(addedRegions desired current write).isEmpty) = true then
        desired.putRegions group name (extendedRegions desired current write) else pure ()).bind
      fun _ =>
        if (extendedRegions desired current write).any (isRemoved desired current write) = true then
          desired.putRegions group name (remainingRegions desired current write) else pure () := by
    unfold changeMembers
    cases (addedRegions desired current write).isEmpty <;> rfl
  have hlists : regionLists desired current write =
      (if (!(addedRegions desired current write).isEmpty) = true then
        [extendedRegions desired current write] else []) ++
      (if (extendedRegions desired current write).any (isRemoved desired current write) = true then
        [remainingRegions desired current write] else []) := by
    unfold regionLists
    cases (addedRegions desired current write).isEmpty <;> rfl
  rw [hmembers, hlists, quiet_bind, hwhen, hwhen, List.map_append, List.map_append,
    Operation.inOrder_append]

theorem quiet_changeOrder (group name write : String) :
    (changeOrder desired current group name write).quiet =
      Operation.inOrder
        ((.order (failoverOrder (orderedRegions desired current write)) ::
          (staleWrite? desired current write).toList.map fun _ =>
            regionChange (write :: desired.readRegions)).map (Change.call group name)) := by
  unfold changeOrder orderedRegions
  cases staleWrite? desired current write with
  | none =>
    simp only [bind_eq_bind, quiet_bind, Operation.quiet_request (.changePriorities group name _)]
    rfl
  | some stale =>
    simp only [bind_eq_bind, quiet_bind, quiet_note, done_bind, quiet_putRegions,
      Operation.quiet_request (.changePriorities group name _)]
    rfl

theorem quiet_lookUp : (current.lookUp context).quiet = .done (current.key? context) := by
  simp [lookUp, bind_eq_bind, pure_eq_done]

/-- **An update that has something to write makes its changes in order**, when the declaration is
valid and the account is found; else it makes no call. -/
theorem quiet_update (changed : List String) :
    (update context desired current changed).quiet =
      if (updatable changed).isEmpty then .done ()
      else (ofCheck desired.validate).bind fun checked =>
        match current.key? context with
        | none => .fail (.notFound (current.displayName ++ " does not exist"))
        | some (group, name) =>
          Operation.inOrder
            ((changes desired current checked.1 checked.2).map (Change.call group name)) := by
  unfold update
  by_cases h : (updatable changed).isEmpty = true
  · rw [if_pos h]
    simp [bind_eq_bind, h]
  · rw [if_neg h]
    simp only [bind_eq_bind, if_neg h, quiet_bind, quiet_notes, quiet_ofCheck, quiet_lookUp, done_bind]
    congr 1
    funext checked
    cases current.key? context with
    | none => rfl
    | some key =>
      simp only [quiet_bind, quiet_note, done_bind, quiet_changeMembers, quiet_changeOrder, changes,
        List.map_append, Operation.inOrder_append,
        Operation.quiet_request (.patchAccount key.1 key.2 _)]
      rfl

end Quiet
end Account
end AzureProvisioning
