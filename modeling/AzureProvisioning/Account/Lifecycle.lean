/-
# Lifecycle of an account

Refreshing, creating, updating and deleting an account, as programs of calls.

An update changes the regions in steps that keep the account's write region in place until the
priorities change:

1. missing regions are added;
2. regions that are no longer declared are removed, the write region excepted;
3. the other properties are written;
4. the priorities are set: the write region, the read regions in order, and the former write region
   last when it is no longer declared;
5. such a former write region is removed.
-/

import AzureProvisioning.Account.Record
import AzureProvisioning.Region.Delta

namespace AzureProvisioning
namespace Account

/-- The account with the service's record taken over. -/
def takeOver (a : Account) (record : DatabaseAccount) : Operation Account := do
  Program.notes (a.hydrateNotes record)
  return a.hydrate record

/-- Group and name of the object that the account addresses. -/
def lookUp (context : Context) (a : Account) : Operation (Option (String × String)) := do
  Program.notes (a.keyNotes context)
  return a.key? context

/-- Takes over the account as the service has it; whether the service has it. -/
def refreshing (context : Context) : Revision Account Bool := do
  let a ← Revision.record
  match ← Revision.step (a.lookUp context) with
  | none => return false
  | some (group, name) =>
    Revision.step (Program.note .debug ("Refreshing " ++ a.displayName))
    match ← Revision.step (Operation.request (.getAccount group name)) with
    | some record =>
      Revision.replace (← Revision.step (a.takeOver record))
      return true
    | none => return false

/-- Creates the account, and takes over the fields that the service assigned. -/
def creating (context : Context) : Revision Account Unit := do
  let a ← Revision.record
  let kind ←
    match a.kind with
    | some kind => pure kind
    | none => Revision.step (Program.ofCheck (.error (.missing "kind" AccountKind.names)))
  let (policy, write) ← Revision.step (Program.ofCheck a.validate)
  Revision.step (Program.note .info ("Creating " ++ a.displayName))
  let created ← Revision.step (Operation.request
    (.putAccount a.group a.name (a.toRecord context kind policy (write :: a.readRegions))))
  Revision.replace { a with
    id := created.id
    documentEndpoint := created.properties.documentEndpoint
    provisioningState := created.properties.provisioningState }

/-- The account as the service has it; none when the service has no such account. -/
def refresh (context : Context) (a : Account) : Operation (Option Account) :=
  (refreshing context).found a

/-- Creates the account; the result has the fields that the service assigned. -/
def create (context : Context) (a : Account) : Operation Account :=
  (creating context).left a

/-- What the log says of changed fields that can only be set at creation. -/
def ignoredNotes (a : Account) (changed : List String) : List LogEntry :=
  (changed.filter fun f => schema.mutability? f = some .immutable).map fun f =>
    ⟨.warn, "Ignoring change to immutable field '" ++ f ++ "' of " ++ a.displayName⟩

/-- Writes a list of regions. -/
def putRegions (a : Account) (group name : String) (regions : List String) : Operation Unit := do
  Program.note .debug
    ("Setting regions of " ++ a.displayName ++ " to " ++ Text.quotedList regions)
  let _ ← Operation.request (.patchAccount group name (regionUpdate regions))

/-- The regions of an account, the write region first. -/
def regions (a : Account) : List String :=
  a.writeRegion.toList ++ a.readRegions

/-- The declared regions that the current account does not have. -/
def addedRegions (desired current : Account) (write : String) : List String :=
  (Region.delta desired.readRegions current.readRegions write).toAdd.filter fun r =>
    !current.regions.contains r

/-- The regions of the current account, with the missing ones added. -/
def extendedRegions (desired current : Account) (write : String) : List String :=
  current.regions ++ addedRegions desired current write

/-- Whether a region is on the current account but no longer declared. -/
def isRemoved (desired current : Account) (write region : String) : Bool :=
  (Region.delta desired.readRegions current.readRegions write).toRemove.contains region

/-- The extended regions without those that are no longer declared. -/
def remainingRegions (desired current : Account) (write : String) : List String :=
  (extendedRegions desired current write).filter fun r => !isRemoved desired current write r

/-- Adds missing regions, then removes undeclared ones, from the current account's regions. -/
def changeMembers (desired current : Account) (group name write : String) : Operation Unit := do
  let extended := extendedRegions desired current write
  if !(addedRegions desired current write).isEmpty then desired.putRegions group name extended
  if extended.any (isRemoved desired current write) then
    desired.putRegions group name (remainingRegions desired current write)

/-- The current write region, when the declaration does not name it. -/
def staleWrite? (desired current : Account) (write : String) : Option String :=
  current.writeRegion.filter fun w => w != write && !desired.readRegions.contains w

/-- Sets the priorities, then removes a former write region. -/
def changeOrder (desired current : Account) (group name write : String) : Operation Unit := do
  let regions := write :: desired.readRegions
  let stale := staleWrite? desired current write
  Operation.request (.changePriorities group name (failoverOrder (regions ++ stale.toList)))
  match stale with
  | none => return
  | some region =>
    Program.note .info ("Removing former write region " ++ region ++ " from " ++ desired.displayName)
    desired.putRegions group name regions

/-- The changed fields that may change after creation. -/
def updatable (changed : List String) : List String :=
  changed.filter fun f => schema.mutability? f = some .updatable

/-- Brings the current account to the desired one. Of the changed fields only those count that may
change after creation; the others are noted. -/
def update (context : Context) (desired current : Account) (changed : List String) :
    Operation Unit := do
  Program.notes (desired.ignoredNotes changed)
  if (updatable changed).isEmpty then
    Program.note .debug ("No updatable changes for " ++ desired.displayName)
  else
    let (policy, write) ← Program.ofCheck desired.validate
    match ← current.lookUp context with
    | none => Program.fail (.notFound (current.displayName ++ " does not exist"))
    | some (group, name) =>
      Program.note .info
        ("Updating " ++ desired.displayName ++ " (" ++ Text.listed ", " (updatable changed) ++ ")")
      changeMembers desired current group name write
      let _ ← Operation.request (.patchAccount group name (desired.propertyUpdate policy))
      changeOrder desired current group name write

/-- Deletes the account; one that is already gone is no failure. -/
def delete (context : Context) (a : Account) : Operation Unit := do
  match ← a.lookUp context with
  | none => Program.note .info (a.displayName ++ " addresses no account, nothing to delete")
  | some (group, name) =>
    Program.note .info ("Deleting " ++ a.displayName)
    match ← (Operation.request (.deleteAccount group name)).attempt with
    | .ok () => return
    | .error e =>
      if e.isNotFound then Program.note .info (a.displayName ++ " is already gone")
      else Program.fail e

end Account
end AzureProvisioning
