/-
# Lifecycle of a resource group

Refreshing, creating, updating and deleting a group, as programs of calls. Of an existing group only
the tags can be updated.
-/

import AzureProvisioning.Group.Record

namespace AzureProvisioning
namespace Group

/-- Name of the object that the group addresses. -/
def lookUp (context : Context) (g : Group) : Operation (Option String) := do
  Program.notes (g.keyNotes context)
  return g.key? context

/-- Takes over the group as the service has it; whether the service has it. -/
def refreshing (context : Context) : Revision Group Bool := do
  let g ← Revision.record
  match ← Revision.step (g.lookUp context) with
  | none => return false
  | some name =>
    match ← Revision.step (Operation.request (.getGroup name)) with
    | some record =>
      Revision.replace (g.hydrate record)
      return true
    | none => return false

/-- Creates the group, and takes over the fields that the service assigned. -/
def creating (context : Context) : Revision Group Unit := do
  let g ← Revision.record
  match GroupName.check (.string g.name) with
  | .ok () => pure ()
  | .error detail => Revision.step (Program.ofCheck (.error (.invalid "name" detail)))
  let location := g.location.getD context.region
  Revision.step (Program.note .info ("Creating " ++ g.displayName ++ " in " ++ location))
  let created ← Revision.step
    (Operation.request (.putGroup g.name { location, tags := g.tags }))
  Revision.replace { g with id := created.id, provisioningState := stateOf? created }

/-- The group as the service has it; none when the service has no such group. -/
def refresh (context : Context) (g : Group) : Operation (Option Group) :=
  (refreshing context).found g

/-- Creates the group; the result has the fields that the service assigned. -/
def create (context : Context) (g : Group) : Operation Group :=
  (creating context).left g

/-- What the log says of changed fields that can only be set at creation. -/
def ignoredNotes (g : Group) (changed : List String) : List LogEntry :=
  (changed.filter fun f => schema.mutability? f = some .immutable).map fun f =>
    ⟨.warn, "Ignoring change to immutable field '" ++ f ++ "' of " ++ g.displayName⟩

/-- Brings the current group to the desired one. -/
def update (context : Context) (desired current : Group) (changed : List String) :
    Operation Unit := do
  Program.notes (desired.ignoredNotes changed)
  if changed.any fun f => schema.mutability? f = some .updatable then
    match ← current.lookUp context with
    | none => Program.fail (.notFound (current.displayName ++ " does not exist"))
    | some name =>
      Program.note .info ("Updating tags of " ++ desired.displayName)
      let _ ← Operation.request (.setGroupTags name desired.tags)

/-- Deletes the group; one that is already gone is no failure. -/
def delete (context : Context) (g : Group) : Operation Unit := do
  match ← g.lookUp context with
  | none => Program.note .info (g.displayName ++ " addresses no group, nothing to delete")
  | some name =>
    Program.note .info ("Deleting " ++ g.displayName)
    match ← (Operation.request (.deleteGroup name)).attempt with
    | .ok () => return
    | .error e =>
      if e.isNotFound then Program.note .info (g.displayName ++ " is already gone")
      else Program.fail e

end Group
end AzureProvisioning
