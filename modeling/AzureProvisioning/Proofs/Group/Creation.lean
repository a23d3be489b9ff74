/-
# Creating a group on the service in memory

As for accounts: after a creation that succeeds the group is read again under the id that the
service has given it (`created_of_done`), and its state is the declared one (`Created.unchanged`). A
group without a declared location is created in the region of the context; that region is then
reported, and not compared.
-/

import AzureProvisioning.Proofs.Group.Attributes
import AzureProvisioning.Proofs.Identity
import AzureProvisioning.Proofs.Provider.Reading

namespace AzureProvisioning
namespace Group

open Memory Provider

theorem managed_refresh (context : Context) (g : Group) :
    Managed.refresh context g = g.refresh context := rfl

theorem managed_create (context : Context) (g : Group) :
    Managed.create context g = g.create context := rfl

/-- The group that the id of a stored group names. -/
def addressedAt (name : String) : Group :=
  { name, id := some (groupId name) }

/-- The record that the service stores for a declaration. -/
def storedFor (desired : Group) (context : Context) : ResourceGroup :=
  createdGroup desired.name { location := desired.location.getD context.region, tags := desired.tags }

section Quiet

open Program

variable (context : Context) (g : Group)

theorem quiet_lookUp : (g.lookUp context).quiet = .done (g.key? context) := by
  simp [lookUp, bind_eq_bind, pure_eq_done]

/-- **What a refresh makes of a record**: it changes when a group is found, and then only. -/
theorem quiet_refreshing :
    (refreshing context g).quiet =
      match g.key? context with
      | none => .done (.ok false, g)
      | some name => .ask (.getGroup name) fun
        | .ok (some record) => .done (.ok true, g.hydrate record)
        | .ok none => .done (.ok false, g)
        | .error e => .done (.error e, g) := by
  refine (Revision.quiet_step_bind (g.lookUp context) _ g).trans ?_
  rw [quiet_lookUp]
  cases g.key? context with
  | none => rfl
  | some name =>
    refine (Revision.quiet_step_bind (Operation.request (.getGroup name)) _ g).trans ?_
    rw [Operation.quiet_request (.getGroup name), Operation.attempt_request]
    exact ask_congr fun
      | .error e => rfl
      | .ok none => rfl
      | .ok (some record) => rfl

theorem quiet_refresh :
    (g.refresh context).quiet =
      match g.key? context with
      | none => .done none
      | some name =>
        (Operation.request (.getGroup name)).bind fun record => .done (record.map g.hydrate) := by
  rw [refresh, Revision.quiet_found, quiet_refreshing]
  cases g.key? context with
  | none => rfl
  | some name =>
    exact ask_congr fun
      | .error e => rfl
      | .ok none => rfl
      | .ok (some record) => rfl

/-- **What a creation makes of a record**: it changes when the call succeeds, and then only. -/
theorem quiet_creating :
    (creating context g).quiet =
      match GroupName.check (.string g.name) with
      | .error detail => .done (.error (.ofConfiguration (.invalid "name" detail)), g)
      | .ok () =>
        .ask (.putGroup g.name { location := g.location.getD context.region, tags := g.tags }) fun
          | .ok created =>
            .done (.ok (), { g with id := created.id, provisioningState := stateOf? created })
          | .error e => .done (.error e, g) := by
  unfold creating
  rw [Revision.record_bind]
  cases GroupName.check (.string g.name) with
  | error detail => rfl
  | ok =>
    exact ask_congr fun
      | .error e => rfl
      | .ok created => rfl

theorem quiet_create :
    (g.create context).quiet =
      match GroupName.check (.string g.name) with
      | .error detail => .fail (.ofConfiguration (.invalid "name" detail))
      | .ok () =>
        (Operation.request (.putGroup g.name
          { location := g.location.getD context.region, tags := g.tags })).bind fun created =>
            .done { g with id := created.id, provisioningState := stateOf? created } := by
  rw [create, Revision.quiet_left, quiet_creating]
  cases GroupName.check (.string g.name) with
  | error detail => rfl
  | ok =>
    exact ask_congr fun
      | .error e => rfl
      | .ok created => rfl

end Quiet

section Stored

variable {accounts : Dictionary (String × String) (String × DatabaseAccount)}
  {groups : Dictionary String ResourceGroup} {context : Context} {name : String}
  {stored : ResourceGroup} {m : Memory}

/-- A stored group is read under the id that the service gives it. -/
theorem reads_of_stored (hcontext : context.subscription = subscription)
    (hname : GroupName.isValid name = true) (hget : groups.get? (groupKey name) = some stored) :
    Reads context (groupId name) accounts groups (.getGroup name)
      ((addressedAt name).hydrate stored) := by
  have hkey : (addressedAt name).key? context = some name := key?_of_id hcontext hname rfl
  have hquiet := quiet_refresh context (addressedAt name)
  rw [hkey] at hquiet
  refine ⟨⟨addressedAt name, ofIdentifier?_groupId hname, fun m hits hm => ?_⟩, rfl⟩
  have hrefresh := runUnder_get hits hm hquiet fun m hm => by rw [perform, group?, hm.groups]
  rw [hget, Option.map_some] at hrefresh
  rw [managed_refresh]
  exact hrefresh

/-- An update that starts from what a refresh reported compares the declaration with the group that
was taken over. -/
theorem prepare_reported {id : ResourceId} {identifier : String} {declared : Resource}
    {desired live : Group} {names : List String} (hcheck : schema.check declared.attributes = .ok ())
    (hdesired : ofAttributes declared.attributes = .ok desired) (htold : live.Told)
    (hid : live.id = some identifier)
    (hchanged : Plan.changed schema desired.toAttributes live.withoutBlankLocation.toAttributes =
      .ok names) :
    prepare Group identifier (reported id live) declared =
      .ok ⟨desired, live.withoutBlankLocation, names⟩ := by
  have hget : live.toAttributes.get? "id" = some (.string identifier) := by
    rw [get?_toAttributes]
    simp [fields, declaredFields, assignedFields, hid, List.lookup_cons]
  have hlast : ofAttributes ((reported id live).attributes.insert "id" (.string identifier)) =
      .ok live.withoutBlankLocation := by
    show ofAttributes (live.toAttributes.insert "id" (.string identifier)) = _
    rw [Dictionary.insert_of_get? hget, ofAttributes_toAttributes htold]
  exact prepare_eq_ok_iff.2 ⟨hcheck, hdesired, hlast, hchanged⟩

/-- The creation of a group with a valid name stores what is asked for, under the id of the service.
-/
theorem run_create (context : Context) {g : Group} (hready : m.failing = [])
    (hvalid : GroupName.isValid g.name = true) :
    ∃ created, (Memory.run (g.create context) m).outcome = .done created ∧
      created.id = some (groupId g.name) ∧
      (Memory.run (g.create context) m).state.Holds m.accounts
        (m.groups.insert (groupKey g.name) (g.storedFor context)) := by
  let put : Call :=
    .putGroup g.name { location := g.location.getD context.region, tags := g.tags }
  have hanswer : answer put m =
      (.ok (g.storedFor context), (recorded put m).setGroup g.name (g.storedFor context)) :=
    answer_of_ready hready put
  have hquiet : (g.create context).quiet = (Operation.request put).bind fun created =>
      .done { g with id := created.id, provisioningState := stateOf? created } := by
    rw [quiet_create, GroupName.check, if_pos hvalid]
  rw [Memory.run, ← Program.run_outcome_quiet, ← Program.run_state_quiet, hquiet,
    Operation.run_request_ok hanswer]
  exact ⟨_, rfl, rfl, rfl, rfl, hready⟩

/-- A creation that succeeds has stored what the declaration asks for. -/
theorem run_create_done {g created : Group} (hready : m.failing = [])
    (h : (Memory.run (g.create context) m).outcome = .done created) :
    GroupName.isValid g.name = true ∧ created.id = some (groupId g.name) ∧
      (Memory.run (g.create context) m).state.Holds m.accounts
        (m.groups.insert (groupKey g.name) (g.storedFor context)) := by
  have hquiet := h
  rw [Memory.run, ← Program.run_outcome_quiet, quiet_create, GroupName.check] at hquiet
  by_cases hvalid : GroupName.isValid g.name = true
  · obtain ⟨created', hcreated, hid, hholds⟩ := run_create context hready hvalid
    obtain rfl := Outcome.done.inj (hcreated.symm.trans h)
    exact ⟨hvalid, hid, hholds⟩
  · rw [if_neg hvalid] at hquiet
    cases hquiet

end Stored

/-- A creation that has succeeded: `desired` was declared, and `s` is what has been read of the
stored group, from the service as it is afterwards. -/
structure Created (context : Context) (resource : Resource) (m after : Memory) (s : State)
    (desired : Group) : Prop where
  check : schema.check resource.attributes = .ok ()
  decoded : ofAttributes resource.attributes = .ok desired
  valid : GroupName.isValid desired.name = true
  holds : after.Holds m.accounts
    (m.groups.insert (groupKey desired.name) (desired.storedFor context))
  state : s = reported resource.id ((addressedAt desired.name).hydrate (desired.storedFor context))

section Created

variable {m after : Memory} {context : Context} {resource : Resource} {s : State} {desired : Group}

/-- Every created group is read again under the id of the service. -/
theorem Created.reads (h : Created context resource m after s desired)
    (hcontext : context.subscription = subscription) :
    Reads context (groupId desired.name) after.accounts after.groups (.getGroup desired.name)
      ((addressedAt desired.name).hydrate (desired.storedFor context)) := by
  rw [h.holds.groups]
  exact reads_of_stored hcontext h.valid (Dictionary.get?_insert_self _ _ _)

/-- **What a creation that succeeds has done.** -/
theorem created_of_done (hcontext : context.subscription = subscription) (hready : m.failing = [])
    (h : (Memory.run (createAs Group context resource) m).outcome = .done s) :
    ∃ desired, Created context resource m (Memory.run (createAs Group context resource) m).state s
      desired := by
  obtain ⟨desired, created, identifier, hcheck, hdecoded, hcreated, hidentifier, hdone, hstate⟩ :=
    run_createAs_done h
  rw [managed_create] at hcreated hdone hstate
  obtain ⟨hvalid, hid, hholds⟩ := run_create_done hready hcreated
  have hname : identifier = groupId desired.name := Option.some.inj (hidentifier.symm.trans hid)
  rw [hname] at hdone hstate
  have hreads : Reads context (groupId desired.name) m.accounts
      (m.groups.insert (groupKey desired.name) (desired.storedFor context))
      (.getGroup desired.name) _ :=
    reads_of_stored hcontext hvalid (Dictionary.get?_insert_self _ _ _)
  obtain ⟨hread, -, hafter⟩ := run_readAs resource.id hreads hholds
  rw [readAs_some] at hread hafter
  refine ⟨desired, hcheck, hdecoded, hvalid, ?_, ?_⟩
  · rw [hstate]
    exact hafter
  · exact Outcome.done.inj (hdone.symm.trans hread)

/-- **The state of a created group is the declared one.** -/
theorem Created.unchanged (h : Created context resource m after s desired)
    (hw : resource.attributes.WellFormed) (hlocation : desired.location ≠ some "") :
    ∃ p, prepare Group (groupId desired.name) s resource = .ok p ∧ p.changed = [] := by
  have hdecodes := ofAttributes_eq_ok_iff.1 h.decoded
  have htold : ((addressedAt desired.name).hydrate (desired.storedFor context)).Told := by
    constructor
    case name => exact GroupName.ne_empty h.valid
    case location =>
      rintro l hl
      rw [← Option.some.inj hl]
      exact Region.normalize_normalize _
    case id => simp [hydrate, storedFor, createdGroup, groupId, ArmId.groupText_eq]
    case provisioningState => simp [hydrate, storedFor, createdGroup, stateOf?]
  have hdeclared : desired.location = none ∨
      ((addressedAt desired.name).hydrate (desired.storedFor context)).withoutBlankLocation.location =
        desired.location := by
    cases hl : desired.location with
    | none => exact .inl rfl
    | some l =>
      have hnormal := hdecodes.normalize_location hl
      have hne : l ≠ "" := fun he => hlocation (he ▸ hl)
      exact .inr (by simp [withoutBlankLocation, hydrate, storedFor, createdGroup, hl, hnormal, hne,
        Option.filter_some])
  have hchanged : Plan.changed schema desired.toAttributes
      ((addressedAt desired.name).hydrate
        (desired.storedFor context)).withoutBlankLocation.toAttributes = .ok [] := by
    refine changed_eq_nil (Attributes.stringMap_distinct hw hdecodes.tags) ?_ hdeclared ?_
    · simp [withoutBlankLocation, hydrate, storedFor, createdGroup]
    · simp [withoutBlankLocation, hydrate, storedFor, createdGroup]
  have hid : ((addressedAt desired.name).hydrate (desired.storedFor context)).id =
      some (groupId desired.name) := rfl
  rw [h.state]
  exact ⟨_, prepare_reported h.check h.decoded htold hid hchanged, rfl⟩

end Created
end Group
end AzureProvisioning
