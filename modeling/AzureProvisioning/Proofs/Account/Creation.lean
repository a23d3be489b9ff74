/-
# Creating an account on the service in memory

The service stores what a valid declaration asks for, under the key of its group and name. The id
that it assigns is an identifier of the account unless the group holds a slash, and then the
creation fails; so after a creation that succeeds a refresh under that identifier finds the account
(`created_of_done`).

What a refresh reports of a stored account is decoded back without loss, so an update that starts
from it compares the declaration with the stored account itself (`prepare_reported`).
-/

import AzureProvisioning.Proofs.Account.Comparison
import AzureProvisioning.Proofs.Account.Update
import AzureProvisioning.Proofs.Identity
import AzureProvisioning.Proofs.Provider.Reading

namespace AzureProvisioning
namespace Account

open Memory Provider

theorem managed_refresh (context : Context) (a : Account) :
    Managed.refresh context a = a.refresh context := rfl

theorem managed_create (context : Context) (a : Account) :
    Managed.create context a = a.create context := rfl

theorem managed_update (context : Context) (desired last : Account) (changed : List String) :
    Managed.update context desired last changed = desired.update context last changed := rfl

/-- The account that the id of a stored account names. -/
def addressedAt (group name : String) : Account :=
  { name, group, id := some (accountId group name) }

/-- The record that the service stores for a declaration. -/
def storedFor (desired : Account) (context : Context) (kind : AccountKind)
    (policy : ConsistencyPolicy) (write : String) : DatabaseAccount :=
  createdAccount desired.group desired.name
    (desired.toRecord context kind policy (write :: desired.readRegions))

section Stored

variable {accounts : Dictionary (String × String) (String × DatabaseAccount)}
  {groups : Dictionary String ResourceGroup} {context : Context} {group name given : String}
  {stored : DatabaseAccount}

/-- A stored account is read under the id that the service gives it. -/
theorem reads_of_stored (hcontext : context.subscription = subscription)
    (hname : AccountName.isValid name = true) (hgroup : group ≠ "") (hslash : '/' ∉ group.toList)
    (hget : accounts.get? (accountKey group name) = some (given, stored)) :
    Reads context (accountId group name) accounts groups (.getAccount group name)
      ((addressedAt group name).hydrate stored) := by
  have hid : ofIdentifier? (accountId group name) = some (addressedAt group name) := by
    rw [ofIdentifier?_accountId hname, if_neg hslash, addressedAt]
  have hkey : (addressedAt group name).key? context = some (group, name) :=
    key?_of_id hcontext hname hgroup hslash rfl
  refine ⟨⟨addressedAt group name, hid, fun m hits hm => ?_⟩, rfl⟩
  have hrefresh := runUnder_refresh hits hm hkey
  rw [hget, Option.map_some] at hrefresh
  rw [managed_refresh]
  exact hrefresh

/-- An update that starts from what a refresh reported compares the declaration with the account
that was taken over. -/
theorem prepare_reported {id : ResourceId} {identifier : String} {declared : Resource}
    {desired live : Account} {names : List String}
    (hcheck : schema.check declared.attributes = .ok ())
    (hdesired : ofAttributes declared.attributes = .ok desired) (htold : live.Told)
    (hid : live.id = some identifier)
    (hchanged : Plan.changed schema desired.toAttributes live.toAttributes = .ok names) :
    prepare Account identifier (reported id live) declared =
      .ok ⟨desired, live.withoutIdleBounds, names⟩ := by
  have hget : live.toAttributes.get? "id" = some (.string identifier) := by
    rw [get?_toAttributes]
    simp [fields, declaredFields, assignedFields, hid, List.lookup_cons]
  have hlast : ofAttributes ((reported id live).attributes.insert "id" (.string identifier)) =
      .ok live.withoutIdleBounds := by
    show ofAttributes (live.toAttributes.insert "id" (.string identifier)) = _
    rw [Dictionary.insert_of_get? hget, ofAttributes_toAttributes htold]
  rw [← toAttributes_withoutIdleBounds live] at hchanged
  exact prepare_eq_ok_iff.2 ⟨hcheck, hdesired, hlast, hchanged⟩

end Stored

section Create

open Program

/-- **What a creation makes of a record**: it changes when the call succeeds, and then only. -/
theorem quiet_creating (context : Context) (a : Account) :
    (creating context a).quiet =
      match a.kind with
      | none => .done (.error (.ofConfiguration (.missing "kind" AccountKind.names)), a)
      | some kind =>
        match a.validate with
        | .error e => .done (.error (.ofConfiguration e), a)
        | .ok (policy, write) =>
          .ask (.putAccount a.group a.name
              (a.toRecord context kind policy (write :: a.readRegions))) fun
            | .ok created => .done (.ok (), { a with
                id := created.id
                documentEndpoint := created.properties.documentEndpoint
                provisioningState := created.properties.provisioningState })
            | .error e => .done (.error e, a) := by
  unfold creating
  rw [Revision.record_bind]
  cases a.kind with
  | none => rfl
  | some kind =>
    cases a.validate with
    | error e => rfl
    | ok checked =>
      exact ask_congr fun
        | .error e => rfl
        | .ok created => rfl

theorem quiet_create (context : Context) (a : Account) :
    (a.create context).quiet =
      match a.kind with
      | none => .fail (.ofConfiguration (.missing "kind" AccountKind.names))
      | some kind =>
        (ofCheck a.validate).bind fun checked =>
          (Operation.request (.putAccount a.group a.name
            (a.toRecord context kind checked.1 (checked.2 :: a.readRegions)))).bind fun created =>
              .done { a with
                id := created.id
                documentEndpoint := created.properties.documentEndpoint
                provisioningState := created.properties.provisioningState } := by
  rw [create, Revision.quiet_left, quiet_creating]
  cases a.kind with
  | none => rfl
  | some kind =>
    cases a.validate with
    | error e => rfl
    | ok checked =>
      exact ask_congr fun
        | .error e => rfl
        | .ok created => rfl

/-- The creation of a valid account stores what is asked for, under the id of the service. -/
theorem run_create {m : Memory} (context : Context) {a : Account} {kind : AccountKind}
    {policy : ConsistencyPolicy} {write : String} (hready : m.failing = [])
    (hkind : a.kind = some kind) (hvalid : a.validate = .ok (policy, write)) :
    ∃ created, (Memory.run (a.create context) m).outcome = .done created ∧
      created.id = some (accountId a.group a.name) ∧
      (Memory.run (a.create context) m).state.Holds
        (m.accounts.insert (accountKey a.group a.name)
          (a.group, storedFor a context kind policy write)) m.groups := by
  let put : Call :=
    .putAccount a.group a.name (a.toRecord context kind policy (write :: a.readRegions))
  have hanswer : answer put m = (.ok (storedFor a context kind policy write),
      (recorded put m).setAccount a.group a.name (storedFor a context kind policy write)) :=
    answer_of_ready hready put
  have hquiet : (a.create context).quiet = (Operation.request put).bind fun created =>
      .done { a with
        id := created.id
        documentEndpoint := created.properties.documentEndpoint
        provisioningState := created.properties.provisioningState } := by
    rw [quiet_create, hkind, hvalid]
    rfl
  rw [Memory.run, ← run_outcome_quiet, ← run_state_quiet, hquiet, Operation.run_request_ok hanswer]
  exact ⟨_, rfl, rfl, rfl, rfl, hready⟩

/-- A creation that succeeds has stored what the declaration asks for. -/
theorem run_create_done {m : Memory} {context : Context} {a created : Account}
    (hready : m.failing = []) (h : (Memory.run (a.create context) m).outcome = .done created) :
    ∃ kind policy write, a.kind = some kind ∧ a.validate = .ok (policy, write) ∧
      created.id = some (accountId a.group a.name) ∧
      (Memory.run (a.create context) m).state.Holds
        (m.accounts.insert (accountKey a.group a.name)
          (a.group, storedFor a context kind policy write)) m.groups := by
  have hquiet := h
  rw [Memory.run, ← run_outcome_quiet, quiet_create] at hquiet
  cases hkind : a.kind with
  | none =>
    rw [hkind] at hquiet
    cases hquiet
  | some kind =>
    rw [hkind] at hquiet
    obtain ⟨⟨policy, write⟩, hvalid, -⟩ := run_ofCheck_bind_done answer hquiet
    obtain ⟨created', hcreated, hid, hholds⟩ := run_create context hready hkind hvalid
    obtain rfl := Outcome.done.inj (hcreated.symm.trans h)
    exact ⟨kind, policy, write, rfl, hvalid, hid, hholds⟩

/-- A creation that has succeeded: `desired` was declared, and `s` is what has been read of the
stored account, from the service as it is afterwards. -/
structure Created (context : Context) (resource : Resource) (m after : Memory) (s : State)
    (desired : Account) (kind : AccountKind) (policy : ConsistencyPolicy) (write : String) :
    Prop where
  check : schema.check resource.attributes = .ok ()
  decoded : ofAttributes resource.attributes = .ok desired
  declaredKind : desired.kind = some kind
  validated : desired.validate = .ok (policy, write)
  slash : '/' ∉ desired.group.toList
  holds : after.Holds
    (m.accounts.insert (accountKey desired.group desired.name)
      (desired.group, storedFor desired context kind policy write)) m.groups
  state : s = reported resource.id
    ((addressedAt desired.group desired.name).hydrate (storedFor desired context kind policy write))

theorem Created.valid {m after : Memory} {context : Context} {resource : Resource} {s : State}
    {desired : Account} {kind : AccountKind} {policy : ConsistencyPolicy} {write : String}
    (h : Created context resource m after s desired kind policy write) : desired.Valid policy write :=
  valid_of_validate h.validated

/-- **What a creation that succeeds has done.** -/
theorem created_of_done {m : Memory} {context : Context} {resource : Resource} {s : State}
    (hcontext : context.subscription = subscription) (hready : m.failing = [])
    (h : (Memory.run (createAs Account context resource) m).outcome = .done s) :
    ∃ desired kind policy write, Created context resource m
      (Memory.run (createAs Account context resource) m).state s desired kind policy write := by
  obtain ⟨desired, created, identifier, hcheck, hdecoded, hcreated, hidentifier, hdone, hstate⟩ :=
    run_createAs_done h
  rw [managed_create] at hcreated hdone hstate
  obtain ⟨kind, policy, write, hkind, hvalidate, hid, hholds⟩ := run_create_done hready hcreated
  have hvalid := valid_of_validate hvalidate
  have hname : identifier = accountId desired.group desired.name :=
    Option.some.inj (hidentifier.symm.trans hid)
  rw [hname] at hdone hstate
  have hslash : '/' ∉ desired.group.toList := by
    intro hmem
    have hnone : addressed Account (accountId desired.group desired.name) =
        .fail (.fault ("Invalid identifier: " ++ accountId desired.group desired.name)) := by
      have hof : (Managed.ofIdentifier? (accountId desired.group desired.name) : Option Account) =
          none := (ofIdentifier?_accountId hvalid.name).trans (if_pos hmem)
      rw [addressed, hof]
    rw [hnone] at hdone
    cases hdone
  have hreads : Reads context (accountId desired.group desired.name)
      (m.accounts.insert (accountKey desired.group desired.name)
        (desired.group, storedFor desired context kind policy write)) m.groups
      (.getAccount desired.group desired.name) _ :=
    reads_of_stored hcontext hvalid.name hvalid.group hslash (Dictionary.get?_insert_self _ _ _)
  obtain ⟨hread, -, hafter⟩ := run_readAs resource.id hreads hholds
  rw [readAs_some] at hread hafter
  refine ⟨desired, kind, policy, write, hcheck, hdecoded, hkind, hvalidate, hslash, ?_, ?_⟩
  · rw [hstate]
    exact hafter
  · exact Outcome.done.inj (hdone.symm.trans hread)

/-- A created account is identified by the id of the service. -/
theorem Created.identified {m after : Memory} {context : Context} {resource : Resource} {s : State}
    {desired : Account} {kind : AccountKind} {policy : ConsistencyPolicy} {write : String}
    (h : Created context resource m after s desired kind policy write) :
    s.identifier = some (accountId desired.group desired.name) := by
  rw [h.state]
  rfl

/-- Every created account is read again under the id of the service. -/
theorem Created.reads {m after : Memory} {context : Context} {resource : Resource} {s : State}
    {desired : Account} {kind : AccountKind} {policy : ConsistencyPolicy} {write : String}
    (h : Created context resource m after s desired kind policy write)
    (hcontext : context.subscription = subscription) :
    Reads context (accountId desired.group desired.name) after.accounts after.groups
      (.getAccount desired.group desired.name)
      ((addressedAt desired.group desired.name).hydrate
        (storedFor desired context kind policy write)) := by
  rw [h.holds.accounts]
  exact reads_of_stored hcontext h.valid.name h.valid.group h.slash
    (Dictionary.get?_insert_self _ _ _)

/-- **The state of a created account is the declared one.** -/
theorem Created.unchanged {m after : Memory} {context : Context} {resource : Resource} {s : State}
    {desired : Account} {kind : AccountKind} {policy : ConsistencyPolicy} {write : String}
    (h : Created context resource m after s desired kind policy write)
    (hw : resource.attributes.WellFormed) (hwrite : write ≠ "")
    (hfew : (write :: desired.readRegions).length ≤ priorityLimit) :
    ∃ p, prepare Account (accountId desired.group desired.name) s resource = .ok p ∧
      p.changed = [] := by
  have hdecodes := ofAttributes_eq_ok_iff.1 h.decoded
  have hnormal : ∀ r ∈ write :: desired.readRegions, Region.normalize r = r := by
    rw [List.forall_mem_cons]
    exact ⟨hdecodes.normalize_writeRegion h.valid.writeRegion,
      fun r hr => hdecodes.normalize_readRegions hr⟩
  have hreads := hdecodes.readRegions_nodup
  have hlive := hydrate_created h.valid hreads hfew hnormal (addressedAt desired.group desired.name)
    context kind desired.group desired.name
  rw [parse?_accountId h.valid.name, if_neg h.slash] at hlive
  have htold : ((addressedAt desired.group desired.name).hydrate
      (storedFor desired context kind policy write)).Told := by
    rw [storedFor, hlive]
    constructor
    case name => exact AccountName.ne_empty h.valid.name
    case group => exact h.valid.group
    case write => simpa [withoutIdleBounds, h.valid.writeRegion] using hwrite
    case writeNormal => exact fun w hw => hdecodes.normalize_writeRegion hw
    case reads =>
      exact Region.distinctNames_of_normal hreads fun r hr => hdecodes.normalize_readRegions hr
    case id => simp [accountId, AccountName.ne_empty h.valid.name]
    case documentEndpoint => simp
    case provisioningState => simp
  have hchanged : Plan.changed schema desired.toAttributes
      ((addressedAt desired.group desired.name).hydrate
        (storedFor desired context kind policy write)).toAttributes = .ok [] := by
    refine changed_eq_nil (Attributes.stringMap_distinct hw hdecodes.tags) ?_
    rw [storedFor, hlive]
    by_cases hl : desired.consistencyLevel = some .boundedStaleness <;>
      simp [declaredFields, withoutIdleBounds, h.declaredKind, hl]
  rw [h.state]
  exact ⟨_, prepare_reported h.check h.decoded htold rfl hchanged, rfl⟩

end Create
end Account
end AzureProvisioning
