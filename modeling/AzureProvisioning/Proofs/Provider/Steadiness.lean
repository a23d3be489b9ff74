/-
# Steadiness of the operations

The operations on accounts, on groups and on declared resources are steady, once every check of the
declaration has been passed. Only a deletion goes on after a call that has failed, to take a missing
object for one that is gone, and it makes no call then.
-/

import AzureProvisioning.Proofs.Account.Creation
import AzureProvisioning.Proofs.Account.Update
import AzureProvisioning.Proofs.Group.Recovery
import AzureProvisioning.Proofs.Steadiness

namespace AzureProvisioning

open Program

namespace Account

variable {context : Context}

theorem strict_refresh (a : Account) : Strict (a.refresh context) := by
  refine .of_quiet ?_
  rw [quiet_refresh]
  cases a.key? context with
  | none => exact strict_done none
  | some key => exact (strict_request (.getAccount key.1 key.2)).bind fun _ => strict_done _

theorem strict_create {a : Account} {kind : AccountKind} {found : ConsistencyPolicy × String}
    (hkind : a.kind = some kind) (hvalid : a.validate = .ok found) : Strict (a.create context) := by
  refine .of_quiet ?_
  rw [quiet_create, hkind, hvalid]
  exact (strict_request (.putAccount _ _ _)).bind fun _ => strict_done _

theorem prompt_create (a : Account) : Prompt (a.create context) := by
  cases hkind : a.kind with
  | none => exact .inl ⟨_, by rw [quiet_create, hkind]⟩
  | some kind =>
    cases hvalid : a.validate with
    | error e => exact .inl ⟨_, by rw [quiet_create, hkind, hvalid]; rfl⟩
    | ok found => exact .inr (strict_create hkind hvalid)

theorem prompt_update (desired current : Account) (changed : List String) :
    Prompt (update context desired current changed) := by
  refine .of_quiet_eq (quiet_update context desired current changed) ?_
  split
  · exact .inr (strict_done ())
  · cases desired.validate with
    | error e => exact .inl ⟨_, rfl⟩
    | ok checked =>
      refine .inr ?_
      rw [ofCheck, done_bind]
      cases current.key? context with
      | none => exact strict_fail rfl
      | some key => exact strict_inOrder _

theorem quiet_delete (context : Context) (a : Account) :
    (a.delete context).quiet =
      match a.key? context with
      | none => .done ()
      | some (group, name) => (Operation.request (.deleteAccount group name)).whenMissing () := by
  rw [delete, bind_eq_bind, quiet_bind, quiet_lookUp, done_bind]
  obtain _ | ⟨group, name⟩ := a.key? context
  · rfl
  · dsimp only
    rw [bind_eq_bind, quiet_bind, quiet_note, done_bind]
    refine (quiet_attempt_bind (α := Unit) (fun _ => ?_) fun e => ?_).trans
      (congrArg (whenMissing ()) (Operation.quiet_request (.deleteAccount group name)))
    · rfl
    · cases hmissing : e.isNotFound <;> simp [hmissing]

theorem steady_delete (a : Account) : Steady (a.delete context) := by
  refine .of_quiet ?_
  rw [quiet_delete]
  cases a.key? context with
  | none => exact (strict_done ()).toSteady
  | some key => exact (strict_request (.deleteAccount key.1 key.2)).toSteady.whenMissing ()

end Account

namespace Group

variable {context : Context}

theorem strict_refresh (g : Group) : Strict (g.refresh context) := by
  refine .of_quiet ?_
  rw [quiet_refresh]
  cases g.key? context with
  | none => exact strict_done none
  | some name => exact (strict_request (.getGroup name)).bind fun _ => strict_done _

theorem prompt_create (g : Group) : Prompt (g.create context) := by
  refine .of_quiet_eq (quiet_create context g) ?_
  cases GroupName.check (.string g.name) with
  | error detail => exact .inl ⟨_, rfl⟩
  | ok _ => exact .inr ((strict_request (.putGroup _ _)).bind fun _ => strict_done _)

theorem strict_update (desired current : Group) (changed : List String) :
    Strict (update context desired current changed) := by
  refine .of_quiet ?_
  rw [quiet_update]
  split
  · cases current.key? context with
    | none => exact strict_fail rfl
    | some name => exact (strict_request (.setGroupTags name _)).bind fun _ => strict_done ()
  · exact strict_done ()

theorem quiet_delete (context : Context) (g : Group) :
    (g.delete context).quiet =
      match g.key? context with
      | none => .done ()
      | some name => (Operation.request (.deleteGroup name)).whenMissing () := by
  rw [delete, bind_eq_bind, quiet_bind, quiet_lookUp, done_bind]
  obtain _ | name := g.key? context
  · rfl
  · dsimp only
    rw [bind_eq_bind, quiet_bind, quiet_note, done_bind]
    refine (quiet_attempt_bind (α := Unit) (fun _ => ?_) fun e => ?_).trans
      (congrArg (whenMissing ()) (Operation.quiet_request (.deleteGroup name)))
    · rfl
    · cases hmissing : e.isNotFound <;> simp [hmissing]

theorem steady_delete (g : Group) : Steady (g.delete context) := by
  refine .of_quiet ?_
  rw [quiet_delete]
  cases g.key? context with
  | none => exact (strict_done ()).toSteady
  | some name => exact (strict_request (.deleteGroup name)).toSteady.whenMissing ()

end Group

namespace Provider

variable {context : Context} {type : ManagedType}

theorem ManagedType.strict_refresh (record : type.Record) :
    Strict (Managed.refresh context record) := by
  cases type with
  | account => exact Account.strict_refresh record
  | group => exact Group.strict_refresh record

theorem ManagedType.prompt_create (record : type.Record) :
    Prompt (Managed.create context record) := by
  cases type with
  | account => exact Account.prompt_create record
  | group => exact Group.prompt_create record

theorem ManagedType.prompt_update (desired current : type.Record) (changed : List String) :
    Prompt (Managed.update context desired current changed) := by
  cases type with
  | account => exact Account.prompt_update desired current changed
  | group => exact .inr (Group.strict_update desired current changed)

theorem ManagedType.steady_delete (record : type.Record) :
    Steady (Managed.delete context record) := by
  cases type with
  | account => exact Account.steady_delete record
  | group => exact Group.steady_delete record

theorem strict_addressed (identifier : String) : Strict (addressed type.Record identifier) := by
  unfold addressed
  split
  · exact strict_done _
  · exact strict_fail rfl

theorem strict_refreshed (id : ResourceId) (record : type.Record) :
    Strict (refreshed context id record) := by
  refine (ManagedType.strict_refresh record).bind fun found => ?_
  cases found <;> exact strict_done _

theorem strict_readAs (id : ResourceId) (identifier : Option String) :
    Strict (readAs type.Record context id identifier) := by
  cases identifier with
  | none => exact strict_done _
  | some identifier => exact (strict_addressed identifier).bind (strict_refreshed id)

theorem strict_reportCreated (id : ResourceId) (created : type.Record) :
    Strict (reportCreated context id created) := by
  cases hidentifier : Managed.identifier? created with
  | none =>
    rw [reportCreated_of_no_identifier hidentifier]
    exact strict_fail rfl
  | some identifier =>
    rw [reportCreated_of_identifier hidentifier]
    exact strict_readAs id (some identifier)

theorem prompt_createAs (resource : Resource) : Prompt (createAs type.Record context resource) := by
  by_cases hdecodes : ∃ declared : type.Record,
      (Managed.schema type.Record).check resource.attributes = .ok () ∧
        Managed.ofAttributes resource.attributes = .ok declared
  · obtain ⟨declared, hcheck, hdecoded⟩ := hdecodes
    rw [createAs_of_decoded hcheck hdecoded]
    exact (ManagedType.prompt_create declared).bind (strict_reportCreated resource.id)
  · exact .inl (createAs_of_not_decoded context hdecodes)

theorem prompt_updateAs (id : ResourceId) (identifier : String) (current : State)
    (declared : Resource) :
    Prompt (updateAs type.Record context id identifier current declared) := by
  cases hprepare : prepare type.Record identifier current declared with
  | error e => exact .inl ⟨_, by rw [updateAs_of_error id hprepare]; rfl⟩
  | ok p =>
    rw [updateAs_of_prepare id hprepare]
    refine Prompt.bind ?_ fun _ => strict_readAs id (some identifier)
    split
    · exact .inr (strict_done ())
    · exact ManagedType.prompt_update p.desired p.last p.changed

theorem steady_deleteAs (identifier : String) : Steady (deleteAs type.Record context identifier) :=
  (strict_addressed identifier).bind_steady ManagedType.steady_delete

theorem orderly_dispatch {α : Type} {operation : ManagedType → Operation α}
    (h : ∀ type, Orderly (operation type)) (id : ResourceId) : Orderly (dispatch id operation) := by
  refine Orderly.forResource ?_ id
  cases ManagedType.ofName? id.type with
  | none => exact .inl ⟨_, rfl⟩
  | some type => exact h type

end Provider
end AzureProvisioning
