/-
# Creations that fail

A declaration is either refused, and then nothing has been called, or the object that it asks for is
stored, and then the service has named it by a path. The rest of a creation reads that path, so a
creation that fails after all leaves an object behind.

The path of a group is always read. Into the path of an account goes the group that was declared, of
which it is only checked that there is one: with a slash in it the path has too many parts and names
nothing (`Account.run_createAs_of_slash`). These accounts are the only objects that a failed
creation leaves behind (`create_leaves_nothing_iff`).
-/

import AzureProvisioning.Proofs.Provider.Addressing
import AzureProvisioning.Proofs.Provider.Creation

namespace AzureProvisioning

open Memory Provider

namespace Provider

variable {α : Type} [Managed α] {m : Memory} {context : Context} {resource : Resource}
  {declared created : α} {identifier : String} {e : Failure}

/-- A creation that is refused by the type is refused. -/
theorem createAs_of_refused (hcheck : (Managed.schema α).check resource.attributes = .ok ())
    (hdecoded : Managed.ofAttributes resource.attributes = .ok declared)
    (h : (Managed.create context declared).quiet = .fail e) :
    (createAs α context resource).quiet = .fail e := by
  rw [createAs_of_decoded hcheck hdecoded, Program.quiet_bind, h]
  rfl

/-- A creation ends like the read of what has been created. -/
theorem run_createAs_of_created (hcheck : (Managed.schema α).check resource.attributes = .ok ())
    (hdecoded : Managed.ofAttributes resource.attributes = .ok declared)
    (hcreated : (Memory.run (Managed.create context declared) m).outcome = .done created)
    (hidentifier : Managed.identifier? created = some identifier) :
    let read := Memory.run (readAs α context resource.id (some identifier))
      (Memory.run (Managed.create context declared) m).state
    (Memory.run (createAs α context resource) m).outcome = read.outcome ∧
      (Memory.run (createAs α context resource) m).state = read.state := by
  rw [run_createAs_of_decoded hcheck hdecoded, Ran.andThen_of_done hcreated,
    reportCreated_of_identifier hidentifier]
  exact ⟨rfl, rfl⟩

end Provider

namespace Account

variable {m : Memory} {context : Context} {resource : Resource} {desired : Account}
  {kind : AccountKind} {policy : ConsistencyPolicy} {write : String}

/-- The declaration passes every check of a creation, and asks for this account. -/
structure Accepted (resource : Resource) (desired : Account) (kind : AccountKind)
    (policy : ConsistencyPolicy) (write : String) : Prop where
  check : (Managed.schema Account).check resource.attributes = .ok ()
  decoded : Managed.ofAttributes resource.attributes = .ok desired
  declaredKind : desired.kind = some kind
  validated : desired.validate = .ok (policy, write)

theorem createAs_of_not_accepted (context : Context)
    (h : ∀ desired kind policy write, ¬ Accepted resource desired kind policy write) :
    ∃ e, (createAs Account context resource).quiet = .fail e := by
  by_cases hdecodes : ∃ declared : Account,
      (Managed.schema Account).check resource.attributes = .ok () ∧
        Managed.ofAttributes resource.attributes = .ok declared
  · obtain ⟨desired, hcheck, hdecoded⟩ := hdecodes
    have hrefused : ∃ e, (Managed.create context desired).quiet = .fail e := by
      rw [managed_create, quiet_create]
      cases hkind : desired.kind with
      | none => exact ⟨_, rfl⟩
      | some kind =>
        cases hvalid : desired.validate with
        | error e => exact ⟨_, rfl⟩
        | ok found =>
          exact absurd ⟨hcheck, hdecoded, hkind, hvalid⟩ (h desired kind found.1 found.2)
    obtain ⟨e, he⟩ := hrefused
    exact ⟨e, createAs_of_refused hcheck hdecoded he⟩
  · exact createAs_of_not_decoded context hdecodes

/-- **With a slash in its group** an accepted account is stored, and then the creation fails. -/
theorem run_createAs_of_slash (context : Context) (hready : m.failing = [])
    (h : Accepted resource desired kind policy write) (hslash : '/' ∈ desired.group.toList) :
    let ran := Memory.run (createAs Account context resource) m
    ran.outcome = .failed (invalidIdentifier (accountId desired.group desired.name)) ∧
      ran.state.Holds (m.accounts.insert (accountKey desired.group desired.name)
        (desired.group, storedFor desired context kind policy write)) m.groups := by
  obtain ⟨created, hcreated, hid, hholds⟩ :=
    run_create context hready h.declaredKind h.validated
  obtain ⟨houtcome, hstate⟩ := run_createAs_of_created h.check h.decoded hcreated hid
  have hnone : (Managed.ofIdentifier? (accountId desired.group desired.name) : Option Account) =
      none :=
    (ofIdentifier?_accountId (valid_of_validate h.validated).name).trans (if_pos hslash)
  rw [readAs_of_unusable hnone] at houtcome hstate
  exact ⟨houtcome, hstate ▸ hholds⟩

/-- Without one an accepted account is created. -/
theorem run_createAs_of_no_slash (hready : m.failing = [])
    (hcontext : context.subscription = subscription)
    (h : Accepted resource desired kind policy write) (hslash : '/' ∉ desired.group.toList) :
    ∃ s, (Memory.run (createAs Account context resource) m).outcome = .done s := by
  obtain ⟨created, hcreated, hid, hholds⟩ :=
    run_create context hready h.declaredKind h.validated
  obtain ⟨houtcome, -⟩ := run_createAs_of_created h.check h.decoded hcreated hid
  have hvalid := valid_of_validate h.validated
  have hreads : Reads context (accountId desired.group desired.name)
      (m.accounts.insert (accountKey desired.group desired.name)
        (desired.group, storedFor desired context kind policy write)) m.groups
      (.getAccount desired.group desired.name) _ :=
    reads_of_stored hcontext hvalid.name hvalid.group hslash (Dictionary.get?_insert_self _ _ _)
  obtain ⟨hread, -⟩ := run_readAs resource.id hreads hholds
  exact ⟨_, houtcome.trans hread⟩

/-- A failed creation leaves the objects as they are, unless an account is stored that differs from
the one under its key. -/
theorem createAs_leaves_nothing_iff (hready : m.failing = [])
    (hcontext : context.subscription = subscription) :
    let ran := Memory.run (createAs Account context resource) m
    ((∃ e, ran.outcome = .failed e) →
        ran.state.accounts = m.accounts ∧ ran.state.groups = m.groups) ↔
      ∀ desired kind policy write, Accepted resource desired kind policy write →
        '/' ∈ desired.group.toList →
        m.accounts.get? (accountKey desired.group desired.name) =
          some (desired.group, storedFor desired context kind policy write) := by
  intro ran
  constructor
  · intro hleaves desired kind policy write haccepted hslash
    obtain ⟨hfailed, hholds⟩ := run_createAs_of_slash context hready haccepted hslash
    have hsame := (hleaves ⟨_, hfailed⟩).1
    rw [hholds.accounts] at hsame
    rw [← hsame]
    exact Dictionary.get?_insert_self _ _ _
  · rintro hstored ⟨e, he⟩
    by_cases haccepted : ∃ desired kind policy write, Accepted resource desired kind policy write
    · obtain ⟨desired, kind, policy, write, haccepted⟩ := haccepted
      by_cases hslash : '/' ∈ desired.group.toList
      · obtain ⟨-, hholds⟩ := run_createAs_of_slash context hready haccepted hslash
        have hinsert :=
          Dictionary.insert_of_get? (hstored desired kind policy write haccepted hslash)
        exact ⟨hholds.accounts.trans hinsert, hholds.groups⟩
      · obtain ⟨s, hs⟩ := run_createAs_of_no_slash hready hcontext haccepted hslash
        exact nomatch hs.symm.trans he
    · obtain ⟨e', hrefused⟩ := createAs_of_not_accepted context
        fun desired kind policy write h => haccepted ⟨desired, kind, policy, write, h⟩
      obtain ⟨-, hstate⟩ := run_of_quiet_eq_fail (m := m) hrefused
      exact ⟨congrArg Memory.accounts hstate, congrArg Memory.groups hstate⟩

end Account

namespace Group

variable {m : Memory} {context : Context} {resource : Resource} {e : Failure}

/-- **A failed creation of a group changes nothing.** -/
theorem run_createAs_failed (hready : m.failing = [])
    (hcontext : context.subscription = subscription)
    (h : (Memory.run (createAs Group context resource) m).outcome = .failed e) :
    (Memory.run (createAs Group context resource) m).state = m := by
  by_cases hdecodes : ∃ declared : Group,
      (Managed.schema Group).check resource.attributes = .ok () ∧
        Managed.ofAttributes resource.attributes = .ok declared
  · obtain ⟨desired, hcheck, hdecoded⟩ := hdecodes
    by_cases hvalid : GroupName.isValid desired.name = true
    · obtain ⟨created, hcreated, hid, hholds⟩ := run_create context hready hvalid
      obtain ⟨houtcome, -⟩ := run_createAs_of_created hcheck hdecoded hcreated hid
      have hreads : Reads context (groupId desired.name) m.accounts
          (m.groups.insert (groupKey desired.name) (desired.storedFor context))
          (.getGroup desired.name) _ :=
        reads_of_stored hcontext hvalid (Dictionary.get?_insert_self _ _ _)
      obtain ⟨hread, -⟩ := run_readAs resource.id hreads hholds
      exact nomatch (houtcome.trans hread).symm.trans h
    · have hrefused : ∃ e, (Managed.create context desired).quiet = .fail e := by
        rw [managed_create, quiet_create, GroupName.check, if_neg hvalid]
        exact ⟨_, rfl⟩
      obtain ⟨e', he'⟩ := hrefused
      exact (run_of_quiet_eq_fail (createAs_of_refused hcheck hdecoded he')).2
  · obtain ⟨e', he'⟩ := createAs_of_not_decoded context hdecodes
    exact (run_of_quiet_eq_fail he').2

end Group

namespace Provider

variable {m : Memory} {context : Context} {resource : Resource}

theorem run_dispatch_failed_iff {σ β : Type} {answer : (c : Call) → σ → c.Answer × σ}
    {id : ResourceId} {operation : ManagedType → Operation β} {t : ManagedType}
    (ht : ManagedType.ofName? id.type = some t) (s : σ) :
    (∃ e, ((dispatch id operation).run answer s).outcome = .failed e) ↔
      ∃ e, ((operation t).run answer s).outcome = .failed e := by
  rw [run_dispatch ht]
  cases ((operation t).run answer s).outcome <;> simp

/-- **When a failed creation leaves nothing behind.** On the service in memory, in its subscription
and with no failure planned, a creation that fails leaves all objects as they are unless the
declaration is of an account, passes every check, and has a slash in its group: that account is
stored, and the objects are the same only if it was there before. -/
theorem create_leaves_nothing_iff (hready : m.failing = [])
    (hcontext : context.subscription = subscription) :
    let ran := Memory.run (create context resource) m
    ((∃ e, ran.outcome = .failed e) →
        ran.state.accounts = m.accounts ∧ ran.state.groups = m.groups) ↔
      (ManagedType.ofName? resource.id.type = some .account →
        ∀ desired kind policy write, Account.Accepted resource desired kind policy write →
          '/' ∈ desired.group.toList →
          m.accounts.get? (accountKey desired.group desired.name) =
            some (desired.group, desired.storedFor context kind policy write)) := by
  intro ran
  cases ht : ManagedType.ofName? resource.id.type with
  | none =>
    have hstate : ran.state = m := by
      show (Memory.run (dispatch resource.id _) m).state = m
      rw [dispatch, ht]
      rfl
    simp [hstate]
  | some type =>
    have hstate : ran.state = (Memory.run (createAs type.Record context resource) m).state :=
      run_dispatch_state ht m
    have hfailed : (∃ e, ran.outcome = .failed e) ↔
        ∃ e, (Memory.run (createAs type.Record context resource) m).outcome = .failed e :=
      run_dispatch_failed_iff ht m
    rw [hstate, hfailed]
    cases type with
    | account =>
      refine (Account.createAs_leaves_nothing_iff hready hcontext).trans ?_
      simp
    | group =>
      refine iff_of_true ?_ (by simp)
      rintro ⟨e, he⟩
      have hsame := Group.run_createAs_failed hready hcontext he
      exact ⟨congrArg Memory.accounts hsame, congrArg Memory.groups hsame⟩

/-- An account that is declared in the group `a/b`: every check is passed, the account is stored,
and the creation fails. -/
theorem create_leaves_nothing_iff_slash :
    let resource : Resource := {
      id := ⟨"cosmosdb.database_account", "db"⟩
      attributes := [
        ("name", .string "acc"), ("resource_group", .string "a/b"), ("kind", .string "Sql"),
        ("consistency_level", .string "Strong"), ("write_region", .string "eastus")] }
    let ran := Memory.run (create ⟨"sub", "eastus"⟩ resource) {}
    (∃ e, ran.outcome = .failed e) ∧ ran.state.accounts.keys = [("a/b", "acc")] ∧
      ∃ desired kind policy write, Account.Accepted resource desired kind policy write ∧
        '/' ∈ desired.group.toList := by
  intro resource ran
  have hkeys : ran.state.accounts.keys = [("a/b", "acc")] := by decide +kernel
  have hfailed : ∃ e, ran.outcome = .failed e := Outcome.exists_of_hasFailed (by decide +kernel)
  refine ⟨hfailed, hkeys, ?_⟩
  by_contra hno
  have hleaves := (@create_leaves_nothing_iff {} ⟨"sub", "eastus"⟩ resource rfl rfl).2
    fun _ desired kind policy write haccepted hslash =>
      absurd ⟨desired, kind, policy, write, haccepted, hslash⟩ hno
  have hempty : ran.state.accounts = [] := (hleaves hfailed).1
  rw [hempty] at hkeys
  cases hkeys

end Provider
end AzureProvisioning
