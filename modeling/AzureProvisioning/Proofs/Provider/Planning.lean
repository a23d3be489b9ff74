/-
# Plans and updates

A plan and an update from the same state ask the same question, what of a declaration is not in place.
The update asks it of the two records (`runs_quietly_iff`, `refuses_change_iff`), the plan of the
attributes as they are spelled. For a state that the provider has reported the two answers differ in
one case (`plan_agrees_unless_misjudged`): the declaration spells an attribute otherwise than the record
does, or has one that the record leaves out, and as it is spelled it is not what has been reported.
-/

import AzureProvisioning.Proofs.Account.Safety
import AzureProvisioning.Proofs.Account.Spelling
import AzureProvisioning.Proofs.Group.Spelling
import AzureProvisioning.Proofs.Provider.Recovery
import AzureProvisioning.Proofs.Provider.Reporting

namespace AzureProvisioning
namespace Provider

open Program

variable {type : ManagedType} {context : Context} {id : ResourceId} {identifier : String}
  {m : Memory}

section Reported

/-- The state has been reported by an operation of the provider on a resource of the type. -/
inductive Returns (context : Context) (type : ManagedType) : State → Prop
  | read {id : ResourceId} {identifier : Option String} {m : Memory} {s : State}
      (hid : ManagedType.ofName? id.type = some type)
      (h : (Memory.run (read context id identifier) m).outcome = .done s) : Returns context type s
  | create {resource : Resource} {m : Memory} {s : State}
      (hid : ManagedType.ofName? resource.id.type = some type)
      (h : (Memory.run (create context resource) m).outcome = .done s) : Returns context type s
  | update {id : ResourceId} {identifier : String} {current : State} {declared : Resource} {m : Memory}
      {s : State} (hid : ManagedType.ofName? id.type = some type)
      (h : (Memory.run (update context id identifier current declared) m).outcome = .done s) :
      Returns context type s

/-- **What the provider reports of an object has been taken over from the service.** -/
theorem Returns.takenOver {s : State} (h : Returns context type s) (hfound : s.found = true) :
    TakenOver type s := by
  have hruns {α : Type} {operation : Operation α} {m : Memory} {a : α}
      (h : (Memory.run operation m).outcome = .done a) : ∃ t : Called, Runs operation t (.done a) := by
    obtain ⟨t, hruns, -⟩ := exists_runs_run Memory.answer operation m
    change Runs operation t (Memory.run operation m).outcome at hruns
    exact ⟨t, h ▸ hruns⟩
  suffices hreported : Reported context type s from hreported.takenOver hfound
  cases h with
  | read hid h =>
    obtain ⟨t, hruns⟩ := hruns h
    exact .read hid hruns
  | create hid h =>
    obtain ⟨t, hruns⟩ := hruns h
    exact .create hid hruns
  | update hid h =>
    obtain ⟨t, hruns⟩ := hruns h
    exact .update hid hruns

end Reported

section Update

variable {current : State} {declared : Resource} {p : Preparation type.Record}

/-- A refresh comes to an end, and only reads. -/
theorem run_refresh_ready (context : Context) (hready : m.failing = []) (record : type.Record) :
    let ran := Memory.run (Managed.refresh context record : Operation (Option type.Record)) m
    (∃ found, ran.outcome = .done found) ∧ ∀ c ∈ ran.asked, c.isMutating = false := by
  dsimp only [Memory.run]
  rw [← run_outcome_quiet, ← run_asked_quiet]
  cases type with
  | account =>
    show (∃ found, ((Account.refresh context record).quiet.run Memory.answer m).outcome = .done found) ∧
      ∀ c ∈ ((Account.refresh context record).quiet.run Memory.answer m).asked, c.isMutating = false
    rw [Account.quiet_refresh]
    cases Account.key? context record with
    | none => exact ⟨⟨none, rfl⟩, List.forall_mem_nil _⟩
    | some key =>
      dsimp only
      rw [Operation.run_request_ok (Memory.answer_of_ready hready (.getAccount key.1 key.2))]
      exact ⟨⟨_, rfl⟩, List.forall_mem_singleton.2 rfl⟩
  | group =>
    show (∃ found, ((Group.refresh context record).quiet.run Memory.answer m).outcome = .done found) ∧
      ∀ c ∈ ((Group.refresh context record).quiet.run Memory.answer m).asked, c.isMutating = false
    rw [Group.quiet_refresh]
    cases Group.key? context record with
    | none => exact ⟨⟨none, rfl⟩, List.forall_mem_nil _⟩
    | some name =>
      dsimp only
      rw [Operation.run_request_ok (Memory.answer_of_ready hready (.getGroup name))]
      exact ⟨⟨_, rfl⟩, List.forall_mem_singleton.2 rfl⟩

/-- A read of an identifier that names something comes to an end, and only reads. -/
theorem run_readAs_ready (type : ManagedType) (context : Context) (id : ResourceId)
    (identifier : String) (hready : m.failing = []) :
    let ran := Memory.run (readAs type.Record context id (some identifier)) m
    ((∃ s, ran.outcome = .done s) ↔ ∃ record : type.Record, Managed.ofIdentifier? identifier = some record) ∧
      ∀ c ∈ ran.asked, c.isMutating = false := by
  dsimp only
  rw [readAs_some, addressed]
  cases Managed.ofIdentifier? (α := type.Record) identifier with
  | none =>
    refine ⟨⟨fun h => ?_, fun h => ?_⟩, List.forall_mem_nil _⟩
    · obtain ⟨_, hdone⟩ := h
      cases hdone
    · obtain ⟨_, hrecord⟩ := h
      cases hrecord
  | some record =>
    obtain ⟨⟨found, hfound⟩, hasked⟩ := run_refresh_ready context hready record
    show ((∃ s, (Memory.run (refreshed context id record) m).outcome = .done s) ↔ _) ∧
      ∀ c ∈ (Memory.run (refreshed context id record) m).asked, c.isMutating = false
    rw [refreshed, bind_eq_bind, Memory.run_bind, Ran.andThen_of_done hfound]
    have honly : ∀ c ∈ (Memory.run (Managed.refresh context record) m).asked ++ [],
        c.isMutating = false := by
      rwa [List.append_nil]
    cases found with
    | none => exact ⟨⟨fun _ => ⟨record, rfl⟩, fun _ => ⟨_, rfl⟩⟩, honly⟩
    | some live => exact ⟨⟨fun _ => ⟨record, rfl⟩, fun _ => ⟨_, rfl⟩⟩, honly⟩

/-- An update that succeeds with something to write has made a mutating call. -/
theorem exists_isMutating_of_update {desired current : type.Record} {attributes : Attributes}
    {changed : List String} (hvalid : type.Validates desired)
    (hchanged : Plan.changed type.schema (Managed.toAttributes desired) attributes = .ok changed)
    (hne : changed ≠ [])
    (h : (Memory.run (Managed.update context desired current changed) m).outcome = .done ()) :
    ∃ c ∈ (Memory.run (Managed.update context desired current changed) m).asked,
      c.isMutating = true := by
  cases type with
  | account =>
    obtain ⟨⟨policy, write⟩, hvalid⟩ := hvalid
    obtain ⟨group, name, -, hasked⟩ := Account.asked_update Memory.answer context current changed hvalid m
    have hupdatable := Account.updatable_ne_nil (Account.exists_updatable_of_changed hchanged hne)
    have hpatch : Account.Change.patch (Account.propertyUpdate desired policy) ∈
        Account.changes desired current policy write :=
      List.mem_append_right _ List.mem_cons_self
    exact ⟨_, hasked h (List.isEmpty_eq_false_iff.1 hupdatable) ▸ List.mem_map_of_mem hpatch, rfl⟩
  | group =>
    rw [Memory.run, ← run_outcome_quiet] at h
    rw [Memory.run, ← run_asked_quiet]
    have hquiet := Group.quiet_update context desired current changed
    rw [if_pos (Group.any_updatable_of_changed hchanged hne)] at hquiet
    change (Managed.update context desired current changed).quiet = _ at hquiet
    rw [hquiet] at h ⊢
    cases hkey : Group.key? context current with
    | none =>
      rw [hkey] at h
      cases h
    | some name =>
      rw [hkey] at h
      dsimp only at h ⊢
      cases hanswer : Memory.answer (.setGroupTags name (Group.tags desired)) m with
      | mk reply m' =>
        cases reply with
        | error e =>
          rw [Operation.run_request_error hanswer] at h
          cases h
        | ok stored =>
          rw [Operation.run_request_ok hanswer]
          exact ⟨_, List.mem_cons_self, rfl⟩

/-- An update of a valid record finds no defect. -/
theorem strict_update_of_validates {desired : type.Record} (hvalid : type.Validates desired)
    (current : type.Record) (changed : List String) :
    Strict (Managed.update context desired current changed) := by
  cases type with
  | account =>
    obtain ⟨checked, hvalid⟩ := hvalid
    refine .of_quiet ?_
    show Strict (Account.update context desired current changed).quiet
    rw [Account.quiet_update, hvalid, ofCheck, done_bind]
    split
    · exact strict_done ()
    · cases Account.key? context current with
      | none => exact strict_fail rfl
      | some key => exact strict_inOrder _
  | group => exact Group.strict_update desired current changed

/-- The run succeeds, and its calls only read. -/
def RunsQuietly {α : Type} (ran : Ran Call Memory α) : Prop :=
  (∃ a, ran.outcome = .done a) ∧ ∀ c ∈ ran.asked, c.isMutating = false

/-- The run fails because an attribute that is set at creation only differs. -/
def RefusesChange {α : Type} (ran : Ran Call Memory α) : Prop :=
  ∃ e field, ran.outcome = .failed e ∧ e.defect? = some (.immutable field)

/-- The state can be read as a record with this identifier. -/
def Readable (type : ManagedType) (identifier : String) (s : State) : Prop :=
  ∃ last : type.Record, Managed.ofAttributes (s.attributes.insert "id" (.string identifier)) = .ok last

theorem runsQuietly_dispatch_iff {α : Type} {operation : ManagedType → Operation α}
    (hid : ManagedType.ofName? id.type = some type) :
    RunsQuietly (Memory.run (dispatch id operation) m) ↔
      RunsQuietly (Memory.run (operation type) m) := by
  rw [Memory.run, run_dispatch hid]
  unfold RunsQuietly Memory.run
  dsimp only
  cases ((operation type).run Memory.answer m).outcome <;> simp

theorem refusesChange_dispatch_iff {α : Type} {operation : ManagedType → Operation α}
    (hid : ManagedType.ofName? id.type = some type) :
    RefusesChange (Memory.run (dispatch id operation) m) ↔
      RefusesChange (Memory.run (operation type) m) := by
  rw [Memory.run, run_dispatch hid]
  unfold RefusesChange Memory.run
  dsimp only
  cases ((operation type).run Memory.answer m).outcome with
  | done | unfinished => simp
  | failed e => simp [Failure.forResource, Failure.defect?]

theorem ManagedType.notImmutable_ofAttributes (type : ManagedType) (attributes : Attributes) :
    NotImmutable (Managed.ofAttributes attributes : Except ConfigurationError type.Record) := by
  cases type with
  | account => exact Account.notImmutable_ofAttributes attributes
  | group => exact Group.notImmutable_ofAttributes attributes

/-- A declaration that is decoded is not prepared when the state cannot be read, or when what is set at
creation only differs. -/
theorem prepare_eq_error_iff {α : Type} [Managed α] {desired : α} {e : ConfigurationError}
    (hcheck : (Managed.schema α).check declared.attributes = .ok ())
    (hdesired : Managed.ofAttributes declared.attributes = .ok desired) :
    prepare α identifier current declared = .error e ↔
      (Managed.ofAttributes (current.attributes.insert "id" (.string identifier)) :
        Except ConfigurationError α) = .error e ∨
      ∃ last : α, Managed.ofAttributes (current.attributes.insert "id" (.string identifier)) = .ok last ∧
        Plan.changed (Managed.schema α) (Managed.toAttributes desired) (Managed.toAttributes last) =
          .error e := by
  have hprepare : prepare α identifier current declared =
      (Managed.ofAttributes (current.attributes.insert "id" (.string identifier)) >>= fun last : α =>
        Plan.changed (Managed.schema α) (Managed.toAttributes desired) (Managed.toAttributes last) >>=
          fun changed => .ok ⟨desired, last, changed⟩) := by
    rw [prepare, hcheck, hdesired]
    rfl
  simp only [hprepare, bind_eq_error, reduceCtorEq, and_false, exists_false, or_false]

variable {desired : type.Record}

/-- **An update runs quietly exactly when the two records do not differ**, and the identifier can be read
again. -/
theorem runsQuietly_updateAs_iff (hcheck : type.schema.check declared.attributes = .ok ())
    (hdesired : Managed.ofAttributes declared.attributes = .ok desired)
    (hvalid : type.Validates desired) (hready : m.failing = []) :
    RunsQuietly (Memory.run (updateAs type.Record context id identifier current declared) m) ↔
      (∃ last : type.Record,
        Managed.ofAttributes (current.attributes.insert "id" (.string identifier)) = .ok last ∧
        Plan.changed type.schema (Managed.toAttributes desired) (Managed.toAttributes last) = .ok []) ∧
      ∃ record : type.Record, Managed.ofIdentifier? identifier = some record := by
  cases hprepare : prepare type.Record identifier current declared with
  | error e =>
    rw [updateAs_of_error id hprepare]
    constructor
    · rintro ⟨⟨_, hdone⟩, -⟩
      cases hdone
    · rintro ⟨⟨last, hlast, hchanged⟩, -⟩
      have hprepared := (prepare_eq_ok_iff (p := ⟨desired, last, []⟩)).2
        ⟨hcheck, hdesired, hlast, hchanged⟩
      cases hprepare.symm.trans hprepared
  | ok p =>
    obtain ⟨-, hdesired', hlast, hchanged⟩ := prepare_eq_ok_iff.1 hprepare
    obtain rfl := Except.ok.inj (hdesired.symm.trans hdesired')
    by_cases hnone : p.changed = []
    · obtain ⟨hdone, hasked⟩ := run_readAs_ready type context id identifier hready
      rw [updateAs_of_unchanged id hprepare hnone]
      exact ⟨fun h => ⟨⟨p.last, hlast, hnone ▸ hchanged⟩, hdone.1 h.1⟩, fun h => ⟨hdone.2 h.2, hasked⟩⟩
    · refine ⟨?_, ?_⟩
      · -- a success has changed something, and that takes a call
        rintro ⟨⟨s, hdone⟩, hreads⟩
        rw [updateAs_of_prepare id hprepare, if_neg (by simpa using hnone)] at hdone hreads
        obtain ⟨⟨⟩, hupdate, -⟩ := Memory.run_bind_done_iff.1 hdone
        obtain ⟨c, hc, hmutating⟩ := exists_isMutating_of_update hvalid hchanged hnone hupdate
        rw [Memory.run_bind, Ran.andThen_of_done hupdate] at hreads
        exact absurd ((hreads c (List.mem_append_left _ hc)).symm.trans hmutating) (by decide)
      · rintro ⟨⟨last, hlast', hnothing⟩, -⟩
        obtain rfl := Except.ok.inj (hlast.symm.trans hlast')
        exact absurd (Except.ok.inj (hchanged.symm.trans hnothing)) hnone

theorem refusesChange_fail_iff {e : ConfigurationError} :
    RefusesChange (Memory.run (.fail (.ofConfiguration e) : Operation State) m) ↔
      ∃ field, e = .immutable field := by
  constructor
  · rintro ⟨_, field, hfailed, hdefect⟩
    rw [← Outcome.failed.inj hfailed] at hdefect
    exact ⟨field, Option.some.inj hdefect⟩
  · rintro ⟨field, rfl⟩
    exact ⟨_, field, rfl, rfl⟩

/-- **An update refuses a change exactly when the two records differ** in what is set at creation only.
-/
theorem refusesChange_updateAs_iff (hcheck : type.schema.check declared.attributes = .ok ())
    (hdesired : Managed.ofAttributes declared.attributes = .ok desired)
    (hvalid : type.Validates desired) :
    RefusesChange (Memory.run (updateAs type.Record context id identifier current declared) m) ↔
      ∃ last : type.Record,
        Managed.ofAttributes (current.attributes.insert "id" (.string identifier)) = .ok last ∧
        ∃ field, Plan.changed type.schema (Managed.toAttributes desired) (Managed.toAttributes last) =
          .error (.immutable field) := by
  cases hprepare : prepare type.Record identifier current declared with
  | error e =>
    rw [updateAs_of_error id hprepare, refusesChange_fail_iff]
    obtain hunread | ⟨last, hlast, hdiffers⟩ := (prepare_eq_error_iff hcheck hdesired).1 hprepare
    · constructor
      · rintro ⟨field, rfl⟩
        exact absurd hunread (ManagedType.notImmutable_ofAttributes type _ field)
      · rintro ⟨last, hlast, -⟩
        cases hunread.symm.trans hlast
    · constructor
      · rintro ⟨field, rfl⟩
        exact ⟨last, hlast, field, hdiffers⟩
      · rintro ⟨last', hlast', field, hdiffers'⟩
        obtain rfl := Except.ok.inj (hlast.symm.trans hlast')
        exact ⟨field, Except.error.inj (hdiffers.symm.trans hdiffers')⟩
  | ok p =>
    obtain ⟨-, hdesired', hlast, hchanged⟩ := prepare_eq_ok_iff.1 hprepare
    obtain rfl := Except.ok.inj (hdesired.symm.trans hdesired')
    constructor
    · rintro ⟨e, field, hfailed, hdefect⟩
      have hstrict : Strict (updateAs type.Record context id identifier current declared) := by
        rw [updateAs_of_prepare id hprepare]
        refine Strict.bind ?_ fun _ => strict_readAs id (some identifier)
        split
        · exact strict_done ()
        · exact strict_update_of_validates hvalid p.last p.changed
      have haccepts := hstrict.toSteady.accepts Memory.impartial_answer m
      rw [show (updateAs type.Record context id identifier current declared).run Memory.answer m =
        Memory.run _ m from rfl, hfailed, Outcome.refused, hdefect] at haccepts
      cases haccepts
    · rintro ⟨last, hlast', field, hdiffers⟩
      obtain rfl := Except.ok.inj (hlast.symm.trans hlast')
      cases hchanged.symm.trans hdiffers

end Update

/-- The two sides of an update from a reported state, each with what its record makes of it. -/
theorem TakenOver.canonical {s : State} {declared : Attributes} {desired last : type.Record}
    (h : TakenOver type s) (hdesired : Managed.ofAttributes declared = .ok desired)
    (hlast : Managed.ofAttributes (s.attributes.insert "id" (.string identifier)) = .ok last) :
    Plan.Canonical type.schema declared (Managed.toAttributes desired) s.attributes
      (Managed.toAttributes last) := by
  obtain ⟨record, w, -, hattributes⟩ := h
  rw [hattributes] at hlast ⊢
  cases type with
  | account => exact Account.canonical hdesired (Account.settled_hydrate record w) hlast
  | group => exact Group.canonical hdesired (Group.settled_hydrate record w) hlast

/-- **A plan agrees with the update, unless it misjudges an attribute.** The state has been reported by
the provider, the declaration is accepted and valid, and no failure is planned. Then the plan has
nothing to do, for a state that can be read and an identifier that names something, exactly when the
update succeeds with reads alone and no attribute is misjudged. And it refuses a change, for a state
that can be read, exactly when the update does or an attribute that is set at creation only is
misjudged. -/
theorem plan_agrees_unless_misjudged {s : State} {declared : Resource} {desired : type.Record}
    (hreturns : Returns context type s) (hfound : s.found = true)
    (hid : ManagedType.ofName? id.type = some type)
    (hcheck : type.schema.check declared.attributes = .ok ())
    (hdesired : Managed.ofAttributes declared.attributes = .ok desired)
    (hvalid : type.Validates desired) (hready : m.failing = []) :
    let plan := Plan.make type.schema declared s
    let ran := Memory.run (update context id identifier s declared) m
    let misjudged := Plan.Misjudged type.schema declared.attributes (Managed.toAttributes desired)
      s.attributes
    (plan = .ok (.noChange declared.id) ∧ Readable type identifier s ∧
        (∃ record : type.Record, Managed.ofIdentifier? identifier = some record) ↔
      RunsQuietly ran ∧ ¬ ∃ k v, misjudged k v) ∧
    ((∃ field, plan = .error (.immutable field)) ∧ Readable type identifier s ↔
      RefusesChange ran ∨
        Readable type identifier s ∧ ∃ k v, misjudged k v ∧ type.schema.mutability? k = some .immutable) := by
  intro plan ran misjudged
  have hcanonical : ∀ last : type.Record,
      Managed.ofAttributes (s.attributes.insert "id" (.string identifier)) = .ok last → _ :=
    fun last => (hreturns.takenOver hfound).canonical hdesired
  have hquietly : RunsQuietly ran ↔ _ := (runsQuietly_dispatch_iff hid).trans
    (runsQuietly_updateAs_iff hcheck hdesired hvalid hready)
  have hrefuses : RefusesChange ran ↔ _ := (refusesChange_dispatch_iff hid).trans
    (refusesChange_updateAs_iff hcheck hdesired hvalid)
  constructor
  · have hplan : plan = .ok (.noChange declared.id) ↔ _ := Plan.make_eq_noChange_iff hfound
    rw [hquietly, hplan]
    constructor
    · rintro ⟨hplan, ⟨last, hlast⟩, hnamed⟩
      obtain ⟨hsame, hnone⟩ := (hcanonical last hlast).changed_eq_nil_iff.1 hplan
      exact ⟨⟨⟨last, hlast, hsame⟩, hnamed⟩, hnone⟩
    · rintro ⟨⟨⟨last, hlast, hsame⟩, hnamed⟩, hnone⟩
      exact ⟨(hcanonical last hlast).changed_eq_nil_iff.2 ⟨hsame, hnone⟩, ⟨last, hlast⟩, hnamed⟩
  · have hplan : (∃ field, plan = .error (.immutable field)) ↔ _ :=
      exists_congr fun _ => Plan.make_eq_error_iff hfound
    rw [hrefuses, hplan]
    constructor
    · rintro ⟨hplan, ⟨last, hlast⟩⟩
      obtain hdiffers | hmisjudged := (hcanonical last hlast).exists_immutable_iff.1 hplan
      · exact .inl ⟨last, hlast, hdiffers⟩
      · exact .inr ⟨⟨last, hlast⟩, hmisjudged⟩
    · rintro (⟨last, hlast, hdiffers⟩ | ⟨⟨last, hlast⟩, hmisjudged⟩)
      · exact ⟨(hcanonical last hlast).exists_immutable_iff.2 (.inl hdiffers), last, hlast⟩
      · exact ⟨(hcanonical last hlast).exists_immutable_iff.2 (.inr hmisjudged), last, hlast⟩

/-- An account that was declared with the kind `Sql`, and is declared with `sql`: the plan refuses the
change of what is set at creation only, and the update has nothing to do. -/
theorem plan_agrees_unless_misjudged_spelled :
    let context : Context := ⟨"sub", "eastus"⟩
    let id : ResourceId := ⟨"cosmosdb.database_account", "db"⟩
    let attributes (kind : String) : Attributes := [
      ("name", .string "acc"), ("resource_group", .string "rg"), ("kind", .string kind),
      ("consistency_level", .string "Strong"), ("write_region", .string "eastus")]
    let declared : Resource := ⟨id, attributes "sql"⟩
    let identifier := Memory.accountId "rg" "acc"
    let created := Memory.run (create context ⟨id, attributes "Sql"⟩) {}
    ∃ s, created.outcome = .done s ∧ s.identifier = some identifier ∧
      (∃ field, Plan.make Account.schema declared s = .error (.immutable field)) ∧
      RunsQuietly (Memory.run (update context id identifier s declared) created.state) := by
  intro context id attributes declared identifier created
  obtain ⟨s, hcreated, htest⟩ := Outcome.exists_of_satisfies
    (show created.outcome.satisfies (fun s =>
      s.found && s.identifier == some identifier &&
        (Account.ofAttributes (s.attributes.insert "id" (.string identifier))).isOk &&
        !Plan.agrees s.attributes "kind" (.string "sql") &&
        (let ran := Memory.run (update context id identifier s declared) created.state
         ran.outcome.satisfies (·.found) && ran.asked.all (!·.isMutating))) = true by decide +kernel)
  simp only [Bool.and_eq_true, beq_iff_eq, Bool.not_eq_true', List.all_eq_true] at htest
  obtain ⟨⟨⟨⟨hfound, hidentifier⟩, hreadable⟩, hdiffers⟩, hdone, hreads⟩ := htest
  obtain ⟨desired, hdesired, hvalid, hkind⟩ : ∃ desired : Account,
      Account.ofAttributes (attributes "sql") = .ok desired ∧ (∃ found, desired.validate = .ok found) ∧
        desired.toAttributes.get? "kind" = some (.string "Sql") := ⟨_, rfl, ⟨_, rfl⟩, rfl⟩
  have hreads' : Readable .account identifier s := by
    cases hlast : Account.ofAttributes (s.attributes.insert "id" (.string identifier)) with
    | ok last => exact ⟨last, hlast⟩
    | error e => rw [hlast] at hreadable; cases hreadable
  have hmisjudged : Plan.Misjudged Account.schema declared.attributes desired.toAttributes s.attributes
      "kind" (.string "sql") :=
    ⟨Schema.mem_withDefaults rfl, by decide +kernel, by simp [hkind], hdiffers⟩
  obtain ⟨-, hrefuses⟩ := @plan_agrees_unless_misjudged .account context id identifier created.state s
    declared desired (.create (by decide) hcreated) hfound (by decide) (by decide +kernel) hdesired hvalid
    (by decide +kernel)
  obtain ⟨after, hafter, -⟩ := Outcome.exists_of_satisfies hdone
  exact ⟨s, hcreated, hidentifier, (hrefuses.2 (.inr ⟨hreads', "kind", _, hmisjudged, by decide +kernel⟩)).1,
    ⟨after, hafter⟩, hreads⟩

end Provider
end AzureProvisioning
