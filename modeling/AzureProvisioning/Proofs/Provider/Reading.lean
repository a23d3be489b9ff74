/-
# Reading what an identifier names

Every operation of the provider ends with a refresh of what an identifier names. `Provider.Reads`
says that such a refresh gives a record with one call that changes nothing, and from it follows what
reading does (`run_readAs`), and how every other operation ends (`runUnder_refreshed`).

An update first finds out what differs (`prepare_eq_ok_iff`); one that finds nothing is a read
(`updateAs_of_unchanged`). A creation that succeeds has stored the object that it then reads
(`run_createAs_done`).
-/

import AzureProvisioning.Proofs.Memory
import AzureProvisioning.Proofs.Plan
import AzureProvisioning.Proofs.Program
import AzureProvisioning.Provider.Operations

namespace AzureProvisioning

/-- Whether the call asks for one object. -/
def Call.isGet : Call → Bool
  | getAccount .. | getGroup .. => true
  | _ => false

theorem Call.not_isMutating_of_isGet {c : Call} (h : c.isGet = true) : c.isMutating = false := by
  cases c <;> first | rfl | cases h

namespace Provider

open Memory

section Dispatch

variable {β σ : Type} {answer : (c : Call) → σ → c.Answer × σ} {id : ResourceId}
  {operation : ManagedType → Operation β}

/-- The operation on a resource is that of its type, and only its failures are changed. -/
theorem run_dispatch {t : ManagedType} (ht : ManagedType.ofName? id.type = some t) (s : σ) :
    (dispatch id operation).run answer s =
      { (operation t).run answer s with
        outcome := match ((operation t).run answer s).outcome with
          | .failed e => .failed (e.forResource id)
          | o => o } := by
  have hdispatch : dispatch id operation =
      Program.mapFailure (·.forResource id) (operation t) := by
    simp only [dispatch, ht]
  rw [hdispatch]
  exact Program.run_mapFailure answer _ (operation t) s

theorem run_dispatch_state {t : ManagedType} (ht : ManagedType.ofName? id.type = some t) (s : σ) :
    ((dispatch id operation).run answer s).state = ((operation t).run answer s).state := by
  rw [run_dispatch ht]

/-- An operation that succeeds is on a resource of a registered type. -/
theorem exists_type_of_done {s : σ} {b : β}
    (h : ((dispatch id operation).run answer s).outcome = .done b) :
    ∃ t, ManagedType.ofName? id.type = some t ∧ ((operation t).run answer s).outcome = .done b := by
  cases ht : ManagedType.ofName? id.type with
  | none =>
    rw [dispatch, ht] at h
    cases h
  | some t =>
    refine ⟨t, rfl, ?_⟩
    rw [run_dispatch ht] at h
    cases ho : ((operation t).run answer s).outcome with
    | done a => rw [ho] at h; exact h
    | failed e => rw [ho] at h; cases h
    | unfinished => rw [ho] at h; cases h

theorem run_dispatch_done {t : ManagedType} (ht : ManagedType.ofName? id.type = some t) {s : σ}
    {b : β} (h : ((operation t).run answer s).outcome = .done b) :
    (dispatch id operation).run answer s = (operation t).run answer s := by
  rw [run_dispatch ht, h]
  simp only [← h]

/-- One that fails, fails with the resource of the request. -/
theorem run_dispatch_failed {t : ManagedType} (ht : ManagedType.ofName? id.type = some t) {s : σ}
    {e : Failure} (h : ((operation t).run answer s).outcome = .failed e) :
    ((dispatch id operation).run answer s).outcome = .failed (e.forResource id) := by
  rw [run_dispatch ht, h]

end Dispatch

variable {α : Type} [Managed α] {accounts : Dictionary (String × String) (String × DatabaseAccount)}
  {groups : Dictionary String ResourceGroup} {context : Context} {identifier : String}

/-- While the service holds these objects, a refresh of what the identifier names makes the call
`c`, changes no object and, when it is not hit by a fault, gives the record `live`. -/
structure Reads (context : Context) (identifier : String)
    (accounts : Dictionary (String × String) (String × DatabaseAccount))
    (groups : Dictionary String ResourceGroup) (c : Call) (live : α) : Prop where
  addressed : ∃ a : α, Managed.ofIdentifier? identifier = some a ∧
    ∀ (m : Memory) (hits : List Bool), m.Holds accounts groups →
      let ran := runUnder hits (Managed.refresh context a) m
      ran.state.2.Holds accounts groups ∧
        (hits.headD false = false → ran.outcome = .done (some live) ∧ ran.asked = [c])
  isGet : c.isGet = true

/-- What a refresh of a record reports. -/
def reported (id : ResourceId) (live : α) : State :=
  .present id (Managed.identifier? live) (Managed.toAttributes live)

/-- The end of every operation, under faults. -/
theorem runUnder_refreshed {c : Call} {live : α} {m : Memory} (id : ResourceId) (hits : List Bool)
    (h : Reads context identifier accounts groups c live) (hm : m.Holds accounts groups) :
    let ran := runUnder hits ((addressed α identifier).bind (refreshed context id)) m
    ran.state.2.Holds accounts groups ∧
      (hits.headD false = false → ran.outcome = .done (reported id live) ∧ ran.asked = [c]) := by
  obtain ⟨a, ha, hrefresh⟩ := h.addressed
  obtain ⟨hholds, hdone⟩ := hrefresh m hits hm
  have hend : (addressed α identifier).bind (refreshed context id) = refreshed context id a := by
    rw [addressed, ha]
    rfl
  rw [hend, refreshed, Program.bind_eq_bind, runUnder_bind]
  refine ⟨Ran.state_andThen (P := fun s : List Bool × Memory => s.2.Holds accounts groups) hholds
    fun found _ => ?_, fun hhit => ?_⟩
  · cases found <;> exact hholds
  · obtain ⟨hout, hasked⟩ := hdone hhit
    rw [Ran.andThen_of_done hout]
    exact ⟨rfl, by rw [← hasked]; exact List.append_nil _⟩

theorem readAs_some (id : ResourceId) :
    readAs α context id (some identifier) =
      (addressed α identifier).bind (refreshed context id) := rfl

/-- A read reports what the service holds. -/
theorem run_readAs {c : Call} {live : α} {m : Memory} (id : ResourceId)
    (h : Reads context identifier accounts groups c live) (hm : m.Holds accounts groups) :
    let ran := Memory.run (readAs α context id (some identifier)) m
    ran.outcome = .done (reported id live) ∧ ran.asked = [c] ∧ ran.state.Holds accounts groups := by
  obtain ⟨hholds, hdone⟩ := runUnder_refreshed id [] h hm
  simp only [runUnder_nil] at hholds hdone
  rw [readAs_some]
  exact ⟨(hdone rfl).1, (hdone rfl).2, hholds⟩

/-- What an update has found out when it is prepared. -/
theorem prepare_eq_ok_iff {identifier : String} {current : State} {declared : Resource}
    {p : Preparation α} :
    prepare α identifier current declared = .ok p ↔
      (Managed.schema α).check declared.attributes = .ok () ∧
      Managed.ofAttributes declared.attributes = .ok p.desired ∧
      Managed.ofAttributes (current.attributes.insert "id" (.string identifier)) = .ok p.last ∧
      Plan.changed (Managed.schema α) (Managed.toAttributes p.desired)
        (Managed.toAttributes p.last) = .ok p.changed := by
  simp only [prepare, bind_eq_ok]
  constructor
  · rintro ⟨⟨⟩, hcheck, desired, hdesired, last, hlast, changed, hchanged, hp⟩
    rw [← Except.ok.inj hp]
    exact ⟨hcheck, hdesired, hlast, hchanged⟩
  · rintro ⟨hcheck, hdesired, hlast, hchanged⟩
    exact ⟨(), hcheck, p.desired, hdesired, p.last, hlast, p.changed, hchanged, rfl⟩

/-- An update that is prepared makes its changes, if there are any, and reads. -/
theorem updateAs_of_prepare {current : State} {declared : Resource} {p : Preparation α}
    (id : ResourceId) (h : prepare α identifier current declared = .ok p) :
    updateAs α context id identifier current declared =
      (if p.changed.isEmpty then Program.done ()
        else Managed.update context p.desired p.last p.changed).bind fun _ =>
          (addressed α identifier).bind (refreshed context id) := by
  rw [updateAs, h]
  simp only [Program.ofCheck, Program.bind_eq_bind, Program.done_bind]
  cases p.changed.isEmpty <;> rfl

/-- An update that cannot be prepared fails, and calls nothing. -/
theorem updateAs_of_error {current : State} {declared : Resource} {e : ConfigurationError}
    (id : ResourceId) (h : prepare α identifier current declared = .error e) :
    updateAs α context id identifier current declared = .fail (.ofConfiguration e) := by
  rw [updateAs, h]
  rfl

/-- **An update that finds nothing to change reads.** -/
theorem updateAs_of_unchanged {current : State} {declared : Resource} {p : Preparation α}
    (id : ResourceId) (h : prepare α identifier current declared = .ok p)
    (hchanged : p.changed = []) :
    updateAs α context id identifier current declared = readAs α context id (some identifier) := by
  rw [updateAs_of_prepare id h, hchanged, readAs_some]
  rfl

/-- One that finds a change makes it, and reads then. -/
theorem run_updateAs_of_changed {current : State} {declared : Resource} {p : Preparation α}
    (context : Context) (id : ResourceId) (m : Memory) (h : prepare α identifier current declared = .ok p)
    (hchanged : p.changed ≠ []) :
    Memory.run (updateAs α context id identifier current declared) m =
      (Memory.run (Managed.update context p.desired p.last p.changed) m).andThen fun _ =>
        Memory.run (readAs α context id (some identifier)) := by
  have hnot : ¬ p.changed.isEmpty = true := by simpa using hchanged
  rw [updateAs_of_prepare id h, if_neg hnot, Memory.run_bind]
  rfl

section Create

variable {resource : Resource} {declared created : α} {id : ResourceId}

/-- What a creation goes on with: it reads what the identifier of the created object names. -/
def reportCreated (context : Context) (id : ResourceId) (created : α) : Operation State :=
  match Managed.identifier? created with
  | some identifier => readAs α context id (some identifier)
  | none => .fail (.fault "Provider did not return an identifier")

theorem reportCreated_of_identifier (h : Managed.identifier? created = some identifier) :
    reportCreated context id created = readAs α context id (some identifier) := by
  rw [reportCreated, h]

theorem reportCreated_of_no_identifier (h : Managed.identifier? created = none) :
    reportCreated context id created =
      .fail (.fault "Provider did not return an identifier") := by
  rw [reportCreated, h]

/-- A creation of a declaration that is not decoded is refused. -/
theorem createAs_of_not_decoded (context : Context)
    (h : ¬ ∃ declared : α, (Managed.schema α).check resource.attributes = .ok () ∧
      Managed.ofAttributes resource.attributes = .ok declared) :
    ∃ e, (createAs α context resource).quiet = .fail e := by
  rw [createAs]
  cases hcheck : (Managed.schema α).check resource.attributes with
  | error e => exact ⟨_, rfl⟩
  | ok _ =>
    cases hdecoded : (Managed.ofAttributes resource.attributes : Except ConfigurationError α) with
    | error e => exact ⟨_, rfl⟩
    | ok declared => exact absurd ⟨declared, hcheck, hdecoded⟩ h

/-- A creation of a declaration that is decoded creates, and reads what has been created. -/
theorem createAs_of_decoded (hcheck : (Managed.schema α).check resource.attributes = .ok ())
    (hdecoded : Managed.ofAttributes resource.attributes = .ok declared) :
    createAs α context resource =
      (Managed.create context declared).bind (reportCreated context resource.id) := by
  rw [createAs, hcheck, hdecoded]
  rfl

theorem run_createAs_of_decoded (hcheck : (Managed.schema α).check resource.attributes = .ok ())
    (hdecoded : Managed.ofAttributes resource.attributes = .ok declared) (m : Memory) :
    Memory.run (createAs α context resource) m =
      (Memory.run (Managed.create context declared) m).andThen fun created =>
        Memory.run (reportCreated context resource.id created) := by
  rw [createAs_of_decoded hcheck hdecoded]
  exact Program.run_bind answer _ _ m

end Create

/-- **A creation that succeeds** has passed the checks, has created the declared object, and reports
what it has then read under the identifier of the result. -/
theorem run_createAs_done {resource : Resource} {m : Memory} {s : State}
    (h : (Memory.run (createAs α context resource) m).outcome = .done s) :
    ∃ (declared created : α) (identifier : String),
      (Managed.schema α).check resource.attributes = .ok () ∧
      Managed.ofAttributes resource.attributes = .ok declared ∧
      (Memory.run (Managed.create context declared) m).outcome = .done created ∧
      Managed.identifier? created = some identifier ∧
      let ran := Memory.run ((addressed α identifier).bind (refreshed context resource.id))
        (Memory.run (Managed.create context declared) m).state
      ran.outcome = .done s ∧ (Memory.run (createAs α context resource) m).state = ran.state := by
  by_cases hdecodes : ∃ declared : α, (Managed.schema α).check resource.attributes = .ok () ∧
      Managed.ofAttributes resource.attributes = .ok declared
  · obtain ⟨declared, hcheck, hdecoded⟩ := hdecodes
    rw [run_createAs_of_decoded hcheck hdecoded] at h ⊢
    obtain ⟨created, hcreated, hrest⟩ := Ran.andThen_done_iff.1 h
    cases hidentifier : Managed.identifier? created with
    | none =>
      rw [reportCreated_of_no_identifier hidentifier] at hrest
      cases hrest
    | some identifier =>
      rw [reportCreated_of_identifier hidentifier] at hrest
      refine ⟨declared, created, identifier, hcheck, hdecoded, hcreated, hidentifier, hrest, ?_⟩
      rw [Ran.andThen_of_done hcreated, reportCreated_of_identifier hidentifier]
      rfl
  · obtain ⟨e, he⟩ := createAs_of_not_decoded context hdecodes
    exact nomatch h.symm.trans (run_of_quiet_eq_fail he).1

end Provider
end AzureProvisioning
