/-
# What the provider reports

A state that an operation of the provider returns is that of an absent resource, or it has been taken
over from what the service has answered last (`Reported.absent_or_takenOver`). That holds whoever
answers the calls, so nothing has to be known of the service to know the form of a reported state.
-/

import AzureProvisioning.Proofs.Provider.Contract

namespace AzureProvisioning

open Program

namespace Provider

variable {type : ManagedType} {context : Context} {id : ResourceId} {t : Called} {s : State}

/-- The state has been reported by an operation of the provider on a resource of the type, whoever has
answered its calls. -/
inductive Reported (context : Context) (type : ManagedType) : State → Prop
  | read {id : ResourceId} {identifier : Option String} {t : Called} {s : State}
      (hid : ManagedType.ofName? id.type = some type)
      (h : Runs (read context id identifier) t (.done s)) : Reported context type s
  | create {resource : Resource} {t : Called} {s : State}
      (hid : ManagedType.ofName? resource.id.type = some type)
      (h : Runs (create context resource) t (.done s)) : Reported context type s
  | update {id : ResourceId} {identifier : String} {current : State} {declared : Resource} {t : Called}
      {s : State} (hid : ManagedType.ofName? id.type = some type)
      (h : Runs (update context id identifier current declared) t (.done s)) : Reported context type s

/-- A state is what the record tells that an object of the service has been taken over into. -/
def TakenOver (type : ManagedType) (s : State) : Prop :=
  ∃ (record : type.Record) (w : type.Wire),
    s.identifier = Managed.identifier? (type.takeOver record w) ∧
      s.attributes = Managed.toAttributes (type.takeOver record w)

theorem runs_of_dispatch_done {α : Type} {operation : ManagedType → Operation α} {a : α}
    (hid : ManagedType.ofName? id.type = some type) (h : Runs (dispatch id operation) t (.done a)) :
    Runs (operation type) t (.done a) := by
  rw [dispatch, hid] at h
  exact runs_mapFailure_done_iff.1 h

/-- What a refresh has found has been taken over. -/
theorem absent_or_takenOver_of_refreshed {record : type.Record}
    (h : Runs (refreshed context id record) t (.done s)) : s = .absent id ∨ TakenOver type s := by
  obtain ⟨found, t₁, t₂, rfl, hrefresh, hs⟩ := runs_bind_done_iff.1 h
  cases found with
  | none =>
    obtain ⟨-, hs⟩ := runs_done_iff.1 hs
    exact .inl (Outcome.done.inj hs)
  | some live =>
    obtain ⟨-, hs⟩ := runs_done_iff.1 hs
    obtain rfl := Outcome.done.inj hs
    obtain ⟨w, -, rfl⟩ := ManagedType.exists_found hrefresh
    exact .inr ⟨record, w, rfl, rfl⟩

theorem absent_or_takenOver_of_addressed {identifier : String}
    (h : Runs ((addressed type.Record identifier).bind (refreshed context id)) t (.done s)) :
    s = .absent id ∨ TakenOver type s := by
  obtain ⟨record, t₁, t₂, rfl, -, hs⟩ := runs_bind_done_iff.1 h
  exact absent_or_takenOver_of_refreshed hs

/-- **What the provider reports is absent, or has been taken over from the service.** -/
theorem Reported.absent_or_takenOver (h : Reported context type s) :
    (∃ id, s = .absent id) ∨ TakenOver type s := by
  suffices hid : ∃ id, s = .absent id ∨ TakenOver type s by
    obtain ⟨id, rfl | htaken⟩ := hid
    · exact .inl ⟨id, rfl⟩
    · exact .inr htaken
  cases h with
  | @read id identifier t s hid h =>
    replace h := runs_of_dispatch_done hid h
    cases identifier with
    | none =>
      obtain ⟨-, hs⟩ := runs_done_iff.1 h
      exact ⟨id, .inl (Outcome.done.inj hs)⟩
    | some identifier => exact ⟨id, absent_or_takenOver_of_addressed h⟩
  | @create resource t s hid h =>
    replace h := runs_of_dispatch_done hid h
    obtain ⟨_, _, _, rfl, -, h⟩ := runs_bind_done_iff.1 h
    obtain ⟨_, _, _, rfl, -, h⟩ := runs_bind_done_iff.1 h
    obtain ⟨_, _, _, rfl, -, h⟩ := runs_bind_done_iff.1 h
    refine ⟨resource.id, ?_⟩
    split at h
    · exact absent_or_takenOver_of_addressed h
    · cases h
  | @update id identifier current declared t s hid h =>
    replace h := runs_of_dispatch_done hid h
    refine ⟨id, ?_⟩
    cases hprepare : prepare type.Record identifier current declared with
    | error e =>
      rw [updateAs_of_error id hprepare] at h
      cases h
    | ok p =>
      rw [updateAs_of_prepare id hprepare] at h
      obtain ⟨_, _, _, rfl, -, h⟩ := runs_bind_done_iff.1 h
      exact absent_or_takenOver_of_addressed h

theorem Reported.takenOver (h : Reported context type s) (hfound : s.found = true) :
    TakenOver type s := by
  obtain ⟨id, rfl⟩ | htaken := h.absent_or_takenOver
  · cases hfound
  · exact htaken

end Provider
end AzureProvisioning
