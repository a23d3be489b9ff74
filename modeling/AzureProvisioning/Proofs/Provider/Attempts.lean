/-
# Updates that are tried again

An update may be hit by a fault at any of its calls; the next one starts from what a read reports
then (`Attempts`). For such attempts to lead to the declared state, the objects of the service need
a property that every update keeps, interrupted or not, and from which the calls of an update are
not refused (`Recoverable`). Then, however many attempts there have been, an update without faults
leaves the resource in its declared state, and one more only reads (`Recoverable.settles`).

What the property is depends on the type of the resource.
-/

import AzureProvisioning.Proofs.Provider.Reading

namespace AzureProvisioning
namespace Provider

open Memory

/-- A statement about the objects of the service. -/
abbrev Condition : Type :=
  Dictionary (String × String) (String × DatabaseAccount) → Dictionary String ResourceGroup → Prop

/-- What the provider finds out of a resource while the service holds these objects: what a read
reports, and what an update from there towards the declaration starts with. -/
structure View {α : Type} [Managed α] (context : Context) (id : ResourceId) (identifier : String)
    (declared : Resource) (accounts : Dictionary (String × String) (String × DatabaseAccount))
    (groups : Dictionary String ResourceGroup) (c : Call) (live : α) (p : Preparation α) : Prop where
  reads : Reads context identifier accounts groups c live
  prepared : prepare α identifier (reported id live) declared = .ok p
  /-- The comparison is with nothing that has not been reported. -/
  faithful : ∀ k v, (Managed.toAttributes p.last).get? k = some v →
    (Managed.toAttributes live).get? k = some v

/-- The resource is in its declared state: the next update has nothing to write. -/
def InPlace (α : Type) [Managed α] (context : Context) (id : ResourceId) (identifier : String)
    (declared : Resource) : Condition :=
  fun accounts groups => ∃ (c : Call) (live : α) (p : Preparation α),
    View context id identifier declared accounts groups c live p ∧ p.changed = []

/-- What the changes of a prepared update do, under faults: the condition still holds, and the
declared state is reached if all of them are made. Without faults they are. -/
def Advances {α : Type} [Managed α] (context : Context) (id : ResourceId) (identifier : String)
    (declared : Resource) (P : Condition) (p : Preparation α) : Condition :=
  fun accounts groups => ∀ (m : Memory) (hits : List Bool), m.Holds accounts groups →
    let ran := runUnder hits (Managed.update context p.desired p.last p.changed) m
    ∃ accounts' groups', ran.state.2.Holds accounts' groups' ∧ P accounts' groups' ∧
      (hits = [] → ran.outcome = .done ()) ∧
      (ran.outcome = .done () → InPlace α context id identifier declared accounts' groups')

/-- A condition that updates towards the declaration keep, interrupted or not, and from which one
without faults leads to the declared state. -/
def Recoverable (α : Type) [Managed α] (context : Context) (id : ResourceId) (identifier : String)
    (declared : Resource) (P : Condition) : Prop :=
  ∀ accounts groups, P accounts groups →
    ∃ (c : Call) (live : α) (p : Preparation α),
      View context id identifier declared accounts groups c live p ∧
        (p.changed ≠ [] → Advances context id identifier declared P p accounts groups)

/-- The service after attempts of an update: each starts from what a read has just reported, and
runs under some faults. -/
inductive Attempts (context : Context) (id : ResourceId) (identifier : String) (declared : Resource)
    (m : Memory) : Memory → Prop
  | none : Attempts context id identifier declared m m
  | more {before : Memory} {s : State} (hits : List Bool)
      (earlier : Attempts context id identifier declared m before)
      (found : (Memory.run (read context id (some identifier)) before).outcome = .done s) :
      Attempts context id identifier declared m
        (runUnder hits (update context id identifier s declared)
          (Memory.run (read context id (some identifier)) before).state).state.2

section Generic

variable {α : Type} [Managed α] {context : Context} {id : ResourceId} {identifier : String}
  {declared : Resource} {accounts : Dictionary (String × String) (String × DatabaseAccount)}
  {groups : Dictionary String ResourceGroup} {m : Memory} {P : Condition} {c : Call} {live : α}
  {p : Preparation α}

/-- In the declared state an update is a read. -/
theorem View.run_updateAs (h : View context id identifier declared accounts groups c live p)
    (hchanged : p.changed = []) (hm : m.Holds accounts groups) :
    let ran := Memory.run (updateAs α context id identifier (reported id live) declared) m
    ran.outcome = .done (reported id live) ∧ ran.asked = [c] ∧ ran.state.Holds accounts groups := by
  rw [updateAs_of_unchanged id h.prepared hchanged]
  exact run_readAs id h.reads hm

/-- **An update from what a read reports**, under faults, keeps the condition. Without faults it
reports the declared state. -/
theorem View.runUnder_updateAs (hits : List Bool) (hm : m.Holds accounts groups)
    (hP : P accounts groups) (h : View context id identifier declared accounts groups c live p)
    (hadvances : p.changed ≠ [] → Advances context id identifier declared P p accounts groups) :
    let ran := runUnder hits (updateAs α context id identifier (reported id live) declared) m
    ∃ accounts' groups', ran.state.2.Holds accounts' groups' ∧ P accounts' groups' ∧
      (hits = [] → ∃ (c' : Call) (live' : α) (p' : Preparation α),
        View context id identifier declared accounts' groups' c' live' p' ∧ p'.changed = [] ∧
          ran.outcome = .done (reported id live')) := by
  rw [updateAs_of_prepare id h.prepared]
  by_cases hchanged : p.changed = []
  · -- only the read
    obtain ⟨hholds, hdone⟩ := runUnder_refreshed id hits h.reads hm
    rw [hchanged]
    refine ⟨accounts, groups, hholds, hP, fun hits' => ⟨c, live, p, h, hchanged, ?_⟩⟩
    exact (hdone (by rw [hits']; rfl)).1
  · obtain ⟨accounts', groups', hholds, hP', hdone, hplace⟩ := hadvances hchanged m hits hm
    have hnot : p.changed.isEmpty = false := by simpa using hchanged
    simp only [hnot, Bool.false_eq_true, if_false]
    rw [runUnder_bind]
    have hrest : hits = [] →
        (runUnder hits (Managed.update context p.desired p.last p.changed) m).state.1 = [] := by
      rintro rfl
      rw [runUnder_nil]
    generalize runUnder hits (Managed.update context p.desired p.last p.changed) m = ran at *
    refine ⟨accounts', groups', ?_, hP', fun hits' => ?_⟩
    · -- the read at the end changes nothing
      refine Ran.state_andThen (P := fun s : List Bool × Memory => s.2.Holds accounts' groups') hholds
        fun _ hall => ?_
      obtain ⟨c', live', p', hview', -⟩ := hplace hall
      exact (runUnder_refreshed id ran.state.1 hview'.reads hholds).1
    · obtain ⟨c', live', p', hview', hchanged'⟩ := hplace (hdone hits')
      refine ⟨c', live', p', hview', hchanged', ?_⟩
      rw [Ran.andThen_of_done (hdone hits')]
      exact ((runUnder_refreshed id ran.state.1 hview'.reads hholds).2 (by rw [hrest hits']; rfl)).1

/-- The state that is reported then has every declared attribute that is compared. -/
theorem View.agrees (h : View context id identifier declared accounts groups c live p)
    (hchanged : p.changed = []) {e : String × Value} (he : e ∈ Managed.toAttributes p.desired)
    (hcompares : Plan.compares (Managed.schema α) e.1 = true) :
    Plan.agrees (reported id live).attributes e.1 e.2 = true := by
  obtain ⟨-, -, -, hfound⟩ := prepare_eq_ok_iff.1 h.prepared
  rw [hchanged, Plan.changed_eq_nil_iff] at hfound
  have hlast := hfound e (List.mem_append_left _ he) hcompares
  unfold Plan.agrees at hlast ⊢
  cases hget : (Managed.toAttributes p.last).get? e.1 with
  | none => rw [hget] at hlast; cases hlast
  | some v =>
    have hlive : (reported id live).attributes.get? e.1 = some v := h.faithful e.1 v hget
    rw [hget] at hlast
    rw [hlive]
    exact hlast

end Generic

section Registered

variable {t : ManagedType} {context : Context} {id : ResourceId} {identifier : String}
  {declared : Resource} {m m' : Memory} {P : Condition}

/-- **Attempts keep the condition.** -/
theorem Recoverable.holds_of_attempts (h : Recoverable t.Record context id identifier declared P)
    (ht : ManagedType.ofName? id.type = some t)
    (hstart : ∃ accounts groups, m.Holds accounts groups ∧ P accounts groups)
    (hattempts : Attempts context id identifier declared m m') :
    ∃ accounts groups, m'.Holds accounts groups ∧ P accounts groups := by
  induction hattempts with
  | none => exact hstart
  | @more before s hits _ found ih =>
    obtain ⟨accounts, groups, hm, hP⟩ := ih
    obtain ⟨c, live, p, hview, hadvances⟩ := h accounts groups hP
    obtain ⟨hdone, -, hholds⟩ := run_readAs id hview.reads hm
    have hread : Memory.run (read context id (some identifier)) before =
        Memory.run (readAs t.Record context id (some identifier)) before :=
      run_dispatch_done ht hdone
    rw [hread] at found ⊢
    obtain rfl : s = reported id live := Outcome.done.inj (found.symm.trans hdone)
    rw [runUnder, update, run_dispatch_state ht]
    obtain ⟨accounts', groups', hholds', hP', -⟩ :=
      hview.runUnder_updateAs hits hholds hP hadvances
    exact ⟨accounts', groups', hholds', hP'⟩

/-- **Under the condition a read and an update reach the declared state**, and one more update only
reads. -/
theorem Recoverable.settles {accounts : Dictionary (String × String) (String × DatabaseAccount)}
    {groups : Dictionary String ResourceGroup}
    (h : Recoverable t.Record context id identifier declared P)
    (ht : ManagedType.ofName? id.type = some t) (hm : m.Holds accounts groups)
    (hP : P accounts groups) :
    ∃ (s s' : State) (c : Call) (live : t.Record) (p : Preparation t.Record)
      (accounts' : Dictionary (String × String) (String × DatabaseAccount))
      (groups' : Dictionary String ResourceGroup),
      let found := Memory.run (read context id (some identifier)) m
      let updated := Memory.run (update context id identifier s declared) found.state
      let again := Memory.run (update context id identifier s' declared) updated.state
      found.outcome = .done s ∧ updated.outcome = .done s' ∧ s' = reported id live ∧
        View context id identifier declared accounts' groups' c live p ∧ p.changed = [] ∧
        again.outcome = .done s' ∧ again.asked = [c] := by
  obtain ⟨c, live, p, hview, hadvances⟩ := h accounts groups hP
  obtain ⟨hdone, -, hholds⟩ := run_readAs id hview.reads hm
  have hread : Memory.run (read context id (some identifier)) m =
      Memory.run (readAs t.Record context id (some identifier)) m := run_dispatch_done ht hdone
  obtain ⟨accounts', groups', hholds', -, hsettled⟩ :=
    hview.runUnder_updateAs [] hholds hP hadvances
  obtain ⟨c', live', p', hview', hchanged', hdone'⟩ := hsettled rfl
  rw [runUnder_nil] at hholds' hdone'
  have hupdate : Memory.run (update context id identifier (reported id live) declared)
      (Memory.run (readAs t.Record context id (some identifier)) m).state = _ :=
    run_dispatch_done ht hdone'
  obtain ⟨hdone'', hasked, -⟩ := hview'.run_updateAs hchanged' hholds'
  have hagain : Memory.run (update context id identifier (reported id live') declared) _ = _ :=
    run_dispatch_done ht hdone''
  refine ⟨reported id live, reported id live', c', live', p', accounts', groups', ?_⟩
  dsimp only
  rw [hread, hupdate]
  exact ⟨hdone, hdone', rfl, hview', hchanged', hagain ▸ hdone'', hagain ▸ hasked⟩

end Registered
end Provider
end AzureProvisioning
