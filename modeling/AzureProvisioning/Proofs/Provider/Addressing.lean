/-
# Identifiers that name nothing

A read and a deletion look first at what their identifier names. When it names no resource of the
type they fail, and nothing has been called.

An update looks there last, for the read at its end. Its changes are addressed by the last known
record, and a record whose id names nothing is addressed by group and name (`Account.key?_of_unusable`,
`Group.key?_of_unusable`). So the changes of such an update are made, and then it fails
(`fails_for_unusable_identifier`).
-/

import AzureProvisioning.Proofs.Account.Comparison
import AzureProvisioning.Proofs.Account.Update
import AzureProvisioning.Proofs.Group.Recovery
import AzureProvisioning.Proofs.Provider.Reading

namespace AzureProvisioning

open Provider

/-- An identifier that is read as an attribute names nothing when it names nothing as it stands. -/
theorem ArmId.filter_parse?_of_read {identifier : String} {test : ArmId → Bool}
    (h : (parse? identifier).filter test = none) :
    ((if identifier.isEmpty then none else some identifier).bind parse?).filter test = none := by
  split
  · rfl
  · exact h

namespace Account

variable {identifier : String}

theorem ofIdentifier?_eq_none_iff :
    ofIdentifier? identifier = none ↔
      (ArmId.parse? identifier).filter (·.isType armType) = none := by
  rw [ofIdentifier?]
  cases ArmId.parse? identifier with
  | none => simp
  | some id => cases htype : id.isType armType <;> simp [htype, Option.filter_some]

variable {current : State} {declared : Resource} {p : Preparation Account}

/-- An account whose id names no account is addressed by its group and its name. -/
theorem key?_of_unusable (context : Context) (hnone : ofIdentifier? identifier = none)
    (hprepare : prepare Account identifier current declared = .ok p) :
    p.last.key? context = some (p.last.group, p.last.name) := by
  obtain ⟨-, -, hlast, -⟩ := prepare_eq_ok_iff.1 hprepare
  have hdecodes := ofAttributes_eq_ok_iff.1 hlast
  have hid := Except.ok.inj
    (hdecodes.id.symm.trans (Attributes.optionalString_insert _ "id" identifier))
  have harm : p.last.armId? = none := by
    rw [armId?, hid]
    exact ArmId.filter_parse?_of_read (ofIdentifier?_eq_none_iff.1 hnone)
  have hname := Attributes.requiredString_ne_empty hdecodes.name
  have hgroup := Attributes.requiredString_ne_empty hdecodes.group
  rw [key?, harm]
  simp [nonEmptyKey, hname, hgroup]

/-- Its changes are made when the declaration is valid. -/
theorem run_update_of_unusable {σ : Type} {answer : (c : Call) → σ → c.Answer × σ}
    {context : Context} (hnone : ofIdentifier? identifier = none)
    (hprepare : prepare Account identifier current declared = .ok p) (hchanged : p.changed ≠ [])
    (s : σ) :
    let ran := (p.desired.update context p.last p.changed).run answer s
    ran.outcome ≠ .unfinished ∧ (ran.asked ≠ [] ↔ ∃ found, p.desired.validate = .ok found) := by
  obtain ⟨-, -, -, hfound⟩ := prepare_eq_ok_iff.1 hprepare
  have hupdatable := updatable_ne_nil (exists_updatable_of_changed hfound hchanged)
  have hquiet := quiet_update context p.desired p.last p.changed
  rw [if_neg (by simp [hupdatable]), key?_of_unusable context hnone hprepare] at hquiet
  dsimp only
  rw [← Program.run_outcome_quiet, ← Program.run_asked_quiet, hquiet]
  cases hvalid : p.desired.validate with
  | error e => exact ⟨nofun, fun h => absurd rfl h, fun ⟨_, h⟩ => nomatch h⟩
  | ok found =>
    refine ⟨Operation.outcome_inOrder_ne_unfinished answer _ s, fun _ => ⟨found, rfl⟩,
      fun _ => Operation.asked_inOrder_ne_nil answer ?_ s⟩
    simp [changes]

end Account

namespace Group

variable {identifier : String}

theorem ofIdentifier?_eq_none_iff :
    ofIdentifier? identifier = none ↔
      (ArmId.parse? identifier).filter (·.member?.isNone) = none := by
  rw [ofIdentifier?]
  cases ArmId.parse? identifier with
  | none => simp
  | some id => cases hmember : id.member?.isNone <;> simp [hmember, Option.filter_some]

variable {current : State} {declared : Resource} {p : Preparation Group}

/-- A group whose id names no group is addressed by its name. -/
theorem key?_of_unusable (context : Context) (hnone : ofIdentifier? identifier = none)
    (hprepare : prepare Group identifier current declared = .ok p) :
    p.last.key? context = some p.last.name := by
  obtain ⟨-, -, hlast, -⟩ := prepare_eq_ok_iff.1 hprepare
  have hdecodes := ofAttributes_eq_ok_iff.1 hlast
  have hid := Except.ok.inj
    (hdecodes.id.symm.trans (Attributes.optionalString_insert _ "id" identifier))
  have harm : p.last.armId? = none := by
    rw [armId?, hid]
    exact ArmId.filter_parse?_of_read (ofIdentifier?_eq_none_iff.1 hnone)
  have hname := Attributes.requiredString_ne_empty hdecodes.name
  rw [key?, harm]
  simp [hname]

/-- Its tags are set. -/
theorem run_update_of_unusable {σ : Type} {answer : (c : Call) → σ → c.Answer × σ}
    {context : Context} (hnone : ofIdentifier? identifier = none)
    (hprepare : prepare Group identifier current declared = .ok p) (hchanged : p.changed ≠ [])
    (s : σ) :
    let ran := (p.desired.update context p.last p.changed).run answer s
    ran.outcome ≠ .unfinished ∧ ran.asked ≠ [] := by
  obtain ⟨-, -, -, hfound⟩ := prepare_eq_ok_iff.1 hprepare
  have hquiet := quiet_update context p.desired p.last p.changed
  rw [if_pos (any_updatable_of_changed hfound hchanged),
    key?_of_unusable context hnone hprepare] at hquiet
  have hcalls : (p.desired.update context p.last p.changed).quiet =
      Operation.inOrder [.setGroupTags p.last.name p.desired.tags] := hquiet
  dsimp only
  rw [← Program.run_outcome_quiet, ← Program.run_asked_quiet, hcalls]
  exact ⟨Operation.outcome_inOrder_ne_unfinished answer _ s,
    Operation.asked_inOrder_ne_nil answer (List.cons_ne_nil _ _) s⟩

end Group

namespace Provider

/-- What an update with something to write asks of the declaration, beyond its schema. -/
def ManagedType.Admits : (t : ManagedType) → t.Record → Prop
  | .account, (a : Account) => ∃ found, a.validate = .ok found
  | .group, _ => True

section Generic

variable {α : Type} [Managed α] {σ : Type} {answer : (c : Call) → σ → c.Answer × σ}
  {context : Context} {id : ResourceId} {identifier : String} {current : State} {declared : Resource}

/-- The fault of an identifier that names nothing. -/
def invalidIdentifier (identifier : String) : Failure :=
  .fault ("Invalid identifier: " ++ identifier)

theorem addressed_of_unusable (h : (Managed.ofIdentifier? identifier : Option α) = none) :
    addressed α identifier = .fail (invalidIdentifier identifier) := by
  rw [addressed, h]
  rfl

theorem readAs_of_unusable (h : (Managed.ofIdentifier? identifier : Option α) = none) :
    readAs α context id (some identifier) = .fail (invalidIdentifier identifier) := by
  rw [readAs_some, addressed_of_unusable h]
  rfl

theorem deleteAs_of_unusable (h : (Managed.ofIdentifier? identifier : Option α) = none) :
    deleteAs α context identifier = .fail (invalidIdentifier identifier) := by
  rw [deleteAs, addressed_of_unusable h]
  rfl

/-- An update makes its changes before it fails. -/
theorem updateAs_of_unusable (h : (Managed.ofIdentifier? identifier : Option α) = none)
    {p : Preparation α} (hprepare : prepare α identifier current declared = .ok p) :
    updateAs α context id identifier current declared =
      (if p.changed.isEmpty then Program.done ()
        else Managed.update context p.desired p.last p.changed).bind fun _ =>
          .fail (invalidIdentifier identifier) := by
  rw [updateAs_of_prepare id hprepare, addressed_of_unusable h]
  rfl

end Generic

section Registered

variable {t : ManagedType} {σ : Type} {answer : (c : Call) → σ → c.Answer × σ} {context : Context}
  {id : ResourceId} {identifier : String} {current : State} {declared : Resource}

theorem run_update_of_unusable (answer : (c : Call) → σ → c.Answer × σ) (context : Context)
    (hnone : (Managed.ofIdentifier? identifier : Option t.Record) = none)
    {p : Preparation t.Record} (hprepare : prepare t.Record identifier current declared = .ok p)
    (hchanged : p.changed ≠ []) (s : σ) :
    let ran := (Managed.update context p.desired p.last p.changed : Operation Unit).run answer s
    ran.outcome ≠ .unfinished ∧ (ran.asked ≠ [] ↔ t.Admits p.desired) := by
  cases t with
  | account => exact Account.run_update_of_unusable hnone hprepare hchanged s
  | group =>
    obtain ⟨houtcome, hasked⟩ := Group.run_update_of_unusable hnone hprepare hchanged s
    exact ⟨houtcome, fun _ => trivial, fun _ => hasked⟩

/-- An update for an identifier that names nothing fails; it calls something exactly when it is
prepared, has something to write and admits the declaration. -/
theorem run_updateAs_of_unusable (answer : (c : Call) → σ → c.Answer × σ) (context : Context)
    (id : ResourceId) (current : State) (declared : Resource)
    (hnone : (Managed.ofIdentifier? identifier : Option t.Record) = none) (s : σ) :
    let ran := (updateAs t.Record context id identifier current declared).run answer s
    (∃ e, ran.outcome = .failed e) ∧
      (ran.asked = [] ↔ ¬ ∃ p : Preparation t.Record,
        prepare t.Record identifier current declared = .ok p ∧ p.changed ≠ [] ∧
          t.Admits p.desired) := by
  dsimp only
  cases hprepare : prepare t.Record identifier current declared with
  | error e =>
    rw [updateAs_of_error id hprepare]
    exact ⟨⟨_, rfl⟩, fun _ => fun ⟨_, h, _⟩ => (nomatch h), fun _ => rfl⟩
  | ok p =>
    have hexists : (∃ q : Preparation t.Record,
        (.ok p : Except ConfigurationError (Preparation t.Record)) = .ok q ∧ q.changed ≠ [] ∧
          t.Admits q.desired) ↔ p.changed ≠ [] ∧ t.Admits p.desired := by
      constructor
      · rintro ⟨q, hq, hrest⟩
        obtain rfl := Except.ok.inj hq
        exact hrest
      · exact fun h => ⟨p, rfl, h⟩
    rw [hexists, updateAs_of_unusable hnone hprepare, Program.run_bind_fail]
    by_cases hchanged : p.changed = []
    · rw [hchanged]
      exact ⟨⟨_, rfl⟩, fun _ h => h.1 rfl, fun _ => rfl⟩
    · have hnot : p.changed.isEmpty = false := by simpa using hchanged
      obtain ⟨houtcome, hasked⟩ := run_update_of_unusable answer context hnone hprepare hchanged s
      simp only [hnot, Bool.false_eq_true, if_false]
      constructor
      · cases ho : ((Managed.update context p.desired p.last p.changed : Operation Unit).run
            answer s).outcome with
        | done => exact ⟨_, rfl⟩
        | failed e => exact ⟨e, rfl⟩
        | unfinished => exact absurd ho houtcome
      · rw [← not_iff_not, Classical.not_not]
        exact hasked.trans (and_iff_right hchanged).symm

/-- **What an identifier that names nothing leads to**, whoever answers. A read and a deletion fail
with the fault of such an identifier; nothing is called, and whoever answers is in the same state. An
update fails as well, but it has called nothing only when it is not so that the declaration and the
last known state are decoded, some attribute differs and the declaration is admitted. -/
theorem fails_for_unusable_identifier (ht : ManagedType.ofName? id.type = some t)
    (hnone : (Managed.ofIdentifier? identifier : Option t.Record) = none) (s : σ) :
    let found := (read context id (some identifier)).run answer s
    let deleted := (delete context id identifier).run answer s
    let updated := (update context id identifier current declared).run answer s
    found = ⟨.failed ((invalidIdentifier identifier).forResource id), [], [], s⟩ ∧
    deleted = ⟨.failed ((invalidIdentifier identifier).forResource id), [], [], s⟩ ∧
    (∃ e, updated.outcome = .failed e) ∧
    (updated.asked = [] ∧ updated.state = s ↔ ¬ ∃ p : Preparation t.Record,
      prepare t.Record identifier current declared = .ok p ∧ p.changed ≠ [] ∧
        t.Admits p.desired) := by
  intro found deleted updated
  obtain ⟨⟨e, hfailed⟩, hasked⟩ :=
    run_updateAs_of_unusable answer context id current declared hnone s
  have hupdated : updated.outcome = .failed (e.forResource id) ∧ updated.asked =
      ((updateAs t.Record context id identifier current declared).run answer s).asked := by
    show ((dispatch id _).run answer s).outcome = _ ∧ ((dispatch id _).run answer s).asked = _
    rw [run_dispatch ht, hfailed]
    exact ⟨rfl, rfl⟩
  refine ⟨?_, ?_, ⟨_, hupdated.1⟩, ?_⟩
  · show (dispatch id _).run answer s = _
    rw [run_dispatch ht, readAs_of_unusable hnone]
    rfl
  · show (dispatch id _).run answer s = _
    rw [run_dispatch ht, deleteAs_of_unusable hnone]
    rfl
  · rw [← hasked, ← hupdated.2]
    exact ⟨And.left, fun h => ⟨h, Program.run_state_of_asked_eq_nil answer h⟩⟩

end Registered

/-- A group whose tags are declared anew, with an identifier that is no path: the read and the
deletion leave the service as it is, and the update has set the tags before it fails. -/
theorem fails_for_unusable_identifier_garbled :
    let context : Context := ⟨"sub", "eastus"⟩
    let id : ResourceId := ⟨"resource_group", "main"⟩
    let stored : ResourceGroup := { name := some "rg", location := "eastus" }
    let m : Memory := { groups := [("rg", stored)] }
    let current : State := .present id none [("name", .string "rg"), ("location", .string "eastus")]
    let declared : Resource :=
      ⟨id, [("name", .string "rg"), ("tags", .map [("env", .string "prod")])]⟩
    let deleted := Memory.run (delete context id "garbled") m
    let updated := Memory.run (update context id "garbled" current declared) m
    Managed.ofIdentifier? (α := Group) "garbled" = none ∧ deleted.state = m ∧
      (∃ e, updated.outcome = .failed e) ∧
      updated.asked = [.setGroupTags "rg" [("env", "prod")]] ∧
      updated.state.groups = [("rg", { stored with tags := [("env", "prod")] })] ∧
      ∃ p : Preparation Group,
        prepare Group "garbled" current declared = .ok p ∧ p.changed ≠ [] := by
  intro context id stored m current declared deleted updated
  have hnone : (Managed.ofIdentifier? "garbled" : Option Group) = none := by decide +kernel
  obtain ⟨-, hdeleted, hfailed, hasked⟩ := @fails_for_unusable_identifier .group _ Memory.answer
    context id "garbled" current declared (by decide) hnone m
  have hcalls : updated.asked = [.setGroupTags "rg" [("env", "prod")]] := by decide +kernel
  have hnot : ¬ (updated.asked = [] ∧ updated.state = m) := by
    rw [hcalls]
    exact fun h => nomatch h.1
  obtain ⟨p, hprepare, hchanged, -⟩ := Classical.not_not.1 fun hno => hnot (hasked.2 hno)
  exact ⟨hnone, congrArg Ran.state hdeleted, hfailed, hcalls, by decide +kernel, p, hprepare, hchanged⟩

end Provider
end AzureProvisioning
