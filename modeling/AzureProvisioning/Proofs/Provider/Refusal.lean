/-
# Defective declarations of accounts

A creation looks at the whole declaration before it calls anything. An update does so only when an
attribute differs from the last known state: with nothing to write it never validates the
declaration. So it refuses what a creation refuses in every case but that one, in which it only
reads. An account with bounded staleness whose declaration loses a bound is such a case, because an
omitted bound is not compared.
-/

import AzureProvisioning.Proofs.Provider.Steadiness

namespace AzureProvisioning

namespace Provider

section Dispatched

variable {σ β : Type} {answer : (c : Call) → σ → c.Answer × σ} {id : ResourceId}
  {operation : ManagedType → Operation β} {t : ManagedType}

/-- An operation on a resource is refused when that of its type is, with the same calls. -/
theorem run_dispatch_refused (ht : ManagedType.ofName? id.type = some t) (s : σ) :
    ((dispatch id operation).run answer s).outcome.refused =
        ((operation t).run answer s).outcome.refused ∧
      ((dispatch id operation).run answer s).asked = ((operation t).run answer s).asked := by
  rw [run_dispatch ht]
  cases ((operation t).run answer s).outcome <;> exact ⟨rfl, rfl⟩

end Dispatched

end Provider

namespace Account

open Provider

section Accepts

variable {σ : Type} {answer : (c : Call) → σ → c.Answer × σ} {context : Context}

/-- The read at the end of every operation finds no defect. -/
theorem accepts_readAs (h : Impartial answer) (id : ResourceId) (identifier : String) :
    Accepts answer (readAs Account context id (some identifier)) :=
  have hstrict : Strict (readAs ManagedType.account.Record context id (some identifier)) :=
    strict_readAs id (some identifier)
  hstrict.toSteady.accepts h

/-- A creation that is refused, of a declaration that is accepted by the schema and decoded with a
kind, is refused by the validation. -/
theorem validate_error_of_refused (h : Impartial answer) {declared : Resource} {desired : Account}
    {kind : AccountKind} {s : σ} (hcheck : schema.check declared.attributes = .ok ())
    (hdesired : ofAttributes declared.attributes = .ok desired) (hkind : desired.kind = some kind)
    (hrefused : ((createAs Account context declared).run answer s).outcome.refused = true) :
    ∃ e, desired.validate = .error e := by
  cases hvalid : desired.validate with
  | error e => exact ⟨e, rfl⟩
  | ok found =>
    have hcheck' : (Managed.schema Account).check declared.attributes = .ok () := hcheck
    have hdesired' : (Managed.ofAttributes declared.attributes : Except _ Account) = .ok desired :=
      hdesired
    have hstrict : Strict (createAs Account context declared) := by
      rw [createAs_of_decoded hcheck' hdesired']
      exact Strict.bind (strict_create hkind hvalid)
        (@strict_reportCreated context .account declared.id)
    rw [hstrict.toSteady.accepts h s] at hrefused
    cases hrefused

/-- An accepted declaration with an attribute for the kind is decoded with a kind. -/
theorem exists_kind {attributes : Attributes} {a : Account}
    (hcheck : schema.check attributes = .ok ()) (h : ofAttributes attributes = .ok a)
    (hdeclared : attributes.contains "kind" = true) :
    ∃ kind, a.kind = some kind := by
  obtain ⟨v, hv⟩ := Option.isSome_iff_exists.1 hdeclared
  -- the schema accepts only the name of a kind, which is not empty
  have hdefect : schema.attributeDefect? "kind" v = none :=
    Schema.attributeDefect?_eq_none hcheck (Dictionary.mem_of_get? hv)
  have htype : ∃ e : AttributeSchema, schema.attributes.get? "kind" = some e ∧
      e.type = .enum AccountKind.names ∧ e.mutability = .immutable := ⟨_, rfl, rfl, rfl⟩
  obtain ⟨e, he, htype, himmutable⟩ := htype
  obtain ⟨o, ho, hselected⟩ := (ofAttributes_eq_ok_iff.1 h).kind
  cases v with
  | string s =>
    have hne : s ≠ "" := by
      rintro rfl
      have hnot : AttributeType.selects AccountKind.names "" = false := by decide +kernel
      simp [Schema.attributeDefect?, he, htype, himmutable, AttributeType.check, hnot] at hdefect
    have hread : attributes.optionalString "kind" = .ok (some s) :=
      Attributes.optionalString_of_get? hv (by simpa using hne)
    obtain rfl := Except.ok.inj (hread.symm.trans ho)
    rw [selected] at hselected
    cases hparse : AccountKind.parse s with
    | error e => rw [hparse] at hselected; cases hselected
    | ok kind =>
      rw [hparse] at hselected
      exact ⟨kind, (Except.ok.inj hselected).symm⟩
  | int | bool | list | map =>
    rw [Attributes.optionalString, hv] at ho
    cases ho

end Accepts

section Update

variable {σ : Type} {answer : (c : Call) → σ → c.Answer × σ} {context : Context} {id : ResourceId}
  {identifier : String} {current : State} {declared : Resource} {p : Preparation Account}

theorem run_updateAs_of_error {e : ConfigurationError}
    (hprepare : prepare Account identifier current declared = .error e) (s : σ) :
    let ran := (updateAs Account context id identifier current declared).run answer s
    ran.outcome.refused = true ∧ ran.asked = [] := by
  rw [updateAs_of_error id hprepare]
  exact ⟨rfl, rfl⟩

/-- An update with something to write is refused when the declaration is not valid, before any call.
-/
theorem run_updateAs_of_invalid {e : ConfigurationError}
    (hprepare : prepare Account identifier current declared = .ok p) (hchanged : p.changed ≠ [])
    (hinvalid : p.desired.validate = .error e) (s : σ) :
    let ran := (updateAs Account context id identifier current declared).run answer s
    ran.outcome.refused = true ∧ ran.asked = [] := by
  have hnot : p.changed.isEmpty = false := by simpa using hchanged
  obtain ⟨-, -, -, hfound⟩ := prepare_eq_ok_iff.1 hprepare
  have hupdatable := updatable_ne_nil (exists_updatable_of_changed hfound hchanged)
  have hupdate : (Managed.update context p.desired p.last p.changed).quiet =
      .fail (.ofConfiguration e) := by
    show (update context p.desired p.last p.changed).quiet = _
    rw [quiet_update, if_neg (by simp [hupdatable]), hinvalid]
    rfl
  have hquiet : (updateAs Account context id identifier current declared).quiet =
      .fail (.ofConfiguration e) := by
    rw [updateAs_of_prepare id hprepare, if_neg (by simp [hnot]), Program.quiet_bind, hupdate]
    rfl
  dsimp only
  rw [← Program.run_outcome_quiet, ← Program.run_asked_quiet, hquiet]
  exact ⟨rfl, rfl⟩

end Update

end Account

namespace Provider

section Refused

variable {σ : Type} {answer : (c : Call) → σ → c.Answer × σ} {context : Context} {id : ResourceId}
  {identifier : String} {current : State} {declared : Resource}

/-- **An update refuses what a creation refuses, unless it has nothing to write.** The declaration
is of an account and has a kind, the creation of it is refused as defective, by any service at any
time; then the update from any state is refused as defective, before any call, exactly when it is
not so that everything is decoded and no attribute differs. -/
theorem update_refuses_iff {before after : σ} (himpartial : Impartial answer)
    (hid : ManagedType.ofName? id.type = some .account)
    (hdeclared : ManagedType.ofName? declared.id.type = some .account)
    (hkind : declared.attributes.contains "kind" = true)
    (hrefused : ((create context declared).run answer before).outcome.refused = true) :
    let ran := (update context id identifier current declared).run answer after
    (ran.outcome.refused = true ∧ ran.asked = []) ↔
      ¬ ∃ p, prepare Account identifier current declared = .ok p ∧ p.changed = [] := by
  rw [create, (run_dispatch_refused hdeclared before).1] at hrefused
  dsimp only
  rw [update, (run_dispatch_refused hid after).1, (run_dispatch_refused hid after).2]
  constructor
  · -- with nothing to write the update is a read, and a read finds no defect
    rintro ⟨hrefused', -⟩ ⟨p, hprepare, hchanged⟩
    have hread : updateAs Account context id identifier current declared =
        readAs Account context id (some identifier) := updateAs_of_unchanged id hprepare hchanged
    have haccepts : Accepts answer (readAs Account context id (some identifier)) :=
      Account.accepts_readAs himpartial id identifier
    rw [← hread] at haccepts
    exact absurd (hrefused'.symm.trans (haccepts after)) (by decide)
  · intro hnot
    cases hprepare : prepare Account identifier current declared with
    | error e =>
      exact Account.run_updateAs_of_error hprepare after
    | ok p =>
      obtain ⟨hcheck, hdesired, -⟩ := prepare_eq_ok_iff.1 hprepare
      obtain ⟨kind, hkind'⟩ := Account.exists_kind hcheck hdesired hkind
      obtain ⟨e, hinvalid⟩ :=
        Account.validate_error_of_refused himpartial hcheck hdesired hkind' hrefused
      have hchanged : p.changed ≠ [] := fun hchanged => hnot ⟨p, hprepare, hchanged⟩
      exact Account.run_updateAs_of_invalid hprepare hchanged hinvalid after

end Refused

/-- An account with bounded staleness, and a declaration that has lost a bound: a creation refuses
it, and an update from the state that was reported accepts it, since nothing that is declared
differs. -/
theorem update_accepts_lost_bound :
    let context : Context := ⟨"sub", "eastus"⟩
    let id : ResourceId := ⟨"cosmosdb.database_account", "db"⟩
    let attributes (bounds : Attributes) : Attributes := [
      ("name", .string "acc"), ("resource_group", .string "rg"), ("kind", .string "Sql"),
      ("consistency_level", .string "BoundedStaleness"), ("write_region", .string "eastus")] ++ bounds
    let declared : Resource := ⟨id, attributes [("max_staleness_prefix", .int 10)]⟩
    let identifier := Memory.accountId "rg" "acc"
    let created := Memory.run (create context
      ⟨id, attributes [("max_staleness_prefix", .int 10), ("max_interval", .int 5)]⟩) {}
    (Memory.run (create context declared) created.state).outcome.refused = true ∧
      ∃ s, created.outcome = .done s ∧
        let ran := Memory.run (update context id identifier s declared) created.state
        ran.outcome.satisfies (·.found) = true ∧ ¬ (ran.outcome.refused = true ∧ ran.asked = []) := by
  intro context id attributes declared identifier created
  have hrefused : (Memory.run (create context declared) created.state).outcome.refused = true := by
    decide +kernel
  obtain ⟨s, hcreated, htest⟩ := Outcome.exists_of_satisfies
    (show created.outcome.satisfies (fun s =>
      (Memory.run (update context id identifier s declared) created.state).outcome.satisfies (·.found) &&
        match prepare Account identifier s declared with
        | .ok p => p.changed.isEmpty
        | .error _ => false) = true by decide +kernel)
  rw [Bool.and_eq_true] at htest
  refine ⟨hrefused, s, hcreated, htest.1, fun h => ?_⟩
  have hnot :=
    (update_refuses_iff Memory.impartial_answer (by decide) (by decide) (by decide) hrefused).1 h
  cases hprepare : prepare Account identifier s declared with
  | error e => simp [hprepare] at htest
  | ok p =>
    rw [hprepare] at htest
    exact hnot ⟨p, hprepare, List.isEmpty_iff.1 htest.2⟩

end Provider
end AzureProvisioning
