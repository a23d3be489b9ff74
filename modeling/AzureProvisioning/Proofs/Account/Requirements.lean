/-
# What an account has to meet

Before the service is called for an account, the account is looked at in a fixed order, and the first
thing that is wrong is reported. `Account.requirements` is that order as a table, with what is reported
for each entry; `firstDefect?` finds the first entry that is not met.

| requirement | defect |
| --- | --- |
| the name is an account name | invalid `name` |
| the group is named | missing `resource_group` |
| the level is set | missing `consistency_level` |
| bounded staleness has both bounds | missing `max_staleness_prefix`, missing `max_interval` |
| both are in range | invalid `max_staleness_prefix`, invalid `max_interval` |
| the write region is set | missing `write_region` |
| it is no read region | invalid `read_regions` |

Validation is this table (`firstDefect?_requirements`). A creation, which asks for the kind before, and
an update that has something to write do nothing but report the defect when there is one
(`run_create_of_defect`, `run_update_of_defect`); else a creation makes one call (`asked_create`) and an
update makes calls unless its account is out of reach (`asked_update_ne_nil_iff`). Whatever policy a
valid account asks for has the bounds of its level, in range (`Valid.isBounded`).
-/

import AzureProvisioning.Proofs.Account.Creation

namespace AzureProvisioning

/-- Something that has to be met, with what is reported when it is not. -/
structure Requirement where
  met : Bool
  defect : ConfigurationError

/-- What is reported of the first requirement that is not met. -/
def firstDefect? (requirements : List Requirement) : Option ConfigurationError :=
  (requirements.find? fun r => !r.met).map (·.defect)

section FirstDefect

variable {r : Requirement} {rs : List Requirement}

theorem firstDefect?_cons_of_met (h : r.met = true) : firstDefect? (r :: rs) = firstDefect? rs := by
  simp [firstDefect?, h]

theorem firstDefect?_cons_of_not_met (h : r.met = false) :
    firstDefect? (r :: rs) = some r.defect := by
  simp [firstDefect?, h]

/-- There is no defect exactly when every requirement is met. -/
theorem firstDefect?_eq_none_iff : firstDefect? rs = none ↔ ∀ r ∈ rs, r.met = true := by
  simp [firstDefect?]

end FirstDefect

/-- What is wrong with a text that is no account name. -/
def AccountName.defect (name : String) : ConfigurationError :=
  .invalid "name" ("'" ++ name ++ "' must be 3-44 characters of lowercase letters, digits, or '-', " ++
    "and must not start or end with '-'")

/-- A bound that is set is from `low` to `high`. -/
def bounded (low high : Int) (bound : Option Int64) : Bool :=
  bound.all fun n => low ≤ n.toInt && n.toInt ≤ high

/-- What is wrong with a bound outside its range. -/
def outOfRange (field : String) (low high : Int) (bound : Option Int64) : ConfigurationError :=
  .invalid field (toString (bound.getD 0).toInt ++ " is out of range " ++ toString low ++ "..=" ++
    toString high)

/-- Bounded staleness with both bounds in range, or another level without bounds. -/
inductive ConsistencyPolicy.IsBounded : ConsistencyPolicy → Prop
  | staleness (n k : Int64) (hn : 1 ≤ n.toInt ∧ n.toInt ≤ 2147483647)
      (hk : 5 ≤ k.toInt ∧ k.toInt ≤ 86400) :
      IsBounded { level := "BoundedStaleness", maxStalenessPrefix := some n, maxInterval := some k }
  | other (level : String) (h : level ∈ ["Eventual", "Session", "Strong"]) :
      IsBounded { level, maxStalenessPrefix := none, maxInterval := none }

/-- The policy that a call asks for, if it asks for one. -/
def Call.policy? : Call → Option ConsistencyPolicy
  | putAccount _ _ account => account.properties.consistencyPolicy
  | patchAccount _ _ update => update.properties.consistencyPolicy
  | _ => none

namespace Account

/-- What the bounds of an account have to meet: bounded staleness needs both, in range. -/
def boundRequirements (a : Account) : List Requirement :=
  let staleness := a.consistencyLevel = some .boundedStaleness
  [ ⟨staleness → a.maxStalenessPrefix.isSome, .missing "max_staleness_prefix" []⟩,
    ⟨staleness → a.maxInterval.isSome, .missing "max_interval" []⟩,
    ⟨staleness → bounded 1 2147483647 a.maxStalenessPrefix,
      outOfRange "max_staleness_prefix" 1 2147483647 a.maxStalenessPrefix⟩,
    ⟨staleness → bounded 5 86400 a.maxInterval, outOfRange "max_interval" 5 86400 a.maxInterval⟩]

/-- What the regions of an account have to meet. -/
def regionRequirements (a : Account) : List Requirement :=
  [ ⟨a.writeRegion.isSome, .missing "write_region" []⟩,
    ⟨a.writeRegion.all fun write => !a.readRegions.contains write,
      .invalid "read_regions" ("'" ++ a.writeRegion.getD "" ++ "' is already the write region")⟩]

/-- What an account has to meet before it is created or updated, in order. -/
def requirements (a : Account) : List Requirement :=
  [ ⟨AccountName.isValid a.name, AccountName.defect a.name⟩,
    ⟨!a.group.isEmpty, .missing "resource_group" []⟩,
    ⟨a.consistencyLevel.isSome,
      .missing "consistency_level" ["BoundedStaleness", "Eventual", "Session", "Strong"]⟩] ++
  a.boundRequirements ++ a.regionRequirements

/-- What an account has to meet before it is created: the kind comes first. -/
def creationRequirements (a : Account) : List Requirement :=
  ⟨a.kind.isSome, .missing "kind" ["AzureTable", "Cassandra", "Gremlin", "MongoDB", "Sql"]⟩ ::
    a.requirements

section Validate

/-- What is wrong, if the check has failed. -/
def defect? {α : Type} : Except ConfigurationError α → Option ConfigurationError
  | .ok _ => none
  | .error e => some e

theorem checkRange_eq (field : String) (n : Int64) (low high : Int) :
    ConsistencyLevel.checkRange field n (low, high) =
      if bounded low high (some n) then .ok () else .error (outOfRange field low high (some n)) := by
  simp [ConsistencyLevel.checkRange, bounded, outOfRange]

/-- Validation, one test after the other. -/
theorem validate_eq (a : Account) :
    a.validate =
      if AccountName.isValid a.name then
        if a.group.isEmpty then .error (.missing "resource_group" [])
        else
          match a.consistencyLevel with
          | none => .error (.missing "consistency_level" ConsistencyLevel.names)
          | some level =>
            (level.policy a.maxStalenessPrefix a.maxInterval).bind fun policy =>
              match a.writeRegion with
              | none => .error (.missing "write_region" [])
              | some write =>
                if a.readRegions.contains write then
                  .error (.invalid "read_regions" ("'" ++ write ++ "' is already the write region"))
                else .ok (policy, write)
      else .error (AccountName.defect a.name) := by
  have hcheck : AccountName.check (.string a.name) =
      if AccountName.isValid a.name then .ok () else .error _ := rfl
  rw [validate, hcheck]
  cases AccountName.isValid a.name with
  | false => rfl
  | true =>
    cases a.group.isEmpty with
    | true => rfl
    | false =>
      cases a.consistencyLevel with
      | none => rfl
      | some level =>
        show Except.bind _ _ = Except.bind _ _
        congr 1
        funext policy
        cases a.writeRegion <;> rfl

/-- The bounds are looked at as the policy of the level is made. -/
theorem firstDefect?_boundRequirements {α : Type} {a : Account} {level : ConsistencyLevel}
    {rest : List Requirement} {next : ConsistencyPolicy → Except ConfigurationError α}
    (hlevel : a.consistencyLevel = some level)
    (hrest : ∀ policy, firstDefect? rest = defect? (next policy)) :
    firstDefect? (a.boundRequirements ++ rest) =
      defect? ((level.policy a.maxStalenessPrefix a.maxInterval).bind next) := by
  cases level with
  | eventual | session | strong =>
    rw [boundRequirements, hlevel]
    exact hrest _
  | boundedStaleness =>
    rw [boundRequirements, hlevel]
    cases hprefix : a.maxStalenessPrefix with
    | none => rfl
    | some n =>
      cases hinterval : a.maxInterval with
      | none => rfl
      | some k =>
        show firstDefect? (⟨_, _⟩ :: ⟨_, _⟩ :: ⟨_, _⟩ :: ⟨_, _⟩ :: rest) = defect? (Except.bind
          ((ConsistencyLevel.checkRange "max_staleness_prefix" n (1, 2147483647)).bind fun _ =>
            (ConsistencyLevel.checkRange "max_interval" k (5, 86400)).bind fun _ => .ok _) next)
        rw [checkRange_eq, checkRange_eq]
        cases hn : bounded 1 2147483647 (some n) with
        | false => simp [firstDefect?, Except.bind, defect?]
        | true =>
          cases hk : bounded 5 86400 (some k) with
          | false => simp [firstDefect?, Except.bind, defect?]
          | true => simpa [firstDefect?, Except.bind, defect?] using hrest _

theorem firstDefect?_requirements (a : Account) : firstDefect? a.requirements = defect? a.validate := by
  rw [validate_eq, requirements, List.append_assoc]
  cases hname : AccountName.isValid a.name with
  | false => rfl
  | true =>
    cases hgroup : a.group.isEmpty with
    | true => rfl
    | false =>
      cases hlevel : a.consistencyLevel with
      | none => rfl
      | some level =>
        refine firstDefect?_boundRequirements hlevel fun policy => ?_
        rw [regionRequirements]
        cases a.writeRegion with
        | none => rfl
        | some write => by_cases hreads : write ∈ a.readRegions <;> simp [firstDefect?, defect?, hreads]

end Validate

section Run

open Program

variable {σ : Type} (answer : (c : Call) → σ → c.Answer × σ) (context : Context) {a desired : Account}
  {e : ConfigurationError}

/-- An account that meets what is required has a policy and a write region. -/
theorem exists_valid_iff : firstDefect? a.requirements = none ↔ ∃ checked, a.validate = .ok checked := by
  rw [firstDefect?_requirements]
  cases a.validate <;> simp [defect?]

theorem validate_eq_error_iff : firstDefect? a.requirements = some e ↔ a.validate = .error e := by
  rw [firstDefect?_requirements]
  cases a.validate <;> simp [defect?]

/-- A creation with a defect is refused for it, and does nothing else. -/
theorem run_create_of_defect (h : firstDefect? a.creationRequirements = some e) (s : σ) :
    (a.create context).run answer s = ⟨.failed (.ofConfiguration e), [], [], s⟩ := by
  unfold create creating Revision.left
  rw [Revision.record_bind]
  cases hkind : a.kind with
  | none =>
    rw [creationRequirements, firstDefect?_cons_of_not_met (by rw [hkind]; rfl)] at h
    obtain rfl := Option.some.inj h
    rfl
  | some kind =>
    rw [creationRequirements, firstDefect?_cons_of_met (by rw [hkind]; rfl),
      validate_eq_error_iff] at h
    rw [h]
    rfl

/-- A creation without a defect makes one call. -/
theorem asked_create (h : firstDefect? a.creationRequirements = none) (s : σ) :
    ∃ kind policy write, a.validate = .ok (policy, write) ∧ ((a.create context).run answer s).asked =
      [.putAccount a.group a.name (a.toRecord context kind policy (write :: a.readRegions))] := by
  rw [← run_asked_quiet, quiet_create]
  cases hkind : a.kind with
  | none =>
    rw [creationRequirements, firstDefect?_cons_of_not_met (by rw [hkind]; rfl)] at h
    cases h
  | some kind =>
    rw [creationRequirements, firstDefect?_cons_of_met (by rw [hkind]; rfl), exists_valid_iff] at h
    obtain ⟨⟨policy, write⟩, hvalid⟩ := h
    refine ⟨kind, policy, write, hvalid, ?_⟩
    rw [hvalid]
    exact Operation.asked_request_bind answer _ rfl s

/-- An update that has something to write is refused for a defect, whatever the account is now: it notes
the changed fields that it ignores, and does nothing else. -/
theorem run_update_of_defect (current : Account) {changed : List String}
    (hchanged : ∃ f ∈ changed, schema.mutability? f = some .updatable)
    (h : firstDefect? desired.requirements = some e) (s : σ) :
    (desired.update context current changed).run answer s =
      ⟨.failed (.ofConfiguration e), desired.ignoredNotes changed, [], s⟩ := by
  rw [validate_eq_error_iff] at h
  simp only [update, bind_eq_bind, run_notes_bind, updatable_ne_nil hchanged, h]
  exact congrArg (Ran.mk _ · [] s) (List.append_nil _)

/-- An update without a defect that has something to write makes calls when its account is in reach, and
none when it is out of reach. -/
theorem asked_update_ne_nil_iff {current : Account} {changed : List String}
    (hchanged : ∃ f ∈ changed, schema.mutability? f = some .updatable)
    (h : firstDefect? desired.requirements = none) (s : σ) :
    ((desired.update context current changed).run answer s).asked ≠ [] ↔
      (current.key? context).isSome = true := by
  obtain ⟨checked, hvalid⟩ := exists_valid_iff.1 h
  rw [← run_asked_quiet, quiet_update, updatable_ne_nil hchanged, hvalid]
  cases current.key? context with
  | none => exact ⟨fun hne => absurd rfl hne, nofun⟩
  | some key =>
    refine ⟨fun _ => rfl, fun _ => Operation.asked_inOrder_ne_nil answer ?_ s⟩
    simp [changes]

end Run

section Policies

theorem inRange_of_checkRange {field : String} {n : Int64} {low high : Int}
    (h : ConsistencyLevel.checkRange field n (low, high) = .ok ()) : low ≤ n.toInt ∧ n.toInt ≤ high := by
  unfold ConsistencyLevel.checkRange at h
  split at h
  · assumption
  · cases h

/-- Whatever policy a valid account asks for has the bounds of its level, in range. -/
theorem Valid.isBounded {a : Account} {policy : ConsistencyPolicy} {write : String}
    (h : a.Valid policy write) : policy.IsBounded := by
  obtain ⟨level, -, hpolicy⟩ := h.level
  cases level with
  | boundedStaleness =>
    simp only [ConsistencyLevel.policy, bind_eq_ok] at hpolicy
    obtain ⟨n, -, k, -, ⟨⟩, hn, ⟨⟩, hk, hpolicy⟩ := hpolicy
    obtain rfl := Except.ok.inj hpolicy
    exact .staleness n k (inRange_of_checkRange hn) (inRange_of_checkRange hk)
  | eventual | session | strong =>
    obtain rfl := Except.ok.inj hpolicy
    exact .other _ (by decide)

/-- A change of an update asks for no policy, or for the one that the update has found. -/
theorem policy?_of_mem_changes {desired current : Account} {policy : ConsistencyPolicy} {write : String}
    {change : Change} (h : change ∈ changes desired current policy write) (group name : String) :
    ∀ p ∈ (change.call group name).policy?, p = policy := by
  simp only [changes, List.mem_append, List.mem_cons, List.mem_map] at h
  intro p hp
  obtain ⟨_, -, rfl⟩ | rfl | rfl | ⟨_, -, rfl⟩ := h
  · cases hp
  · exact (Option.some.inj hp).symm
  · cases hp
  · cases hp

end Policies

end Account
end AzureProvisioning
