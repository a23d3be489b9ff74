/-
# Flags that an account does not declare

A network rule of the service says whether a missing endpoint is ignored, and a location whether it is
zone redundant. The record of an account has no field for either: a refresh takes the subnets and the
names of the regions over, and an update writes rules and locations anew from them. So every patch of
an update clears the flags of what it writes (`ClearsFlags`), and it keeps them exactly where they are
not set (`ClearsFlags.keepsFlags_iff`).

An account on which no flag is set is left so by every update (`update_clears_flags`); on any other
account a change of the tags alone is enough to lose them (`update_loses_flag`).
-/

import AzureProvisioning.Proofs.Account.Safety
import AzureProvisioning.Proofs.Memory

namespace AzureProvisioning
namespace Account

/-- What an update writes has the flags of the account: each of its rules, if rules are written, and
each of its regions that is written under the name that it has there. -/
structure KeepsFlags (stored : DatabaseAccount) (u : AccountUpdate) : Prop where
  rules : ∀ rules, u.properties.networkRules = some rules →
    ∀ old ∈ stored.properties.networkRules, old ∈ rules
  locations : ∀ locations, u.properties.locations = some locations →
    ∀ l ∈ locations, ∀ old ∈ stored.properties.locations, l.name = old.name →
      l.zoneRedundant = old.zoneRedundant

/-- The rule with its flag not set. -/
def withoutFlag (rule : NetworkRule) : NetworkRule :=
  { rule with ignoreMissingEndpoint := false }

/-- What an update writes has no flag set; its rules are the subnets of the account, in order. -/
structure ClearsFlags (stored : DatabaseAccount) (u : AccountUpdate) : Prop where
  rules : ∀ rules, u.properties.networkRules = some rules →
    rules = stored.properties.networkRules.map withoutFlag
  locations : ∀ locations, u.properties.locations = some locations →
    ∀ l ∈ locations, l.zoneRedundant = false

/-- The account has no flag set. -/
structure Unflagged (w : DatabaseAccount) : Prop where
  rules : ∀ rule ∈ w.properties.networkRules, rule.ignoreMissingEndpoint = false
  locations : ∀ l ∈ w.properties.locations, l.zoneRedundant = false

variable {stored w : DatabaseAccount} {u : AccountUpdate} {desired current : Account}

theorem withoutFlag_eq_self_iff {rule : NetworkRule} :
    withoutFlag rule = rule ↔ rule.ignoreMissingEndpoint = false :=
  ⟨fun h => h ▸ rfl, fun h => by rw [withoutFlag, ← h]⟩

theorem map_withoutFlag_of_unflagged (h : Unflagged stored) :
    stored.properties.networkRules.map withoutFlag = stored.properties.networkRules :=
  (List.map_congr_left fun rule hrule => withoutFlag_eq_self_iff.2 (h.rules rule hrule)).trans
    (List.map_id' _)

/-- **Where flags are cleared, they are kept exactly if they were not set.** -/
theorem ClearsFlags.keepsFlags_iff (h : ClearsFlags stored u) :
    KeepsFlags stored u ↔
      (u.properties.networkRules.isSome = true →
        ∀ old ∈ stored.properties.networkRules, old.ignoreMissingEndpoint = false) ∧
      ∀ locations, u.properties.locations = some locations →
        ∀ l ∈ locations, ∀ old ∈ stored.properties.locations, l.name = old.name →
          old.zoneRedundant = false := by
  constructor
  · intro hkeeps
    refine ⟨fun hsome old hold => ?_, fun locations hlocations l hl old hold hname => ?_⟩
    · obtain ⟨rules, hrules⟩ := Option.isSome_iff_exists.1 hsome
      have hmem := hkeeps.rules rules hrules old hold
      rw [h.rules rules hrules] at hmem
      obtain ⟨rule, -, rfl⟩ := List.mem_map.1 hmem
      rfl
    · rw [← hkeeps.locations locations hlocations l hl old hold hname]
      exact h.locations locations hlocations l hl
  · rintro ⟨hrules, hlocations⟩
    refine ⟨fun rules hsome old hold => ?_, fun locations hsome l hl old hold hname => ?_⟩
    · rw [h.rules rules hsome, List.mem_map]
      exact ⟨old, hold, withoutFlag_eq_self_iff.2 (hrules (by rw [hsome]; rfl) old hold)⟩
    · rw [h.locations locations hsome l hl, hlocations locations hsome l hl old hold hname]

theorem zoneRedundant_of_mem_prioritized {regions : List String} {l : Location}
    (h : l ∈ prioritized regions) : l.zoneRedundant = false := by
  obtain ⟨_, -, rfl⟩ := List.mem_map.1 h
  rfl

theorem clearsFlags_regionUpdate (stored : DatabaseAccount) (regions : List String) :
    ClearsFlags stored (regionUpdate regions) where
  rules := nofun
  locations locations h l hl := by
    obtain rfl := Option.some.inj h
    exact zoneRedundant_of_mem_prioritized hl

theorem clearsFlags_propertyUpdate
    (hrules : desired.networkRules = stored.properties.networkRules.map (·.subnet))
    (policy : ConsistencyPolicy) : ClearsFlags stored (desired.propertyUpdate policy) where
  rules rules h := by
    obtain rfl := Option.some.inj h
    rw [wireNetworkRules, hrules, List.map_map]
    rfl
  locations := nofun

/-- A change that clears the flags where it writes them. -/
def Change.Clears (stored : DatabaseAccount) : Change → Prop
  | .patch u => ClearsFlags stored u
  | .order _ => True

/-- **Every change of an update clears the flags.** -/
theorem clears_of_mem_changes
    (hrules : desired.networkRules = stored.properties.networkRules.map (·.subnet))
    {policy : ConsistencyPolicy} {write : String} {c : Change}
    (hc : c ∈ changes desired current policy write) : c.Clears stored := by
  rw [changes, List.mem_append, List.mem_cons, List.mem_cons] at hc
  obtain hregions | rfl | rfl | hstale := hc
  · obtain ⟨regions, -, rfl⟩ := List.mem_map.1 hregions
    exact clearsFlags_regionUpdate stored regions
  · exact clearsFlags_propertyUpdate hrules policy
  · trivial
  · obtain ⟨_, -, rfl⟩ := List.mem_map.1 hstale
    exact clearsFlags_regionUpdate stored _

/-- The calls of an update are those of changes that clear the flags. -/
theorem exists_change_of_mem_asked {σ : Type} (answer : (c : Call) → σ → c.Answer × σ) (s : σ)
    (context : Context) (changed : List String)
    (hrules : desired.networkRules = stored.properties.networkRules.map (·.subnet)) {c : Call}
    (hc : c ∈ ((update context desired current changed).run answer s).asked) :
    ∃ change group name, c = Change.call group name change ∧ change.Clears stored := by
  cases hvalid : desired.validate with
  | ok checked =>
    obtain ⟨group, name, hfirst, -⟩ := asked_update answer context current changed hvalid s
    obtain ⟨change, hchange, rfl⟩ := List.mem_map.1 (hfirst.subset hc)
    exact ⟨change, group, name, rfl, clears_of_mem_changes hrules hchange⟩
  | error defect =>
    have hquiet := quiet_update context desired current changed
    rw [hvalid] at hquiet
    rw [← Program.run_asked_quiet, hquiet] at hc
    split at hc <;> cases hc

/-- The account has the rules of the stored one and no flag set. -/
structure LeavesSettings (stored w : DatabaseAccount) : Prop where
  rules : w.properties.networkRules = stored.properties.networkRules
  unflagged : Unflagged w

/-- A change that clears flags leaves the settings of an account on which none is set. -/
theorem LeavesSettings.after {c : Change} {a b : DatabaseAccount} (ha : LeavesSettings stored a)
    (hc : c.Clears stored) (hafter : c.after? a = some b) : LeavesSettings stored b := by
  cases c with
  | patch u =>
    obtain rfl := Option.some.inj (Option.ite_none_right_eq_some.1 hafter).2
    have hrules : (Memory.patched a u).properties.networkRules = stored.properties.networkRules := by
      show u.properties.networkRules.getD a.properties.networkRules = _
      cases hsent : u.properties.networkRules with
      | none => exact ha.rules
      | some rules =>
        rw [Option.getD_some, hc.rules rules hsent, ← ha.rules]
        exact map_withoutFlag_of_unflagged ha.unflagged
    refine ⟨hrules, fun rule hrule => ?_, fun l hl => ?_⟩
    · rw [hrules, ← ha.rules] at hrule
      exact ha.unflagged.rules rule hrule
    · have hl : l ∈ u.properties.locations.getD a.properties.locations := hl
      cases hsent : u.properties.locations with
      | none => exact ha.unflagged.locations l (by simpa [hsent] using hl)
      | some locations => exact hc.locations locations hsent l (by simpa [hsent] using hl)
  | order policies =>
    obtain rfl := Option.some.inj (Option.ite_none_right_eq_some.1 hafter).2
    refine ⟨ha.rules, ha.unflagged.rules, fun l hl => ?_⟩
    obtain ⟨_, -, rfl⟩ := List.mem_map.1 hl
    rfl

end Account

namespace Memory

open Account

variable {m : Memory} {key : String × String} {given : String} {P : DatabaseAccount → Prop}
  {a : DatabaseAccount}

/-- **One change, whichever account it is made of**, leaves an account with a property that the change
keeps. -/
theorem exists_get?_answer_change (hget : m.accounts.get? key = some (given, a)) (ha : P a)
    {c : Change} (hc : ∀ a b, P a → c.after? a = some b → P b) (group name : String) :
    ∃ b, (answer (c.call group name) m).2.accounts.get? key = some (given, b) ∧ P b := by
  by_cases hplanned : operationName (c.call group name) ∈ m.failing
  · rw [answer_of_planned hplanned]
    exact ⟨a, hget, ha⟩
  · rw [answer_of_unplanned hplanned]
    obtain hsame | ⟨given', a', b, hget', hafter, hchanged⟩ :=
      perform_change_cases c group name (recorded (c.call group name) m)
    · exact ⟨a, by rw [hsame]; exact hget, ha⟩
    · rw [hchanged, Dictionary.get?_insert]
      split
      · next hkey =>
        obtain ⟨rfl, rfl⟩ := Prod.mk.inj (Option.some.inj (hget.symm.trans (hkey ▸ hget')))
        exact ⟨b, rfl, hc a b ha hafter⟩
      · exact ⟨a, hget, ha⟩

/-- **A run of such changes** leaves an account with the property, whatever failures are planned. -/
theorem exists_get?_run {α : Type} {operation : Operation α}
    (hget : m.accounts.get? key = some (given, a)) (ha : P a)
    (hcalls : ∀ c ∈ (run operation m).asked, ∃ (change : Change) (group name : String),
      c = change.call group name ∧ ∀ a b, P a → change.after? a = some b → P b) :
    ∃ b, (run operation m).state.accounts.get? key = some (given, b) ∧ P b := by
  let Holds (m : Memory) : Prop := ∃ a, m.accounts.get? key = some (given, a) ∧ P a
  refine Program.run_state_keeps answer (P := Holds) (fun c hc m hm => ?_) ⟨a, hget, ha⟩
  obtain ⟨a, hget, ha⟩ := hm
  obtain ⟨change, group, name, rfl, hkeeps⟩ := hcalls c hc
  exact exists_get?_answer_change hget ha hkeeps group name

end Memory

namespace Account

/-- **An update clears the flags of what it writes.** It starts from the record that is taken over from
the stored account and keeps the list of subnets. Whatever is answered, the rules that a patch carries
are then the subnets of the account with their flag not set, and so are its locations; a patch keeps
the flags exactly where the account has none set. After every run on the service in memory an account
without flags has the same rules, and still none set. -/
theorem update_clears_flags {σ : Type} (answer : (c : Call) → σ → c.Answer × σ) (s : σ)
    (context : Context) (desired before : Account) (stored : DatabaseAccount) (changed : List String)
    (hrules : desired.networkRules = (before.hydrate stored).networkRules) :
    let operation := update context desired (before.hydrate stored) changed
    (∀ group name u, Call.patchAccount group name u ∈ (operation.run answer s).asked →
      ClearsFlags stored u ∧
        (KeepsFlags stored u ↔
          (u.properties.networkRules.isSome = true →
            ∀ old ∈ stored.properties.networkRules, old.ignoreMissingEndpoint = false) ∧
          ∀ locations, u.properties.locations = some locations →
            ∀ l ∈ locations, ∀ old ∈ stored.properties.locations, l.name = old.name →
              old.zoneRedundant = false)) ∧
    ∀ (m : Memory) key given, m.accounts.get? key = some (given, stored) → Unflagged stored →
      ∃ after, (Memory.run operation m).state.accounts.get? key = some (given, after) ∧
        LeavesSettings stored after := by
  intro operation
  refine ⟨fun group name u hu => ?_, fun m key given hget hunflagged => ?_⟩
  · obtain ⟨change, group', name', hcall, hclears⟩ :=
      exists_change_of_mem_asked answer s context changed hrules hu
    cases change with
    | order policies => cases hcall
    | patch u' =>
      cases hcall
      exact ⟨hclears, hclears.keepsFlags_iff⟩
  · refine Memory.exists_get?_run hget ⟨rfl, hunflagged⟩ fun c hc => ?_
    obtain ⟨change, group, name, hcall, hclears⟩ :=
      exists_change_of_mem_asked Memory.answer m context changed hrules hc
    exact ⟨change, group, name, hcall, fun a b ha => ha.after hclears⟩

/-- An account of two subnets without flags gets a read region and a tag: the two patches of its regions
and its properties leave its rules as they were. -/
theorem update_clears_flags_unset :
    let context : Context := ⟨"sub", "eastus"⟩
    let stored : DatabaseAccount := {
      id := some (Memory.accountId "rg" "acc"), name := some "acc"
      properties := {
        consistencyPolicy := some { level := "Strong" }
        locations := [{ name := "eastus", priority := 0 }]
        networkRules := [{ subnet := "front" }, { subnet := "back" }] } }
    let m := Memory.seedAccount {} "rg" stored
    let desired := { ofRecord stored with readRegions := ["westus"], tags := [("env", "prod")] }
    let ran := Memory.run (update context desired (ofRecord stored) ["read_regions", "tags"]) m
    desired.networkRules = (ofRecord stored).networkRules ∧ Unflagged stored ∧
      ran.outcome = .done () ∧ ran.asked.length = 3 ∧
      ∃ after, ran.state.accounts.get? ("rg", "acc") = some ("rg", after) ∧
        LeavesSettings stored after := by
  intro context stored m desired ran
  have hunflagged : Unflagged stored := ⟨by decide, by decide⟩
  obtain ⟨-, hleaves⟩ := update_clears_flags Memory.answer m context desired {} stored
    ["read_regions", "tags"] rfl
  exact ⟨rfl, hunflagged, by decide +kernel, by decide +kernel,
    hleaves m ("rg", "acc") "rg" (by decide +kernel) hunflagged⟩

/-- **A change of the tags loses a flag.** The account has a rule whose missing endpoint is ignored; a
valid declaration with the same subnets and another tag clears that flag in the service. -/
theorem update_loses_flag :
    let context : Context := ⟨"sub", "eastus"⟩
    let stored : DatabaseAccount := {
      id := some (Memory.accountId "rg" "acc"), name := some "acc"
      properties := {
        consistencyPolicy := some { level := "Strong" }
        locations := [{ name := "eastus", priority := 0 }]
        networkFilterEnabled := true
        networkRules := [{ subnet := "front", ignoreMissingEndpoint := true }] } }
    let m := Memory.seedAccount {} "rg" stored
    let desired := { ofRecord stored with tags := [("env", "prod")] }
    let ran := Memory.run (update context desired (ofRecord stored) ["tags"]) m
    m.account? "rg" "acc" = some stored ∧
      desired.validate = .ok ({ level := "Strong" }, "eastus") ∧
      desired.networkRules = (ofRecord stored).networkRules ∧ ran.outcome = .done () ∧
      (∃ group name u, Call.patchAccount group name u ∈ ran.asked ∧ ¬ KeepsFlags stored u) ∧
      (ran.state.account? "rg" "acc").map (·.properties.networkRules) =
        some [{ subnet := "front", ignoreMissingEndpoint := false }] := by
  intro context stored m desired ran
  refine ⟨by decide +kernel, by decide +kernel, rfl, by decide +kernel, ?_, by decide +kernel⟩
  refine ⟨"rg", "acc", desired.propertyUpdate { level := "Strong" }, by decide +kernel, fun h => ?_⟩
  have hlost := h.rules _ rfl _ List.mem_cons_self
  revert hlost
  decide

end Account
end AzureProvisioning
