/-
# When an account is sent

The requirements of an account decide whether a creation or an update calls the service, and the first
one that is not met is what they report (`calls_iff_requirements_met`). An update with a defect does not
look at the current account, not even at what it addresses. Every policy that reaches the service comes
from an account that has met them, so it has the bounds of its level.
-/

import AzureProvisioning.Proofs.Account.Requirements
import AzureProvisioning.Proofs.Provider.Asking

namespace AzureProvisioning
namespace Provider

variable {context : Context} {c : Call}

/-- Every policy of a call comes from a valid account. -/
theorem Made.isBounded (h : Made context c) : ∀ policy ∈ c.policy?, policy.IsBounded := by
  intro policy hpolicy
  cases h with
  | read c h =>
    cases c with
    | getAccount | listAccounts | listAccountsIn | getGroup | listGroups => cases hpolicy
    | _ => cases h
  | createAccount kind h =>
    obtain rfl := Option.some.inj hpolicy
    exact (Account.valid_of_validate h).isBounded
  | changeAccount group name h hchange =>
    rw [Account.policy?_of_mem_changes hchange group name policy hpolicy]
    exact (Account.valid_of_validate h).isBounded
  | deleteAccount | createGroup | changeGroup | deleteGroup => cases hpolicy

/-- **An account that meets what is required is sent, and no other one.** Whoever answers, a creation
makes a call exactly when the kind is set and the account meets its requirements; else it reports the
first one that is not met, and does nothing else. An update that has something to write does the same,
the kind aside, whatever the current account is: the current account only has to be in reach for the
calls to be made. And every policy that any operation sends is bounded staleness with both bounds in
range, or another level without bounds. -/
theorem calls_iff_requirements_met {σ : Type} (answer : (c : Call) → σ → c.Answer × σ)
    (context : Context) :
    (∀ (a : Account) (s : σ),
      let ran := (a.create context).run answer s
      (ran.asked ≠ [] ↔ ∀ r ∈ a.creationRequirements, r.met = true) ∧
      ∀ e, firstDefect? a.creationRequirements = some e →
        ran = ⟨.failed (.ofConfiguration e), [], [], s⟩) ∧
    (∀ (desired current : Account) (changed : List String) (s : σ),
      (∃ f ∈ changed, Account.schema.mutability? f = some .updatable) →
      let ran := (desired.update context current changed).run answer s
      (ran.asked ≠ [] ↔
        (∀ r ∈ desired.requirements, r.met = true) ∧ (current.key? context).isSome = true) ∧
      ∀ e, firstDefect? desired.requirements = some e →
        ran = ⟨.failed (.ofConfiguration e), desired.ignoredNotes changed, [], s⟩) ∧
    ∀ {α : Type} {p : Operation α}, Offered context p →
      ∀ (s : σ), ∀ c ∈ (p.run answer s).asked, ∀ policy ∈ c.policy?, policy.IsBounded := by
  refine ⟨fun a s => ⟨?_, fun e h => Account.run_create_of_defect answer context h s⟩,
    fun desired current changed s hchanged =>
      ⟨?_, fun e h => Account.run_update_of_defect answer context current hchanged h s⟩,
    fun hoffered s c hc => (hoffered.made.of_mem_asked hc).isBounded⟩
  · rw [← firstDefect?_eq_none_iff]
    cases hdefect : firstDefect? a.creationRequirements with
    | none =>
      obtain ⟨kind, policy, write, -, hasked⟩ := Account.asked_create answer context hdefect s
      simp [hasked]
    | some e => simp [Account.run_create_of_defect answer context hdefect s]
  · rw [← firstDefect?_eq_none_iff]
    cases hdefect : firstDefect? desired.requirements with
    | none => simpa using Account.asked_update_ne_nil_iff answer context hchanged hdefect s
    | some e => simp [Account.run_update_of_defect answer context current hchanged hdefect s]

/-- Of three defects an update reports the first one, although its current account addresses nothing;
without them the account is created, with a policy in range. -/
theorem calls_iff_requirements_met_bounds :
    let context : Context := ⟨"sub", "eastus"⟩
    let a : Account := {
      name := "acc", group := "rg", kind := some .sql, consistencyLevel := some .boundedStaleness
      maxStalenessPrefix := some 0, maxInterval := some 4 }
    let sound : Account :=
      { a with maxStalenessPrefix := some 100, maxInterval := some 5, writeRegion := some "eastus" }
    let updating := Memory.run (a.update context {} ["tags"]) {}
    let creating := Memory.run (sound.create context) {}
    (∃ f ∈ ["tags"], Account.schema.mutability? f = some .updatable) ∧
    updating = ⟨.failed (.ofConfiguration
      (.invalid "max_staleness_prefix" "0 is out of range 1..=2147483647")), [], [], {}⟩ ∧
    creating.asked ≠ [] ∧ ∀ c ∈ creating.asked, ∀ policy ∈ c.policy?, policy.IsBounded := by
  intro context a sound updating creating
  obtain ⟨hcreate, hupdate, hbounded⟩ := calls_iff_requirements_met Memory.answer context
  have hchanged : ∃ f ∈ ["tags"], Account.schema.mutability? f = some .updatable := by decide +kernel
  exact ⟨hchanged, (hupdate a {} ["tags"] {} hchanged).2 _ (by decide +kernel),
    (hcreate sound {}).1.2 (by decide +kernel), hbounded (@Offered.create context .account sound) {}⟩

end Provider
end AzureProvisioning
