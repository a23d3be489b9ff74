/-
# What a refresh depends on

A refresh takes every field over from the stored object, the id and the name among them, and these are
what the next refresh looks the object up by. In a coherent store they lead back to the same object
(`storeKey?_ofWire`), and nothing of the record from before is left (`takeOver_of_coherent`).

So what a record is after a refresh depends on the object alone, and a second refresh changes nothing
(`refresh_depends_on_object_only`), in every store that the steps of `Memory.Step` lead to.
-/

import AzureProvisioning.Proofs.Coherence
import AzureProvisioning.Proofs.Rest.Creation

namespace AzureProvisioning

namespace Text

theorem lowerChar_ne_nil (c : Char) : lowerChar c ≠ [] := by
  unfold lowerChar
  repeat' split
  all_goals exact List.cons_ne_nil _ _

/-- Only the empty text has an empty small form. -/
theorem lowercase_eq_empty_iff {s : String} : lowercase s = "" ↔ s = "" := by
  rw [lowercase, ← String.toList_inj, ← String.toList_inj, String.toList_ofList]
  cases s.toList with
  | nil => exact Iff.rfl
  | cons c rest =>
    refine ⟨fun h => ?_, nofun⟩
    obtain ⟨hhead, -⟩ := List.append_eq_nil_iff.1 h
    split at hhead
    · cases hhead
    · exact absurd hhead (lowerChar_ne_nil c)

end Text

/-- What a record addresses has a name. -/
theorem Account.ne_empty_of_key? {context : Context} {a : Account} {group name : String}
    (h : a.key? context = some (group, name)) : group ≠ "" ∧ name ≠ "" := by
  have hkey {g n : String} (h : nonEmptyKey g n = some (group, name)) : group ≠ "" ∧ name ≠ "" := by
    unfold nonEmptyKey at h
    split at h
    · cases h
    · next hne =>
      obtain ⟨rfl, rfl⟩ := Prod.mk.inj (Option.some.inj h)
      simpa using hne
  unfold key? at h
  split at h
  · split at h
    · exact hkey h
    · cases h
  · exact hkey h

theorem Group.ne_empty_of_key? {context : Context} {g : Group} {name : String}
    (h : g.key? context = some name) : name ≠ "" := by
  unfold key? at h
  split at h
  · split at h
    · next hne =>
      obtain rfl := Option.some.inj h
      simp only [Bool.and_eq_true] at hne
      simpa using hne.2
    · cases h
  · split at h
    · cases h
    · next hne =>
      obtain rfl := Option.some.inj h
      simpa using hne

open Program

namespace Memory

/-- An operation that is one read leaves the objects as they are. It ends with what it makes of the
reply, unless a failure of the read is planned. -/
theorem run_read {β : Type} {operation : Operation β} {c : Call} {f : c.Reply → β} {m : Memory}
    {reply : c.Reply} (hquiet : operation.quiet = (Operation.request c).bind fun r => .done (f r))
    (hperform : ∀ calls, perform c { m with calls } = (.ok reply, { m with calls })) :
    let ran := run operation m
    (ran.state.accounts = m.accounts ∧ ran.state.groups = m.groups) ∧
      (operationName c ∉ m.failing → ran.outcome = .done (f reply) ∧ ran.state.failing = m.failing) ∧
      (operationName c ∈ m.failing → ran.outcome.hasFailed = true) := by
  dsimp only [run]
  rw [← run_outcome_quiet, ← run_state_quiet, hquiet]
  by_cases hplanned : operationName c ∈ m.failing
  · rw [Operation.run_request_error (answer_of_planned hplanned)]
    exact ⟨⟨rfl, rfl⟩, fun hnot => absurd hplanned hnot, fun _ => rfl⟩
  · have hanswer : answer c m = (.ok reply, recorded c m) :=
      (answer_of_unplanned hplanned).trans (hperform _)
    rw [Operation.run_request_ok hanswer]
    exact ⟨⟨rfl, rfl⟩, fun _ => ⟨rfl, rfl⟩, fun h => absurd h hplanned⟩

end Memory

namespace Provider

/-- The key of an object in the store. -/
abbrev ManagedType.StoreKey : ManagedType → Type
  | account => String × String
  | group => String

/-- The key of the object that a record addresses. -/
def ManagedType.storeKey? (context : Context) : (type : ManagedType) → type.Record →
    Option type.StoreKey
  | account, (a : Account) => (a.key? context).map fun k => Memory.accountKey k.1 k.2
  | group, (g : Group) => (g.key? context).map Memory.groupKey

/-- The record that an object of the service is on its own. -/
def ManagedType.ofWire : (type : ManagedType) → type.Wire → type.Record
  | account => Account.ofRecord
  | group => Group.ofRecord

/-- The name of the call that a refresh makes. -/
def ManagedType.readName : ManagedType → String
  | account => "get_database_account"
  | group => "get_resource_group"

/-- The object under a key of the store. -/
def ManagedType.held? (m : Memory) : (type : ManagedType) → type.StoreKey → Option type.Wire
  | account, key => (m.accounts.get? key).map (·.2)
  | group, key => m.groups.get? key

variable {type : ManagedType} {context : Context} {record : type.Record} {key : type.StoreKey}
  {m : Memory} {w : type.Wire}

/-- A refresh is one read of the object that the record addresses. -/
theorem run_refresh_of_storeKey? (m : Memory) (hkey : type.storeKey? context record = some key) :
    let ran := Memory.run (Managed.refresh context record) m
    (ran.state.accounts = m.accounts ∧ ran.state.groups = m.groups) ∧
      (type.readName ∉ m.failing → ran.outcome = .done ((type.held? m key).map (type.takeOver record)) ∧
        ran.state.failing = m.failing) ∧
      (type.readName ∈ m.failing → ran.outcome.hasFailed = true) := by
  cases type with
  | account =>
    obtain ⟨⟨group, name⟩, hsome, rfl⟩ := Option.map_eq_some_iff.1 hkey
    have hquiet := Account.quiet_refresh context record
    rw [hsome] at hquiet
    exact @Memory.run_read _ _ (.getAccount group name) _ m _ hquiet fun _ => rfl
  | group =>
    obtain ⟨name, hsome, rfl⟩ := Option.map_eq_some_iff.1 hkey
    have hquiet := Group.quiet_refresh context record
    rw [hsome] at hquiet
    exact @Memory.run_read _ _ (.getGroup name) _ m _ hquiet fun _ => rfl

/-- A refresh that is hit by a planned failure fails, and leaves the record as it is. -/
theorem run_refreshing_of_planned (hkey : type.storeKey? context record = some key)
    (hplanned : type.readName ∈ m.failing) :
    ∃ e, (Memory.run (Managed.refreshing context record) m).outcome = .done (.error e, record) := by
  unfold Memory.run
  rw [← run_outcome_quiet]
  cases type with
  | account =>
    obtain ⟨⟨group, name⟩, hsome, -⟩ := Option.map_eq_some_iff.1 hkey
    have hanswer := @Memory.answer_of_planned m (.getAccount group name) hplanned
    change ∃ e, ((Account.refreshing context record).quiet.run Memory.answer m).outcome = _
    rw [Account.quiet_refreshing, hsome]
    simp only [run, hanswer]
    exact ⟨_, rfl⟩
  | group =>
    obtain ⟨name, hsome, -⟩ := Option.map_eq_some_iff.1 hkey
    have hanswer := @Memory.answer_of_planned m (.getGroup name) hplanned
    change ∃ e, ((Group.refreshing context record).quiet.run Memory.answer m).outcome = _
    rw [Group.quiet_refreshing, hsome]
    simp only [run, hanswer]
    exact ⟨_, rfl⟩

/-- The id and the name of a coherent object are those that a record takes over. -/
theorem takeOver_of_coherent (hm : m.Coherent) (hheld : type.held? m key = some w)
    (record : type.Record) : type.takeOver record w = type.ofWire w := by
  cases type with
  | account =>
    obtain ⟨found, hget, rfl⟩ := Option.map_eq_some_iff.1 hheld
    obtain ⟨identifier, id, hid, hparse, -, -, -, hname, -⟩ := hm.account_of_get? hget
    show Account.hydrate record found.2 = Account.hydrate {} found.2
    simp only [Account.hydrate, hid, hname, Option.bind_some, hparse, Option.map_some, Option.getD_some]
  | group =>
    obtain ⟨identifier, id, -, -, -, -, hname, -⟩ := hm.group_of_get? hheld
    show Group.hydrate record w = Group.hydrate {} w
    simp only [Group.hydrate, hname, Option.getD_some]

/-- In a context of the subscription of the service, a coherent object is addressed by the record that
it is on its own. Its names are not empty, since those of the record that has led there are not. -/
theorem storeKey?_ofWire (hm : m.Coherent)
    (hcontext : Text.foldCase context.subscription = Text.foldCase Memory.subscription)
    (hkey : type.storeKey? context record = some key) (hheld : type.held? m key = some w) :
    type.storeKey? context (type.ofWire w) = some key := by
  have howns {id : ArmId} (hid : id.subscription = Memory.subscription) : context.owns id = true := by
    rw [Context.owns, hid]
    exact Text.sameFolded_iff.2 hcontext.symm
  cases type with
  | account =>
    obtain ⟨⟨group, name⟩, hsome, rfl⟩ := Option.map_eq_some_iff.1 hkey
    obtain ⟨found, hget, rfl⟩ := Option.map_eq_some_iff.1 hheld
    obtain ⟨identifier, id, hid, hparse, hsub, htype, -, -, hkey⟩ := hm.account_of_get? hget
    obtain ⟨hgroup, hname⟩ := Account.ne_empty_of_key? hsome
    obtain ⟨hlowerGroup, hlowerName⟩ := Prod.mk.inj hkey
    have hgroup' : id.group ≠ "" := fun he => hgroup <| by
      rw [← Text.lowercase_eq_empty_iff, ← hlowerGroup, he]
      rfl
    have hname' : id.name ≠ "" := fun he => hname <| by
      rw [← Text.lowercase_eq_empty_iff, ← hlowerName, he]
      rfl
    have hkey' : (Account.ofRecord found.2).key? context = some (id.group, id.name) := by
      rw [Account.key?_of_parse? context hid hparse htype]
      simp [howns hsub, Account.nonEmptyKey, hgroup', hname']
    show ((Account.ofRecord found.2).key? context).map _ = _
    rw [hkey', Option.map_some, hkey]
  | group =>
    obtain ⟨name, hsome, rfl⟩ := Option.map_eq_some_iff.1 hkey
    obtain ⟨identifier, id, hid, hparse, hsub, hmember, -, hkey⟩ := hm.group_of_get? hheld
    have hname := Group.ne_empty_of_key? hsome
    have hname' : id.group ≠ "" := fun he => hname <| by
      rw [← Text.lowercase_eq_empty_iff]
      exact hkey.symm.trans (by rw [he]; rfl)
    have hkey' : (Group.ofRecord w).key? context = some id.group := by
      rw [Group.key?_of_parse? context hid hparse (by rw [hmember]; rfl)]
      simp [howns hsub, hname']
    show ((Group.ofRecord w).key? context).map _ = _
    rw [hkey', Option.map_some, hkey]

/-- **What a refresh depends on.** The empty store is coherent, and every step keeps a store coherent.
In a coherent store, records of one type that address the same object of the service are the same
after a refresh: they are what the object is on its own. A second refresh finds it again; it changes
neither the record nor the store. A refresh that is hit by a planned failure fails, and changes
neither. -/
theorem refresh_depends_on_object_only :
    Memory.Coherent {} ∧ (∀ m m' : Memory, m.Coherent → m.Step m' → m'.Coherent) ∧
    ∀ context, Text.foldCase context.subscription = Text.foldCase Memory.subscription →
    ∀ m : Memory, m.Coherent → ∀ (type : ManagedType) (a b : type.Record) (key : type.StoreKey)
      (w : type.Wire), type.storeKey? context a = some key → type.storeKey? context b = some key →
      type.held? m key = some w →
      let first := Memory.run (Managed.refresh context a) m
      let other := Memory.run (Managed.refresh context b) m
      let second := Memory.run (Managed.refresh context (type.ofWire w)) first.state
      (first.state.accounts = m.accounts ∧ first.state.groups = m.groups) ∧
      (second.state.accounts = m.accounts ∧ second.state.groups = m.groups) ∧
      (type.readName ∉ m.failing →
        first.outcome = .done (some (type.ofWire w)) ∧ other.outcome = .done (some (type.ofWire w)) ∧
        second.outcome = .done (some (type.ofWire w)) ∧ second.state.failing = m.failing) ∧
      (type.readName ∈ m.failing → first.outcome.hasFailed = true ∧
        ∃ e, (Memory.run (Managed.refreshing context a) m).outcome = .done (.error e, a)) := by
  refine ⟨Memory.coherent_empty, fun m m' hm => hm.step, ?_⟩
  intro context hcontext m hm type a b key w ha hb hheld first other second
  obtain ⟨hfirst, hdone, hfailed⟩ := run_refresh_of_storeKey? m ha
  obtain ⟨-, hother, -⟩ := run_refresh_of_storeKey? m hb
  obtain ⟨hsecond, hagain, -⟩ := run_refresh_of_storeKey? first.state
    (storeKey?_ofWire hm hcontext ha hheld)
  have hheld' : type.held? first.state key = some w := by
    rw [← hheld]
    cases type with
    | account => exact congrArg (fun d => (Dictionary.get? d key).map (·.2)) hfirst.1
    | group => exact congrArg (fun d => Dictionary.get? d key) hfirst.2
  refine ⟨hfirst, ⟨hsecond.1.trans hfirst.1, hsecond.2.trans hfirst.2⟩, fun hready => ?_,
    fun hplanned => ?_⟩
  · obtain ⟨hdone, hfailing⟩ := hdone hready
    obtain ⟨hagain, hfailing'⟩ := hagain (hfailing ▸ hready)
    rw [hheld, Option.map_some, takeOver_of_coherent hm hheld] at hdone
    rw [hheld', Option.map_some, takeOver_of_coherent hm hheld] at hagain
    have hother := (hother hready).1
    rw [hheld, Option.map_some, takeOver_of_coherent hm hheld] at hother
    exact ⟨hdone, hother, hagain, hfailing'.trans hfailing⟩
  · exact ⟨hfailed hplanned, run_refreshing_of_planned ha hplanned⟩

/-- An account that was put there before, addressed by its names in small letters and by an id in
capitals: both records become the account as it is stored, and stay so. -/
theorem refresh_depends_on_object_only_seeded :
    let context : Context := ⟨"sub", "eastus"⟩
    let m := Memory.seedAccount {} "RG" { name := some "Orders", location := "westus" }
    let named : Account := { name := "orders", group := "rg", tags := [("env", "stale")] }
    let identified : Account :=
      { id := some "/SUBSCRIPTIONS/SUB/RESOURCEGROUPS/RG/PROVIDERS/MICROSOFT.DOCUMENTDB/DATABASEACCOUNTS/ORDERS" }
    ∃ w, m.account? "rg" "orders" = some w ∧ m.Coherent ∧
      (Memory.run (named.refresh context) m).outcome = .done (some (.ofRecord w)) ∧
      (Memory.run (identified.refresh context) m).outcome = .done (some (.ofRecord w)) ∧
      (Memory.run ((Account.ofRecord w).refresh context)
        (Memory.run (named.refresh context) m).state).outcome = .done (some (.ofRecord w)) := by
  intro context m named identified
  obtain ⟨hempty, hstep, hrefresh⟩ := refresh_depends_on_object_only
  have hm : m.Coherent := hstep _ _ hempty
    (@Memory.Step.seed _ _ "Orders" _ ⟨by decide, by decide⟩ ⟨by decide, by decide⟩ rfl rfl)
  have hheld : ManagedType.held? m .account ("rg", "orders") = some _ := rfl
  obtain ⟨-, -, hready, -⟩ := hrefresh context rfl m hm .account named identified ("rg", "orders") _
    (by decide +kernel) (by decide +kernel) hheld
  obtain ⟨hnamed, hidentified, hagain, -⟩ := hready (by decide)
  exact ⟨_, hheld, hm, hnamed, hidentified, hagain⟩

end Provider
end AzureProvisioning
