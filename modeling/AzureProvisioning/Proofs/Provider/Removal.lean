/-
# What a deletion removes

An identifier designates the object under the names that it spells, in small letters (`Designates`), and
this is the object that the operations of the provider address (`addressedKey?_eq_some_iff`). A deletion
takes out the entry of that key and no other one (`run_delete_of_addressedKey?`): a group goes without its
accounts. An object that is missing is no failure, so a deletion may be repeated, in any spelling.

What is gone stays gone until it is created. No other call brings an object under a key where there is
none (`object?_perform_eq_none`), and neither does anything else that can happen to a service
(`Uncreated.object?_eq_none`), so until then a read finds nothing.
-/

import AzureProvisioning.Proofs.Provider.Interference
import AzureProvisioning.Proofs.Provider.Refreshing

namespace AzureProvisioning

open Program

/-- A key that is not there is nothing to remove. -/
theorem Dictionary.erase_of_get?_eq_none {κ α : Type} [DecidableEq κ] {d : Dictionary κ α} {k : κ}
    (h : d.get? k = none) : d.erase k = d := by
  refine List.filter_eq_self.2 fun e he => ?_
  have hne : k ≠ e.1 := by simpa using List.lookup_eq_none_iff.1 h e he
  exact decide_eq_true hne.symm

/-- The call that deletes an object. -/
def Key.deletion : Key → Call
  | .account g n => .deleteAccount g n
  | .group n => .deleteGroup n

/-- The call that asks for an object. -/
def Key.retrieval : Key → Call
  | .account g n => .getAccount g n
  | .group n => .getGroup n

/-- The call creates the object under this key of the store. -/
def Call.Creates (key : Key) : Call → Prop
  | .putAccount group name _ => (Key.account group name).stored = key
  | .putGroup name _ => (Key.group name).stored = key
  | _ => False

namespace Memory

/-- The service without the object under a key of the store: every other entry stays in its place. -/
def without (m : Memory) : Key → Memory
  | .account group name => { m with accounts := m.accounts.filter fun e => e.1 ≠ (group, name) }
  | .group name => { m with groups := m.groups.filter fun e => e.1 ≠ name }

/-- The services have the same objects, and the same failures are planned. Only the calls so far may
differ. -/
structure Alike (m m' : Memory) : Prop where
  accounts : m.accounts = m'.accounts
  groups : m.groups = m'.groups
  failing : m.failing = m'.failing

/-- Runs operations one after the other: how each of them ends, and the service after the last one. -/
def runAll {α : Type} : List (Operation α) → Memory → List (Outcome α) × Memory
  | [], m => ([], m)
  | p :: ps, m =>
    let rest := runAll ps (run p m).state
    ((run p m).outcome :: rest.1, rest.2)

section Objects

variable {m m' m'' : Memory} {key : Key}

theorem Alike.refl (m : Memory) : Alike m m :=
  ⟨rfl, rfl, rfl⟩

theorem Alike.trans (h : Alike m m') (h' : Alike m' m'') : Alike m m'' :=
  ⟨h.accounts.trans h'.accounts, h.groups.trans h'.groups, h.failing.trans h'.failing⟩

theorem Alike.object?_eq (h : Alike m m') : m.object? = m'.object? := by
  funext k
  cases k with
  | account g n => rw [object?, object?, h.accounts]
  | group n => rw [object?, object?, h.groups]

@[simp] theorem failing_without (m : Memory) (key : Key) : (m.without key).failing = m.failing := by
  cases key <;> rfl

/-- Every other object is there as before. -/
theorem object?_without (m : Memory) (key : Key) :
    (m.without key).object? = Function.update m.object? key none := by
  funext k
  rw [Function.update_apply]
  cases key with
  | account g n =>
    cases k with
    | account g' n' =>
      show ((m.accounts.erase (g, n)).get? (g', n')).map Sum.inl = _
      simp only [Dictionary.get?_erase, Key.account.injEq, Prod.mk.injEq, @eq_comm _ g' g,
        @eq_comm _ n' n]
      split <;> rfl
    | group => rfl
  | group n =>
    cases k with
    | account => rfl
    | group n' =>
      show ((m.groups.erase n).get? n').map Sum.inr = _
      simp only [Dictionary.get?_erase, Key.group.injEq, @eq_comm _ n' n]
      split <;> rfl

/-- Where there is no object, there is nothing to take out. -/
theorem without_of_object?_eq_none (h : m.object? key = none) : m.without key = m := by
  cases key with
  | account g n =>
    have herase := Dictionary.erase_of_get?_eq_none (Option.map_eq_none_iff.1 h)
    exact congrArg (fun accounts => { m with accounts }) herase
  | group n =>
    have herase := Dictionary.erase_of_get?_eq_none (Option.map_eq_none_iff.1 h)
    exact congrArg (fun groups => { m with groups }) herase

end Objects

section Deletion

variable {m m' : Memory}

/-- An operation that is one call, and makes do with a missing object. Whether the object is there or
not, it ends with the same value, and leaves the same objects, unless a failure of the call is planned. -/
theorem run_whenMissing_request {c : Call} {instead : c.Reply} {operation : Operation c.Reply}
    (hquiet : operation.quiet = (Operation.request c).whenMissing instead)
    (hperform : ∀ calls, ∃ answer, perform c { m with calls } = (answer, { m' with calls }) ∧
      (answer = .ok instead ∨ ∃ e, answer = .error e ∧ e.isNotFound = true)) :
    let ran := run operation m
    (operationName c ∉ m.failing → ran.outcome = .done instead ∧ ran.state.Alike m') ∧
      (operationName c ∈ m.failing → ∃ detail, ran.outcome = .failed (.fault detail) ∧
        ran.state.Alike { m with failing := m.failing.erase (operationName c) }) := by
  dsimp only [run]
  rw [← run_outcome_quiet, ← run_state_quiet, hquiet, run_whenMissing, Ran.whenMissing,
    Operation.run_request]
  refine ⟨fun hready => ?_, fun hplanned => ?_⟩
  · obtain ⟨reply, hperform, hreply⟩ := hperform (recorded c m).calls
    rw [(answer_of_unplanned hready).trans hperform]
    obtain rfl | ⟨e, rfl, hmissing⟩ := hreply
    · exact ⟨rfl, rfl, rfl, rfl⟩
    · exact ⟨if_pos hmissing, rfl, rfl, rfl⟩
  · rw [answer_of_planned hplanned]
    exact ⟨_, rfl, rfl, rfl, rfl⟩

/-- A deletion takes the object out, or finds that there is none. -/
theorem perform_deleteAccount (m : Memory) (group name : String) :
    ∃ answer, perform (.deleteAccount group name) m =
        (answer, m.without (Key.account group name).stored) ∧
      (answer = .ok () ∨ ∃ e, answer = .error e ∧ e.isNotFound = true) := by
  simp only [perform]
  cases hget : m.accounts.get? (accountKey group name) with
  | some found => exact ⟨_, rfl, .inl rfl⟩
  | none =>
    have hgone : m.object? (Key.account group name).stored = none := Option.map_eq_none_iff.2 hget
    rw [without_of_object?_eq_none hgone]
    exact ⟨_, rfl, .inr ⟨_, rfl, rfl⟩⟩

theorem perform_deleteGroup (m : Memory) (name : String) :
    ∃ answer, perform (.deleteGroup name) m = (answer, m.without (Key.group name).stored) ∧
      (answer = .ok () ∨ ∃ e, answer = .error e ∧ e.isNotFound = true) := by
  simp only [perform]
  cases hget : m.group? name with
  | some found => exact ⟨_, rfl, .inl rfl⟩
  | none =>
    have hgone : m.object? (Key.group name).stored = none := Option.map_eq_none_iff.2 hget
    rw [without_of_object?_eq_none hgone]
    exact ⟨_, rfl, .inr ⟨_, rfl, rfl⟩⟩

end Deletion

section Histories

variable {m m' : Memory} {c : Call} {key : Key}

/-- A call on another object, or on none, leaves this one as it is. -/
theorem object?_perform_of_ne (h : ∀ k, c.key? = some k → k.stored ≠ key) :
    (perform c m).2.object? key = m.object? key := by
  cases hkey : c.key? with
  | some k =>
    obtain ⟨-, o, hobject, -⟩ := @perform_on_key m m c k hkey rfl
    rw [hobject, Function.update_of_ne (h k hkey).symm]
  | none =>
    cases c with
    | listAccounts | listAccountsIn | listGroups => rfl
    | _ => cases hkey

/-- Where there is no object, a call that does not create one changes nothing. -/
theorem perform_of_object?_eq_none (hkey : c.key? = some key) (hcreates : ¬ c.Creates key.stored)
    (hgone : m.object? key.stored = none) : (perform c m).2 = m := by
  have haccount {group name : String} (hk : key = .account group name) :
      m.accounts.get? (accountKey group name) = none := by
    subst hk
    exact Option.map_eq_none_iff.1 hgone
  have hgroup {name : String} (hk : key = .group name) : m.group? name = none := by
    subst hk
    exact Option.map_eq_none_iff.1 hgone
  cases c with
  | listAccounts | listAccountsIn | listGroups | getAccount | getGroup => rfl
  | putAccount | putGroup =>
    cases hkey
    exact absurd rfl hcreates
  | patchAccount | changePriorities | deleteAccount =>
    cases hkey
    simp only [perform, haccount rfl]
  | setGroupTags | deleteGroup =>
    cases hkey
    simp only [perform, hgroup rfl]

/-- **Only a creation brings an object under a key where there is none.** -/
theorem object?_perform_eq_none (hcreates : ¬ c.Creates key) (hgone : m.object? key = none) :
    (perform c m).2.object? key = none := by
  by_cases hon : ∃ k, c.key? = some k ∧ k.stored = key
  · obtain ⟨k, hkey, rfl⟩ := hon
    rw [perform_of_object?_eq_none hkey hcreates hgone, hgone]
  · rw [object?_perform_of_ne fun k hkey hstored => hon ⟨k, hkey, hstored⟩, hgone]

/-- And a creation does. -/
theorem object?_perform_of_creates (h : c.Creates key) : (perform c m).2.object? key ≠ none := by
  cases c with
  | putAccount group name account =>
    subst h
    rw [perform, setAccount, object?_setAccounts fun _ => Dictionary.get?_insert .., Function.update_self]
    exact Option.some_ne_none _
  | putGroup name group =>
    subst h
    rw [perform, setGroup, object?_setGroups fun _ => Dictionary.get?_insert .., Function.update_self]
    exact Option.some_ne_none _
  | _ => cases h

theorem object?_answer_eq_none (hcreates : ¬ c.Creates key) (hgone : m.object? key = none) :
    (answer c m).2.object? key = none := by
  by_cases hplanned : operationName c ∈ m.failing
  · rw [answer_of_planned hplanned]
    exact hgone
  · rw [answer_of_unplanned hplanned]
    exact object?_perform_eq_none (m := recorded c m) hcreates hgone

/-- A run that creates no object under a key leaves none there. -/
theorem object?_run_eq_none {α : Type} {operation : Operation α}
    (hcalls : ∀ c ∈ (run operation m).asked, ¬ c.Creates key) (hgone : m.object? key = none) :
    (run operation m).state.object? key = none :=
  run_state_keeps answer (P := fun m => m.object? key = none)
    (fun c hc _ hgone => object?_answer_eq_none (hcalls c hc) hgone) hgone

/-- What may happen to a service while no object is created under a key: an operation is run that makes
no such call, an account of another key is put there, or a failure is planned. -/
inductive Uncreated (key : Key) (m : Memory) : Memory → Prop
  | run {α : Type} (operation : Operation α)
      (h : ∀ c ∈ (Memory.run operation m).asked, ¬ c.Creates key) :
      Uncreated key m (Memory.run operation m).state
  | seed (group : String) (account : DatabaseAccount)
      (h : (Key.account group (account.name.getD "")).stored ≠ key) :
      Uncreated key m (m.seedAccount group account)
  | plan (operation : String) : Uncreated key m (m.failNext operation)

/-- **What is gone stays gone** until it is created. -/
theorem Uncreated.object?_eq_none (h : Relation.ReflTransGen (Uncreated key) m m')
    (hgone : m.object? key = none) : m'.object? key = none := by
  induction h with
  | refl => exact hgone
  | tail _ hstep ih =>
    cases hstep with
    | run operation hcalls => exact object?_run_eq_none hcalls ih
    | seed group account hother =>
      rw [seedAccount, setAccount, object?_setAccounts fun _ => Dictionary.get?_insert ..,
        Function.update_of_ne hother.symm]
      exact ih
    | plan operation => exact ih

end Histories
end Memory

namespace Provider

/-- The key of the object that an id names. -/
def ManagedType.keyOf : ManagedType → ArmId → Key
  | account, id => .account id.group id.name
  | group, id => .group id.group

/-- The identifier is the id of an object of the requested type, in the subscription of the context and
with names that are not empty. The key is made of them in small letters. Of the names that are read from
an id only the group can be empty (`ArmId.name_ne_empty_of_parse?`). -/
inductive Designates (context : Context) (id : ResourceId) (identifier : String) : Key → Prop
  | intro {type : ManagedType} {armId : ArmId} (htype : ManagedType.ofName? id.type = some type)
      (hparse : ArmId.parse? identifier = some armId) (hnames : type.names armId = true)
      (howns : context.owns armId = true) (hgroup : armId.group ≠ "") :
      Designates context id identifier (type.keyOf armId).stored

/-- The key of an object in the store, with the type of the object. -/
def ManagedType.heldKey : (type : ManagedType) → type.StoreKey → Key
  | account, key => .account key.1 key.2
  | group, key => .group key

variable {context : Context} {type : ManagedType} {id : ResourceId} {identifier : String} {key : Key}
  {armId : ArmId} {m : Memory}

section Addressing

theorem ManagedType.map_stored_key? (record : type.Record) :
    (type.key? context record).map Key.stored =
      (type.storeKey? context record).map type.heldKey := by
  cases type with
  | account =>
    simp only [key?, storeKey?, Option.map_map]
    rfl
  | group =>
    simp only [key?, storeKey?, Option.map_map]
    rfl

theorem ManagedType.object?_heldKey_eq_none_iff (k : type.StoreKey) :
    m.object? (type.heldKey k) = none ↔ type.held? m k = none := by
  cases type with
  | account => exact Option.map_eq_none_iff.trans Option.map_eq_none_iff.symm
  | group => exact Option.map_eq_none_iff

/-- Only an id of the type names a record. -/
theorem ManagedType.exists_parse?_of_ofIdentifier? {record : type.Record}
    (h : Managed.ofIdentifier? identifier = some record) :
    ∃ armId, ArmId.parse? identifier = some armId ∧ type.names armId = true ∧
      Managed.identifier? record = some identifier := by
  cases type with
  | account =>
    replace h : Account.ofIdentifier? identifier = some record := h
    unfold Account.ofIdentifier? at h
    split at h
    · next armId hparse =>
      obtain ⟨htype, hrecord⟩ := Option.ite_none_right_eq_some.1 h
      obtain rfl := Option.some.inj hrecord
      exact ⟨armId, hparse, htype, rfl⟩
    · cases h
  | group =>
    replace h : Group.ofIdentifier? identifier = some record := h
    unfold Group.ofIdentifier? at h
    split at h
    · next armId hparse =>
      obtain ⟨hmember, hrecord⟩ := Option.ite_none_right_eq_some.1 h
      obtain rfl := Option.some.inj hrecord
      exact ⟨armId, hparse, hmember, rfl⟩
    · cases h

/-- A record with an id of its type addresses what the id names, in the subscription of the context. -/
theorem ManagedType.key?_of_parse? {record : type.Record}
    (hid : Managed.identifier? record = some identifier)
    (hparse : ArmId.parse? identifier = some armId) (hnames : type.names armId = true) :
    type.key? context record =
      if context.owns armId = true ∧ armId.group ≠ "" then some (type.keyOf armId) else none := by
  have hname := ArmId.name_ne_empty_of_parse? hparse
  cases type with
  | account =>
    rw [key?, Account.key?_of_parse? context hid hparse hnames]
    by_cases howns : context.owns armId = true
    · by_cases hgroup : armId.group = "" <;>
        simp [howns, hgroup, hname, Account.nonEmptyKey, keyOf]
    · simp [howns]
  | group =>
    rw [key?, Group.key?_of_parse? context hid hparse hnames]
    by_cases howns : context.owns armId = true
    · by_cases hgroup : armId.group = "" <;> simp [howns, hgroup, keyOf]
    · simp [howns]

/-- **What a request addresses** is what its identifier designates. -/
theorem addressedKey?_eq_some_iff :
    addressedKey? context id identifier = some key ↔ Designates context id identifier key := by
  simp only [addressedKey?, ManagedType.addressedKey?, Option.bind_eq_some_iff, Option.map_eq_some_iff]
  constructor
  · rintro ⟨type, htype, k, ⟨record, hrecord, hk⟩, rfl⟩
    obtain ⟨armId, hparse, hnames, hid⟩ := ManagedType.exists_parse?_of_ofIdentifier? hrecord
    rw [ManagedType.key?_of_parse? hid hparse hnames] at hk
    obtain ⟨⟨howns, hgroup⟩, hkey⟩ := Option.ite_none_right_eq_some.1 hk
    obtain rfl := Option.some.inj hkey
    exact .intro htype hparse hnames howns hgroup
  · rintro ⟨htype, hparse, hnames, howns, hgroup⟩
    obtain ⟨record, hrecord, hid⟩ := ManagedType.exists_ofIdentifier?_of_names hparse hnames
    refine ⟨_, htype, _, ⟨record, hrecord, ?_⟩, rfl⟩
    rw [ManagedType.key?_of_parse? hid hparse hnames, if_pos ⟨howns, hgroup⟩]

/-- The record that such an identifier names, and where it is looked up. -/
theorem Designates.exists_record (h : Designates context id identifier key) :
    ∃ type, ManagedType.ofName? id.type = some type ∧ ∃ (record : type.Record) (k : type.StoreKey),
      Managed.ofIdentifier? identifier = some record ∧ type.storeKey? context record = some k ∧
        type.heldKey k = key := by
  obtain ⟨type, htype, haddressed⟩ := Option.bind_eq_some_iff.1 (addressedKey?_eq_some_iff.2 h)
  rw [ManagedType.addressedKey?, Option.map_bind] at haddressed
  obtain ⟨record, hrecord, hkey⟩ := Option.bind_eq_some_iff.1 haddressed
  rw [Function.comp_apply, ManagedType.map_stored_key?] at hkey
  obtain ⟨k, hk, hheld⟩ := Option.map_eq_some_iff.1 hkey
  exact ⟨type, htype, record, k, hrecord, hk, hheld⟩

end Addressing

section Runs

open Memory (operationName)

/-- A deletion takes out what the record addresses, be it there or not. -/
theorem run_delete_of_storeKey? {record : type.Record} {k : type.StoreKey}
    (hkey : type.storeKey? context record = some k) (m : Memory) :
    let ran := Memory.run (Managed.delete context record) m
    let name := operationName (type.heldKey k).deletion
    (name ∉ m.failing → ran.outcome = .done () ∧ ran.state.Alike (m.without (type.heldKey k))) ∧
      (name ∈ m.failing → ∃ detail, ran.outcome = .failed (.fault detail) ∧
        ran.state.Alike { m with failing := m.failing.erase name }) := by
  cases type with
  | account =>
    obtain ⟨⟨group, name⟩, hsome, rfl⟩ := Option.map_eq_some_iff.1 hkey
    have hquiet := Account.quiet_delete context record
    rw [hsome] at hquiet
    exact @Memory.run_whenMissing_request m _ (.deleteAccount group name) () _ hquiet fun calls =>
      Memory.perform_deleteAccount { m with calls } group name
  | group =>
    obtain ⟨name, hsome, rfl⟩ := Option.map_eq_some_iff.1 hkey
    have hquiet := Group.quiet_delete context record
    rw [hsome] at hquiet
    exact @Memory.run_whenMissing_request m _ (.deleteGroup name) () _ hquiet fun calls =>
      Memory.perform_deleteGroup { m with calls } name

/-- A request for the deletion of what the identifier designates. -/
theorem Designates.run_delete (h : Designates context id identifier key) (m : Memory) :
    let ran := Memory.run (delete context id identifier) m
    let name := operationName key.deletion
    (name ∉ m.failing → ran.outcome = .done () ∧ ran.state.Alike (m.without key)) ∧
      (name ∈ m.failing → ∃ detail, ran.outcome = .failed ((Failure.fault detail).forResource id) ∧
        ran.state.Alike { m with failing := m.failing.erase name }) := by
  obtain ⟨type, htype, record, k, hrecord, hk, rfl⟩ := h.exists_record
  obtain ⟨hdone, hfailed⟩ := run_delete_of_storeKey? hk m
  have hdelete : deleteAs type.Record context identifier = Managed.delete context record := by
    rw [deleteAs, addressed, hrecord]
    rfl
  rw [← hdelete] at hdone hfailed
  dsimp only [delete, Memory.run] at hdone hfailed ⊢
  rw [run_dispatch_state htype]
  refine ⟨fun hready => ?_, fun hplanned => ?_⟩
  · obtain ⟨houtcome, halike⟩ := hdone hready
    exact ⟨by rw [run_dispatch_done htype houtcome, houtcome], halike⟩
  · obtain ⟨detail, houtcome, halike⟩ := hfailed hplanned
    exact ⟨detail, run_dispatch_failed htype houtcome, halike⟩

/-- A read of what the identifier designates reports the object, if it is there. -/
theorem Designates.run_read (h : Designates context id identifier key)
    (hready : operationName key.retrieval ∉ m.failing) :
    let outcome := (Memory.run (read context id (some identifier)) m).outcome
    (m.object? key = none → outcome = .done (.absent id)) ∧
      (m.object? key ≠ none → ∃ identifier? attributes,
        outcome = .done (.present id identifier? attributes)) := by
  obtain ⟨type, htype, record, k, hrecord, hk, rfl⟩ := h.exists_record
  have hname : operationName (type.heldKey k).retrieval = type.readName := by cases type <;> rfl
  obtain ⟨-, hrefresh, -⟩ := run_refresh_of_storeKey? m hk
  obtain ⟨hfound, -⟩ := hrefresh (hname ▸ hready)
  have hreadAs : readAs type.Record context id (some identifier) = refreshed context id record := by
    rw [readAs_some, addressed, hrecord]
    rfl
  have hread {s : State} (h : (Memory.run (refreshed context id record) m).outcome = .done s) :
      (Memory.run (read context id (some identifier)) m).outcome = .done s := by
    rw [← hreadAs] at h
    dsimp only [read, Memory.run] at h ⊢
    rw [run_dispatch_done htype h, h]
  rw [Ne, ManagedType.object?_heldKey_eq_none_iff]
  refine ⟨fun hgone => hread ?_, fun hheld => ?_⟩
  · rw [hgone] at hfound
    rw [refreshed, Program.bind_eq_bind, Memory.run_bind, Ran.andThen_of_done hfound]
    rfl
  · obtain ⟨w, hw⟩ := Option.ne_none_iff_exists'.1 hheld
    rw [hw] at hfound
    let live := type.takeOver record w
    refine ⟨Managed.identifier? live, Managed.toAttributes live, hread ?_⟩
    rw [refreshed, Program.bind_eq_bind, Memory.run_bind, Ran.andThen_of_done hfound]
    rfl

/-- A deletion of what is gone already leaves everything as it is, however often it is requested, and
however the identifier is spelled. -/
theorem runAll_delete_of_gone {requests : List (ResourceId × String)}
    (h : ∀ r ∈ requests, Designates context r.1 r.2 key)
    (hready : operationName key.deletion ∉ m.failing) (hgone : m.object? key = none) :
    let ran := Memory.runAll (requests.map fun r => delete context r.1 r.2) m
    ran.1 = List.replicate requests.length (.done ()) ∧ ran.2.Alike m := by
  induction requests generalizing m with
  | nil => exact ⟨rfl, .refl m⟩
  | cons r requests ih =>
    obtain ⟨houtcome, halike⟩ := ((h r List.mem_cons_self).run_delete m).1 hready
    rw [Memory.without_of_object?_eq_none hgone] at halike
    obtain ⟨houtcomes, hrest⟩ := ih (fun r' hr' => h r' (List.mem_cons_of_mem r hr'))
      (halike.failing ▸ hready) (by rw [halike.object?_eq]; exact hgone)
    exact ⟨List.cons_eq_cons.2 ⟨houtcome, houtcomes⟩, hrest.trans halike⟩

end Runs

open Memory (operationName)

/-- Every read of the object finds nothing. -/
def ReadsNothing (context : Context) (key : Key) (m : Memory) : Prop :=
  operationName key.retrieval ∉ m.failing → ∀ id identifier, Designates context id identifier key →
    (Memory.run (read context id (some identifier)) m).outcome = .done (.absent id)

/-- Every read of the object finds it. -/
def ReadsObject (context : Context) (key : Key) (m : Memory) : Prop :=
  operationName key.retrieval ∉ m.failing → ∀ id identifier, Designates context id identifier key →
    ∃ identifier? attributes, (Memory.run (read context id (some identifier)) m).outcome =
      .done (.present id identifier? attributes)

theorem readsNothing_of_object?_eq_none (h : m.object? key = none) : ReadsNothing context key m :=
  fun hready _ _ hdesignates => (hdesignates.run_read hready).1 h

/-- Once a call has created the object, it is found. -/
theorem readsObject_of_creates {c : Call} (hcreates : c.Creates key)
    (hready : operationName c ∉ m.failing) :
    ReadsObject context key (Memory.answer c m).2 := by
  intro hretrieval id identifier hdesignates
  refine (hdesignates.run_read hretrieval).2 ?_
  rw [Memory.answer_of_unplanned hready]
  exact Memory.object?_perform_of_creates hcreates

/-- **A deletion removes what its identifier designates, and nothing else.** It succeeds whether the
object is there or not, and takes out the entry of its key. Every further deletion, in any spelling of
the key, succeeds and changes nothing. Whatever happens to the service, reads find nothing until a call
creates an object with that key; from then on they find it. A deletion that is hit by a planned failure
fails with a fault, and changes no object. -/
theorem delete_removes_only_designated (h : Designates context id identifier key) (m : Memory) :
    let deleted := Memory.run (delete context id identifier) m
    (operationName key.deletion ∉ m.failing →
      deleted.outcome = .done () ∧ deleted.state.Alike (m.without key) ∧
      (∀ requests : List (ResourceId × String), (∀ r ∈ requests, Designates context r.1 r.2 key) →
        let again := Memory.runAll (requests.map fun r => delete context r.1 r.2) deleted.state
        again.1 = List.replicate requests.length (.done ()) ∧ again.2.Alike deleted.state) ∧
      ∀ now, Relation.ReflTransGen (Memory.Uncreated key) deleted.state now →
        ReadsNothing context key now ∧
        ∀ c : Call, c.Creates key → operationName c ∉ now.failing →
          ReadsObject context key (Memory.answer c now).2) ∧
    (operationName key.deletion ∈ m.failing →
      ∃ detail, deleted.outcome = .failed ((Failure.fault detail).forResource id) ∧
        deleted.state.Alike { m with failing := m.failing.erase (operationName key.deletion) }) := by
  intro deleted
  obtain ⟨hdone, hfailed⟩ := h.run_delete m
  refine ⟨fun hready => ?_, hfailed⟩
  obtain ⟨houtcome, halike⟩ := hdone hready
  have hgone : deleted.state.object? key = none := by
    rw [halike.object?_eq, Memory.object?_without, Function.update_self]
  have hready' : operationName key.deletion ∉ deleted.state.failing := by
    rwa [halike.failing, Memory.failing_without]
  refine ⟨houtcome, halike, fun requests hrequests => runAll_delete_of_gone hrequests hready' hgone,
    fun now hnow => ⟨?_, fun c hcreates hcreated => readsObject_of_creates hcreates hcreated⟩⟩
  exact readsNothing_of_object?_eq_none (Memory.Uncreated.object?_eq_none hnow hgone)

/-- An account is deleted by its id in capitals, while its group stays. Deletions by both spellings
change nothing then, and when another account has been put there and a failure has been planned, a read
by the other spelling finds nothing. With a planned failure the account stays. -/
theorem delete_removes_only_designated_capitals :
    let context : Context := ⟨"sub", "eastus"⟩
    let id : ResourceId := ⟨"cosmosdb.database_account", "db"⟩
    let group : ResourceGroup := { name := some "RG", location := "eastus" }
    let m := Memory.seedAccount { groups := [("rg", group)] } "RG"
      { name := some "Orders", location := "westus" }
    let loud :=
      "/SUBSCRIPTIONS/SUB/RESOURCEGROUPS/RG/PROVIDERS/MICROSOFT.DOCUMENTDB/DATABASEACCOUNTS/ORDERS"
    let small := Memory.accountId "rg" "orders"
    let deleted := Memory.run (delete context id loud) m
    let other : DatabaseAccount := { name := some "Invoices", location := "westus" }
    let now := (deleted.state.seedAccount "RG" other).failNext "list_resource_groups"
    let planned := m.failNext "delete_database_account"
    deleted.outcome = .done () ∧ deleted.state.accounts = [] ∧ deleted.state.groups = [("rg", group)] ∧
      (Memory.runAll [delete context id small, delete context id loud] deleted.state).1 =
        [.done (), .done ()] ∧
      (Memory.run (read context id (some small)) now).outcome = .done (.absent id) ∧
      (Memory.run (delete context id loud) planned).outcome.hasFailed = true ∧
      (Memory.run (delete context id loud) planned).state.accounts = m.accounts := by
  intro context id group m loud small
  have hloud : Designates context id loud (.account "rg" "orders") :=
    addressedKey?_eq_some_iff.1 (by decide +kernel)
  have hsmall : Designates context id small (.account "rg" "orders") :=
    addressedKey?_eq_some_iff.1 (by decide +kernel)
  have hnone : (m.without (.account "rg" "orders")).accounts = [] := by decide +kernel
  obtain ⟨hdone, -⟩ := delete_removes_only_designated hloud m
  obtain ⟨houtcome, halike, hagain, hreads⟩ := hdone (by decide)
  generalize Memory.run (delete context id loud) m = ran at houtcome halike hagain hreads ⊢
  intro deleted other now planned
  obtain ⟨-, hfailed⟩ := delete_removes_only_designated hloud planned
  obtain ⟨detail, hfault, hkept⟩ := hfailed (by decide)
  obtain ⟨houtcomes, -⟩ := hagain [(id, small), (id, loud)] (by simp [hsmall, hloud])
  have hother : (Key.account "RG" (other.name.getD "")).stored ≠ .account "rg" "orders" := by
    decide +kernel
  have hnow : Relation.ReflTransGen (Memory.Uncreated (.account "rg" "orders")) ran.state now :=
    .tail (.single (.seed "RG" other hother)) (.plan "list_resource_groups")
  have hfailing : now.failing = ["list_resource_groups"] :=
    congrArg (· ++ ["list_resource_groups"]) halike.failing
  exact ⟨houtcome, halike.accounts.trans hnone, halike.groups, houtcomes,
    (hreads now hnow).1 (by rw [hfailing]; decide) id small hsmall, by rw [hfault]; rfl, hkept.accounts⟩

end Provider
end AzureProvisioning
