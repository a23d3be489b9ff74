/-
# What a query finds

A query reads as little as it can: one object when it filters by an id, or by the name of a group, the
accounts of one group when it filters by that, and else everything. What it reads is a selection from
the store (`Account.Selects`, `Group.Selects`), and of a coherent store with texts of ASCII the
selection holds the objects that the filters match (`Account.selects_iff`, `Group.selects_iff`).

So a query finds the records that match every filter, as if it had gone through the list of them all
(`finds_matching_records`).
-/

import AzureProvisioning.Proofs.Ascii
import AzureProvisioning.Proofs.Provider.Isolation
import AzureProvisioning.Proofs.Provider.Refreshing
import AzureProvisioning.Proofs.Provider.Targets

namespace AzureProvisioning

open Program

namespace Dictionary

variable {κ α : Type} [DecidableEq κ]

/-- With distinct keys there is one entry under a key at most. -/
theorem filter_key_eq {d : Dictionary κ α} (hd : d.Distinct) (k : κ) :
    d.filter (fun e => e.1 = k) = (d.get? k).toList.map fun v => (k, v) := by
  induction d with
  | nil => rfl
  | cons e d ih =>
    obtain ⟨hnot, hd⟩ := List.nodup_cons.1 hd
    rw [get?_cons, List.filter_cons]
    by_cases he : e.1 = k
    · have hnone : d.filter (fun e => e.1 = k) = [] := by
        refine List.filter_eq_nil_iff.2 fun e' he' hk => hnot ?_
        rw [he, ← of_decide_eq_true hk]
        exact List.mem_map_of_mem he'
      subst he
      simp [hnone]
    · simp [he, ih hd]

theorem length_filter_le_one {d : Dictionary κ α} (hd : d.Distinct) {k : κ} {p : κ × α → Bool}
    (h : ∀ e, p e = true → e.1 = k) : (d.filter p).length ≤ 1 := by
  have hp : p = fun e => p e && decide (e.1 = k) := by
    funext e
    cases hpe : p e <;> simp [hpe, h e]
  rw [hp, ← List.filter_filter, filter_key_eq hd]
  refine (List.length_filter_le _ _).trans ?_
  cases d.get? k <;> simp

end Dictionary

namespace Filters

variable {filters : Filters}

theorem admits_iff {key text : String} : filters.admits key text = true ↔
    ∀ value ∈ filters.get? key, Text.foldCase text = Text.foldCase value := by
  unfold admits
  cases filters.get? key with
  | none => simp
  | some value => simp [Text.sameFolded_iff]

theorem checkKeys_eq_ok_iff {allowed : List String} :
    filters.checkKeys allowed = .ok () ↔ ∀ e ∈ filters, e.1 ∈ allowed := by
  unfold checkKeys
  cases hfind : filters.find? fun e => !allowed.contains e.1 with
  | none => simpa using hfind
  | some e =>
    refine ⟨nofun, fun h => absurd (h e (List.mem_of_find?_eq_some hfind)) ?_⟩
    simpa using List.find?_some hfind

/-- A query by any other key is refused, by the first one. -/
theorem checkKeys_eq_error {allowed : List String} (h : ∃ e ∈ filters, e.1 ∉ allowed) :
    ∃ e ∈ filters, e.1 ∉ allowed ∧
      filters.checkKeys allowed = .error (.invalidValue "filter" e.1 allowed) := by
  unfold checkKeys
  cases hfind : filters.find? fun e => !allowed.contains e.1 with
  | none =>
    obtain ⟨e, he, hnot⟩ := h
    simpa [hnot] using List.find?_eq_none.1 hfind e he
  | some e =>
    exact ⟨e, List.mem_of_find?_eq_some hfind, by simpa using List.find?_some hfind, rfl⟩

/-- A key that is not allowed has no value. -/
theorem get?_eq_none_of_allowed {allowed : List String} (h : ∀ e ∈ filters, e.1 ∈ allowed)
    {key : String} (hkey : key ∉ allowed) : filters.get? key = none := by
  cases hget : filters.get? key with
  | none => rfl
  | some value => exact absurd (h _ (Dictionary.mem_of_get? hget)) hkey

end Filters

namespace Memory

/-- The groups and the names of the stored objects are of ASCII. -/
structure OfAscii (m : Memory) : Prop where
  accounts : ∀ e ∈ m.accounts, Text.IsAscii e.2.1 ∧ ∀ name ∈ e.2.2.name, Text.IsAscii name
  groups : ∀ e ∈ m.groups, ∀ name ∈ e.2.name, Text.IsAscii name

/-- No key of the store has two objects. -/
structure KeysDistinct (m : Memory) : Prop where
  accounts : m.accounts.Distinct
  groups : m.groups.Distinct

/-- The operation ends with what is found, and leaves the objects as they are. -/
structure Finds {α : Type} (operation : Operation α) (m : Memory) (found : α) : Prop where
  outcome : (run operation m).outcome = .done found
  accounts : (run operation m).state.accounts = m.accounts
  groups : (run operation m).state.groups = m.groups

variable {α : Type} {operation : Operation α} {m : Memory} {c : Call} {f : c.Reply → α}
  {reply : c.Reply}

/-- An operation without a call finds what it ends with. -/
theorem finds_of_quiet_eq_done {found : α} (h : operation.quiet = .done found) :
    Finds operation m found := by
  obtain ⟨houtcome, hasked⟩ := run_of_quiet_eq_done answer m h
  have hstate : (run operation m).state = m := run_state_of_asked_eq_nil answer hasked
  exact ⟨houtcome, by rw [hstate], by rw [hstate]⟩

/-- An operation that is one read finds what it makes of the reply. -/
theorem finds_of_read (hready : m.failing = [])
    (hquiet : operation.quiet = (Operation.request c).bind fun r => .done (f r))
    (hperform : ∀ calls, perform c { m with calls } = (.ok reply, { m with calls })) :
    Finds operation m (f reply) := by
  obtain ⟨⟨haccounts, hgroups⟩, hdone, -⟩ := run_read hquiet hperform
  exact ⟨(hdone (hready ▸ List.not_mem_nil)).1, haccounts, hgroups⟩

end Memory

namespace Provider

/-- The query for all objects of the type. -/
def ManagedType.findAll : (type : ManagedType) → Operation (List type.Record)
  | account => Account.findAll
  | group => Group.findAll

/-- The group that a record is in; the record of a group is that group. -/
def ManagedType.ownGroup : (type : ManagedType) → type.Record → String
  | account, (a : Account) => a.group
  | group, (g : Group) => g.name

/-- The record passes every filter, up to the case of the letters `A` to `Z`: it has the name and the
group, and the id is one of its type, in the subscription of the context, with its group and name. -/
structure ManagedType.Matches (type : ManagedType) (context : Context) (filters : Filters)
    (record : type.Record) : Prop where
  name : ∀ value ∈ filters.get? "name", Text.foldCase (type.ownName record) = Text.foldCase value
  group : ∀ value ∈ filters.get? "resource_group",
    Text.foldCase (type.ownGroup record) = Text.foldCase value
  id : ∀ value ∈ filters.get? "id", ∃ id ∈ ArmId.parse? value, type.names id = true ∧
    Text.foldCase id.subscription = Text.foldCase context.subscription ∧
    Text.foldCase id.group = Text.foldCase (type.ownGroup record) ∧
    Text.foldCase id.name = Text.foldCase (type.ownName record)

instance (type : ManagedType) (context : Context) (filters : Filters) (record : type.Record) :
    Decidable (type.Matches context filters record) :=
  decidable_of_iff (_ ∧ _ ∧ _) ⟨fun h => ⟨h.1, h.2.1, h.2.2⟩, fun h => ⟨h.name, h.group, h.id⟩⟩

/-- The objects of a type in a store, in order. -/
def ManagedType.objects (m : Memory) : (type : ManagedType) → List type.Wire
  | account => m.accounts.map (·.2.2)
  | group => m.groups.map (·.2)

end Provider

namespace Account

variable {context : Context} {filters : Filters} {m : Memory}

theorem quiet_takeOverAll (records : List DatabaseAccount) :
    (takeOverAll records).quiet = .done (records.map ofRecord) := by
  induction records with
  | nil => rfl
  | cons record records ih =>
    simp only [takeOverAll, takeOver, bind_eq_bind, quiet_bind, quiet_notes, done_bind, pure_eq_done,
      quiet_done, ih]
    rfl

theorem quiet_findAll :
    findAll.quiet = (Operation.request .listAccounts).bind fun records =>
      .done (records.map ofRecord) := by
  simp only [findAll, bind_eq_bind, quiet_bind, Operation.quiet_request .listAccounts,
    quiet_takeOverAll]

/-- Without filters the candidates are all accounts, and none of them is left out. -/
theorem quiet_find (hkeys : ∀ e ∈ filters, e.1 ∈ filterKeys) :
    (find context filters).quiet = (candidates context filters).quiet.bind fun records =>
      .done ((records.map ofRecord).filter fun a =>
        filters.admits "name" a.name && filters.admits "resource_group" a.group) := by
  have hcheck := Filters.checkKeys_eq_ok_iff.2 hkeys
  rw [find, hcheck]
  cases filters with
  | nil =>
    have hadmits (key text : String) : Filters.admits [] key text = true := rfl
    simp only [hadmits, Bool.and_self, List.filter_true]
    show findAll.quiet = (Operation.request .listAccounts).quiet.bind _
    rw [quiet_findAll, Operation.quiet_request .listAccounts]
  | cons e rest =>
    simp only [List.isEmpty_cons, Bool.false_eq_true, if_false, bind_eq_bind, quiet_bind,
      quiet_takeOverAll, quiet_note, done_bind, pure_eq_done, quiet_done, ofCheck]

/-- Whether the filters by id and group leave an entry of the store. -/
def selects (context : Context) (filters : Filters)
    (e : (String × String) × (String × DatabaseAccount)) : Bool :=
  match filters.get? "id", filters.get? "resource_group" with
  | some text, _ =>
    (ArmId.parse? text).any fun id =>
      id.isType armType && context.owns id && e.1 = Memory.accountKey id.group id.name
  | none, some group => Text.sameFolded e.2.1 group
  | none, none => true

/-- Filtered by an id, the only candidate is the account that it names, if the id is one of an account
of the subscription. -/
theorem candidates_of_id {text : String} (h : filters.get? "id" = some text) :
    candidates context filters =
      match (ArmId.parse? text).filter fun id => id.isType armType && context.owns id with
      | none => .done []
      | some id => (Operation.request (.getAccount id.group id.name)).bind fun record =>
          .done record.toList := by
  cases hparse : ArmId.parse? text with
  | none =>
    simp only [candidates, h, hparse]
    rfl
  | some id =>
    simp only [candidates, h, hparse, Option.filter_some]
    cases id.isType armType && context.owns id <;> rfl

/-- **The candidates are a selection from the store.** -/
theorem finds_candidates {α : Type} (hready : m.failing = []) (hd : m.accounts.Distinct)
    {f : List DatabaseAccount → α} {operation : Operation α}
    (hquiet : operation.quiet =
      (candidates context filters).quiet.bind fun records => .done (f records)) :
    Memory.Finds operation m (f ((m.accounts.filter (selects context filters)).map (·.2.2))) := by
  cases hid : filters.get? "id" with
  | some text =>
    rw [candidates_of_id hid] at hquiet
    cases howned : (ArmId.parse? text).filter fun id => id.isType armType && context.owns id with
    | none =>
      have hnone : m.accounts.filter (selects context filters) = [] := by
        refine List.filter_eq_nil_iff.2 fun e _ => ?_
        rw [Option.filter_eq_none_iff] at howned
        simp only [selects, hid, Option.any_eq_true, not_exists, not_and]
        exact fun id hparse h => howned id hparse (Bool.and_eq_true_iff.1 h).1
      rw [howned] at hquiet
      rw [hnone]
      exact Memory.finds_of_quiet_eq_done hquiet
    | some id =>
      obtain ⟨hparse, howns⟩ := Option.filter_eq_some_iff.1 howned
      have hselect : (m.accounts.filter (selects context filters)).map (·.2.2) =
          (m.account? id.group id.name).toList := by
        have hkey : selects context filters =
            fun e => decide (e.1 = Memory.accountKey id.group id.name) := by
          funext e
          simp only [selects, hid, hparse, Option.any_some, howns, Bool.true_and]
        rw [hkey, Dictionary.filter_key_eq hd, Memory.account?]
        cases m.accounts.get? (Memory.accountKey id.group id.name) <;> rfl
      rw [hselect]
      refine @Memory.finds_of_read _ operation m (.getAccount id.group id.name)
        (fun record => f record.toList) _ hready ?_ fun _ => rfl
      rw [hquiet, howned]
      dsimp only
      rw [quiet_bind, Operation.quiet_request (.getAccount id.group id.name), bind_assoc]
      rfl
  | none =>
    cases hgroup : filters.get? "resource_group" with
    | some group =>
      have hselects : selects context filters = fun e => Text.sameFolded e.2.1 group := by
        funext e
        simp only [selects, hid, hgroup]
      rw [hselects]
      refine @Memory.finds_of_read _ operation m (.listAccountsIn group) f _ hready ?_ fun _ => rfl
      rw [hquiet, ← Operation.quiet_request (.listAccountsIn group)]
      simp only [candidates, hid, hgroup]
    | none =>
      have hselects : selects context filters = fun _ => true := by
        funext e
        simp only [selects, hid, hgroup]
      rw [hselects, List.filter_true]
      refine @Memory.finds_of_read _ operation m .listAccounts f _ hready ?_ fun _ => rfl
      rw [hquiet, ← Operation.quiet_request .listAccounts]
      simp only [candidates, hid, hgroup]

/-- **The selection, narrowed by name and group, is what the filters match.** -/
theorem matches_iff (hm : m.Coherent) (hascii : m.OfAscii) (hvalues : ∀ e ∈ filters, Text.IsAscii e.2)
    {e : (String × String) × (String × DatabaseAccount)} (he : e ∈ m.accounts) :
    Provider.ManagedType.Matches .account context filters (ofRecord e.2.2) ↔
      (filters.admits "name" (ofRecord e.2.2).name = true ∧
        filters.admits "resource_group" (ofRecord e.2.2).group = true) ∧
      selects context filters e = true := by
  obtain ⟨identifier, id, hid, hparse, -, -, hgroup, hname, hkey⟩ := hm.accounts e he
  obtain ⟨hgiven, hasciiName⟩ := hascii.accounts e he
  have hownGroup : (ofRecord e.2.2).group = id.group := by
    simp [ofRecord, hydrate, hid, hparse]
  have hownName : (ofRecord e.2.2).name = id.name := by
    simp [ofRecord, hydrate, hname]
  -- Of ASCII, an id names the entry under whose key it leads.
  have hnamed {text : String} {id' : ArmId} (htext : Text.IsAscii text)
      (hparse' : ArmId.parse? text = some id') : e.1 = Memory.accountKey id'.group id'.name ↔
        Text.foldCase id'.group = Text.foldCase id.group ∧
          Text.foldCase id'.name = Text.foldCase id.name := by
    obtain ⟨hgroup', hname'⟩ := ArmId.isAscii_of_parse? htext hparse'
    rw [← hkey, Memory.accountKey, Memory.accountKey, Prod.mk.injEq,
      Text.lowercase_eq_iff (hgroup ▸ hgiven) hgroup', Text.lowercase_eq_iff (hasciiName _ hname) hname']
    exact and_congr eq_comm eq_comm
  rw [Filters.admits_iff, Filters.admits_iff]
  constructor
  · intro h
    refine ⟨⟨h.name, h.group⟩, ?_⟩
    unfold selects
    cases hgetId : filters.get? "id" with
    | some text =>
      obtain ⟨id', hparse', hnames, hsub, hsame⟩ := h.id text hgetId
      have howns : context.owns id' = true := Text.sameFolded_iff.2 hsub
      have hkey' := (hnamed (hvalues _ (Dictionary.mem_of_get? hgetId)) hparse').2
        ⟨hsame.1.trans (by rw [← hownGroup]; rfl), hsame.2.trans (by rw [← hownName]; rfl)⟩
      have htype : id'.isType armType = true := hnames
      simp [show ArmId.parse? text = some id' from hparse', htype, howns, hkey']
    | none =>
      cases hgetGroup : filters.get? "resource_group" with
      | some group =>
        have hsame : Text.foldCase (ofRecord e.2.2).group = Text.foldCase group :=
          h.group group hgetGroup
        exact Text.sameFolded_iff.2 (by rw [← hsame, hownGroup, hgroup])
      | none => rfl
  · rintro ⟨⟨hadmitsName, hadmitsGroup⟩, hselects⟩
    refine ⟨hadmitsName, hadmitsGroup, fun text hgetId => ?_⟩
    have hgetId : filters.get? "id" = some text := hgetId
    simp only [selects, hgetId, Option.any_eq_true, Bool.and_eq_true, decide_eq_true_eq] at hselects
    obtain ⟨id', hparse', ⟨htype, howns⟩, hkey'⟩ := hselects
    obtain ⟨hsameGroup, hsameName⟩ :=
      (hnamed (hvalues _ (Dictionary.mem_of_get? hgetId)) hparse').1 hkey'
    exact ⟨id', hparse', htype, Text.sameFolded_iff.1 howns, hsameGroup.trans (by rw [← hownGroup]; rfl),
      hsameName.trans (by rw [← hownName]; rfl)⟩

/-- An id selects one account at most. -/
theorem length_filter_selects_le_one (hd : m.accounts.Distinct) {text : String}
    (hid : filters.get? "id" = some text) :
    (m.accounts.filter (selects context filters)).length ≤ 1 := by
  refine Dictionary.length_filter_le_one hd
    (k := (ArmId.parse? text).elim ("", "") fun id => Memory.accountKey id.group id.name) fun e h => ?_
  simp only [selects, hid, Option.any_eq_true, Bool.and_eq_true, decide_eq_true_eq] at h
  obtain ⟨id, hparse, -, hkey⟩ := h
  rw [hparse]
  exact hkey

end Account

namespace Group

variable {context : Context} {filters : Filters} {m : Memory}

theorem quiet_findAll :
    findAll.quiet = (Operation.request .listGroups).bind fun records =>
      .done (records.map ofRecord) := by
  simp only [findAll, bind_eq_bind, quiet_bind, Operation.quiet_request .listGroups]
  rfl

theorem quiet_findNamed (name : String) :
    (findNamed name).quiet = (Operation.request (.getGroup name)).bind fun record =>
      .done (record.toList.map ofRecord) := by
  simp only [findNamed, bind_eq_bind, quiet_bind, Operation.quiet_request (.getGroup name)]
  rfl

/-- Whether the filters leave an entry of the store. -/
def selects (context : Context) (filters : Filters) (e : String × ResourceGroup) : Bool :=
  match filters.get? "id", filters.get? "name" with
  | some text, _ =>
    (ArmId.parse? text).any fun id =>
      id.member?.isNone && context.owns id && filters.admits "name" id.group &&
        e.1 = Memory.groupKey id.group
  | none, some name => e.1 = Memory.groupKey name
  | none, none => true

/-- Filtered by an id, only the group that it names can be found, if the id is one of a group of the
subscription, and of the name that is asked for. -/
theorem quiet_find_of_id {text : String} (hkeys : ∀ e ∈ filters, e.1 ∈ filterKeys)
    (h : filters.get? "id" = some text) :
    (find context filters).quiet =
      match (ArmId.parse? text).filter fun id =>
        id.member?.isNone && context.owns id && filters.admits "name" id.group with
      | none => .done []
      | some id => (findNamed id.group).quiet := by
  have hcheck := Filters.checkKeys_eq_ok_iff.2 hkeys
  cases hparse : ArmId.parse? text with
  | none =>
    simp only [find, hcheck, h, hparse]
    rfl
  | some id =>
    simp only [find, hcheck, h, hparse, Option.filter_some]
    cases id.member?.isNone && context.owns id && filters.admits "name" id.group <;> rfl

/-- The group of a name is the selection of the entry under its key. -/
theorem finds_named (hready : m.failing = []) (hd : m.groups.Distinct) {name : String}
    {operation : Operation (List Group)} (hquiet : operation.quiet = (findNamed name).quiet)
    {select : String × ResourceGroup → Bool}
    (hselect : select = fun e => decide (e.1 = Memory.groupKey name)) :
    Memory.Finds operation m ((m.groups.filter select).map fun e => ofRecord e.2) := by
  have hentry : ((m.groups.filter select).map fun e => ofRecord e.2) =
      (m.group? name).toList.map ofRecord := by
    rw [hselect, Dictionary.filter_key_eq hd, Memory.group?]
    cases m.groups.get? (Memory.groupKey name) <;> rfl
  rw [hentry]
  exact @Memory.finds_of_read _ operation m (.getGroup name) (fun record => record.toList.map ofRecord)
    _ hready (hquiet.trans (quiet_findNamed name)) fun _ => rfl

/-- **What is found is a selection from the store.** -/
theorem finds_find (hready : m.failing = []) (hd : m.groups.Distinct)
    (hkeys : ∀ e ∈ filters, e.1 ∈ filterKeys) :
    Memory.Finds (find context filters) m
      ((m.groups.filter (selects context filters)).map fun e => ofRecord e.2) := by
  cases hid : filters.get? "id" with
  | some text =>
    have hquiet := @quiet_find_of_id context _ _ hkeys hid
    cases howned : (ArmId.parse? text).filter fun id =>
        id.member?.isNone && context.owns id && filters.admits "name" id.group with
    | none =>
      have hnone : m.groups.filter (selects context filters) = [] := by
        refine List.filter_eq_nil_iff.2 fun e _ => ?_
        rw [Option.filter_eq_none_iff] at howned
        simp only [selects, hid, Option.any_eq_true, not_exists, not_and]
        exact fun id hparse h => howned id hparse (Bool.and_eq_true_iff.1 h).1
      rw [howned] at hquiet
      rw [hnone]
      exact Memory.finds_of_quiet_eq_done hquiet
    | some id =>
      obtain ⟨hparse, howns⟩ := Option.filter_eq_some_iff.1 howned
      rw [howned] at hquiet
      refine finds_named hready hd hquiet (funext fun e => ?_)
      simp only [selects, hid, hparse, Option.any_some, howns, Bool.true_and]
  | none =>
    have hcheck := Filters.checkKeys_eq_ok_iff.2 hkeys
    cases hname : filters.get? "name" with
    | some name =>
      refine @finds_named _ hready hd name _ ?_ _ (funext fun e => ?_)
      · simp only [find, hcheck, hid, hname]
        rfl
      · simp only [selects, hid, hname]
    | none =>
      have hselects : selects context filters = fun _ => true := by
        funext e
        simp only [selects, hid, hname]
      rw [hselects, List.filter_true]
      have hquiet : (find context filters).quiet = findAll.quiet := by
        simp only [find, hcheck, hid, hname]
        rfl
      have hfinds := @Memory.finds_of_read _ (find context filters) m .listGroups
        (fun records => records.map ofRecord) (m.groups.map (·.2)) hready
        (hquiet.trans quiet_findAll) fun _ => rfl
      rwa [List.map_map] at hfinds

/-- **The selection is what the filters match.** -/
theorem matches_iff (hm : m.Coherent) (hascii : m.OfAscii) (hvalues : ∀ e ∈ filters, Text.IsAscii e.2)
    (hkeys : ∀ e ∈ filters, e.1 ∈ filterKeys) {e : String × ResourceGroup} (he : e ∈ m.groups) :
    Provider.ManagedType.Matches .group context filters (ofRecord e.2) ↔
      selects context filters e = true := by
  obtain ⟨identifier, id, -, -, -, -, hname, hkey⟩ := hm.groups e he
  have hasciiName := hascii.groups e he _ hname
  have hownName : (ofRecord e.2).name = id.group := by
    simp [ofRecord, hydrate, hname]
  -- Of ASCII, a name leads to the entry under its key.
  have hnamed {name : String} (h : Text.IsAscii name) : e.1 = Memory.groupKey name ↔
      Text.foldCase (ofRecord e.2).name = Text.foldCase name := by
    rw [← hkey, hownName, Memory.groupKey, Memory.groupKey, Text.lowercase_eq_iff hasciiName h]
  have hnone : filters.get? "resource_group" = none :=
    Filters.get?_eq_none_of_allowed hkeys (by decide)
  cases hgetId : filters.get? "id" with
  | some text =>
    have htext := hvalues _ (Dictionary.mem_of_get? hgetId)
    simp only [selects, hgetId, Option.any_eq_true, Bool.and_eq_true, decide_eq_true_eq,
      Filters.admits_iff]
    constructor
    · intro h
      obtain ⟨id', hparse', hnames, hsub, hsame, -⟩ := h.id text hgetId
      have hsame : Text.foldCase id'.group = Text.foldCase (ofRecord e.2).name := hsame
      refine ⟨id', hparse', ⟨⟨hnames, Text.sameFolded_iff.2 hsub⟩, fun value hvalue => ?_⟩,
        (hnamed (ArmId.isAscii_of_parse? htext hparse').1).2 hsame.symm⟩
      exact hsame.trans (h.name value hvalue)
    · rintro ⟨id', hparse', ⟨⟨hmember, howns⟩, hadmits⟩, hkey'⟩
      have hsame := (hnamed (ArmId.isAscii_of_parse? htext hparse').1).1 hkey'
      refine ⟨fun value hvalue => hsame.trans (hadmits value hvalue), by simp [hnone], fun value hvalue => ?_⟩
      obtain rfl := Option.some.inj (hgetId.symm.trans hvalue)
      have hnameId : id'.name = id'.group := by
        rw [ArmId.name, Option.isNone_iff_eq_none.1 hmember]
      exact ⟨id', hparse', hmember, Text.sameFolded_iff.1 howns, hsame.symm, hnameId ▸ hsame.symm⟩
  | none =>
    cases hgetName : filters.get? "name" with
    | some name =>
      simp only [selects, hgetId, hgetName, decide_eq_true_eq,
        hnamed (hvalues _ (Dictionary.mem_of_get? hgetName))]
      refine ⟨fun h => h.name name hgetName, fun h => ⟨fun value hvalue => ?_, by simp [hnone], by simp [hgetId]⟩⟩
      obtain rfl := Option.some.inj (hgetName.symm.trans hvalue)
      exact h
    | none =>
      simp only [selects, hgetId, hgetName, iff_true]
      exact ⟨by simp [hgetName], by simp [hnone], by simp [hgetId]⟩

/-- An id selects one group at most. -/
theorem length_filter_selects_le_one (hd : m.groups.Distinct) {text : String}
    (hid : filters.get? "id" = some text) :
    (m.groups.filter (selects context filters)).length ≤ 1 := by
  refine Dictionary.length_filter_le_one hd
    (k := (ArmId.parse? text).elim "" fun id => Memory.groupKey id.group) fun e h => ?_
  simp only [selects, hid, Option.any_eq_true, Bool.and_eq_true, decide_eq_true_eq] at h
  obtain ⟨id, hparse, -, hkey⟩ := h
  rw [hparse]
  exact hkey

end Group

namespace Provider

variable {type : ManagedType} {context : Context} {filters : Filters} {m : Memory}

theorem finds_findAll (hready : m.failing = []) :
    Memory.Finds type.findAll m ((type.objects m).map type.ofWire) := by
  cases type with
  | account =>
    exact @Memory.finds_of_read _ Account.findAll m .listAccounts (fun records => records.map .ofRecord)
      _ hready Account.quiet_findAll fun _ => rfl
  | group =>
    exact @Memory.finds_of_read _ Group.findAll m .listGroups (fun records => records.map .ofRecord)
      _ hready Group.quiet_findAll fun _ => rfl

/-- A query finds what matches its filters; by an id, that is one object at most. -/
theorem finds_find (hm : m.Coherent) (hd : m.KeysDistinct) (hascii : m.OfAscii)
    (hready : m.failing = []) (hkeys : ∀ e ∈ filters, e.1 ∈ type.filterKeys)
    (hvalues : ∀ e ∈ filters, Text.IsAscii e.2) :
    let found := ((type.objects m).map type.ofWire).filter fun record =>
      type.Matches context filters record
    Memory.Finds (type.find context filters) m found ∧
      ∀ text, filters.get? "id" = some text → found.length ≤ 1 := by
  suffices h : ∃ found, Memory.Finds (type.find context filters) m found ∧
      found = ((type.objects m).map type.ofWire).filter
        (fun record => type.Matches context filters record) ∧
      ∀ text, filters.get? "id" = some text → found.length ≤ 1 by
    obtain ⟨found, hfinds, rfl, hone⟩ := h
    exact ⟨hfinds, hone⟩
  cases type with
  | account =>
    refine ⟨_, Account.finds_candidates hready hd.accounts (Account.quiet_find hkeys), ?_,
      fun text hid => ?_⟩
    · show _ = ((m.accounts.map (·.2.2)).map Account.ofRecord).filter _
      simp only [List.map_map, List.filter_map, List.filter_filter]
      refine congrArg _ (List.filter_congr fun e he => ?_)
      simp only [Function.comp_apply]
      rw [Bool.eq_iff_iff, decide_eq_true_iff, Account.matches_iff hm hascii hvalues he,
        Bool.and_eq_true, Bool.and_eq_true]
    · refine (List.length_filter_le _ _).trans ?_
      rw [List.length_map, List.length_map]
      exact Account.length_filter_selects_le_one hd.accounts hid
  | group =>
    refine ⟨_, Group.finds_find hready hd.groups hkeys, ?_, fun text hid => ?_⟩
    · show _ = ((m.groups.map (·.2)).map Group.ofRecord).filter _
      simp only [List.map_map, List.filter_map]
      refine congrArg _ (List.filter_congr fun e he => ?_)
      simp only [Function.comp_apply]
      rw [Bool.eq_iff_iff, decide_eq_true_iff, Group.matches_iff hm hascii hvalues hkeys he]
    · rw [List.length_map]
      exact Group.length_filter_selects_le_one hd.groups hid

/-- A query by a key that is not one of the type is refused before any call. -/
theorem find_refuses_key (h : ∃ e ∈ filters, e.1 ∉ type.filterKeys) (m : Memory) :
    ∃ e ∈ filters, e.1 ∉ type.filterKeys ∧
      let ran := Memory.run (type.find context filters) m
      ran.outcome = .failed (.ofConfiguration (.invalidValue "filter" e.1 type.filterKeys)) ∧
        ran.asked = [] ∧ ran.state = m := by
  obtain ⟨e, he, hnot, hcheck⟩ := Filters.checkKeys_eq_error h
  have hquiet : (type.find context filters).quiet =
      .fail (.ofConfiguration (.invalidValue "filter" e.1 type.filterKeys)) := by
    cases type with
    | account =>
      show (Account.find context filters).quiet = _
      rw [Account.find, show filters.checkKeys Account.filterKeys = _ from hcheck]
      rfl
    | group =>
      show (Group.find context filters).quiet = _
      rw [Group.find, show filters.checkKeys Group.filterKeys = _ from hcheck]
      rfl
  obtain ⟨houtcome, hasked⟩ := run_of_quiet_eq_fail Memory.answer m hquiet
  exact ⟨e, he, hnot, houtcome, hasked, run_state_of_asked_eq_nil Memory.answer hasked⟩

/-- **A query finds the records that match its filters.** In a coherent store with names and values of
ASCII it is as if the list of all records had been gone through, whatever filters are combined: what
is found is what the list holds that matches every filter, each record as often and in the same
order, and by an id that is one record at most. A key that the type does not have is refused before
any call. The store stays as it is. -/
theorem finds_matching_records (type : ManagedType) (context : Context) (filters : Filters) (m : Memory)
    (hm : m.Coherent) (hd : m.KeysDistinct) (hascii : m.OfAscii) (hready : m.failing = [])
    (hvalues : ∀ e ∈ filters, Text.IsAscii e.2) :
    let all := (type.objects m).map type.ofWire
    let found := all.filter fun record => type.Matches context filters record
    Memory.Finds type.findAll m all ∧
      ((∀ e ∈ filters, e.1 ∈ type.filterKeys) → Memory.Finds (type.find context filters) m found ∧
        ∀ text, filters.get? "id" = some text → found.length ≤ 1) ∧
      ((∃ e ∈ filters, e.1 ∉ type.filterKeys) →
        ∃ e ∈ filters, e.1 ∉ type.filterKeys ∧
          let ran := Memory.run (type.find context filters) m
          ran.outcome = .failed (.ofConfiguration (.invalidValue "filter" e.1 type.filterKeys)) ∧
            ran.asked = [] ∧ ran.state = m) :=
  ⟨finds_findAll hready, fun hkeys => finds_find hm hd hascii hready hkeys hvalues,
    fun hkey => find_refuses_key hkey m⟩

/-- Two accounts of one name in two groups. A query by the name and one of the groups finds the account
of that group, a query by its id and the other group finds nothing, and one by the region is
refused. -/
theorem finds_matching_records_narrowed :
    let context : Context := ⟨"sub", "eastus"⟩
    let m := (Memory.seedAccount {} "RG" { name := some "Orders" }).seedAccount "other"
      { name := some "orders" }
    let named : Filters := [("name", "ORDERS"), ("resource_group", "rg")]
    let crossed : Filters := [("id", Memory.accountId "rg" "orders"), ("resource_group", "other")]
    (m.Coherent ∧ m.KeysDistinct ∧ m.OfAscii ∧ m.failing = [] ∧
      (∀ e ∈ named, Text.IsAscii e.2) ∧ ∀ e ∈ crossed, Text.IsAscii e.2) ∧
    (∃ found, Memory.Finds (Account.find context named) m found ∧
      found.map (fun a => (a.group, a.name)) = [("RG", "Orders")]) ∧
    Memory.Finds (Account.find context crossed) m [] ∧
    (Memory.run (Account.find context [("location", "eastus")]) m).asked = [] := by
  intro context m named crossed
  have hm : m.Coherent := (Memory.coherent_empty.step
    (@Memory.Step.seed _ "RG" "Orders" _ ⟨by decide, by decide⟩ ⟨by decide, by decide⟩ rfl rfl)).step
      (@Memory.Step.seed _ "other" "orders" _ ⟨by decide, by decide⟩ ⟨by decide, by decide⟩ rfl rfl)
  have hd : m.KeysDistinct := ⟨by decide +kernel, by decide +kernel⟩
  have hascii : m.OfAscii := ⟨by decide +kernel, by decide +kernel⟩
  have hnamed : ∀ e ∈ named, Text.IsAscii e.2 := by decide +kernel
  have hcrossed : ∀ e ∈ crossed, Text.IsAscii e.2 := by decide +kernel
  refine ⟨⟨hm, hd, hascii, rfl, hnamed, hcrossed⟩, ?_, ?_, ?_⟩
  · obtain ⟨-, hfind, -⟩ := finds_matching_records .account context named m hm hd hascii rfl hnamed
    exact ⟨_, (hfind (by decide)).1, by decide +kernel⟩
  · obtain ⟨-, hfind, -⟩ := finds_matching_records .account context crossed m hm hd hascii rfl hcrossed
    have hnone : (((ManagedType.account.objects m).map ManagedType.account.ofWire).filter fun record =>
        ManagedType.account.Matches context crossed record) = [] := by decide +kernel
    exact hnone ▸ (hfind (by decide)).1
  · obtain ⟨-, -, hrefuse⟩ :=
      finds_matching_records .account context [("location", "eastus")] m hm hd hascii rfl (by decide)
    obtain ⟨e, -, -, -, hasked, -⟩ := hrefuse ⟨_, List.mem_singleton_self _, by decide⟩
    exact hasked

end Provider
end AzureProvisioning
