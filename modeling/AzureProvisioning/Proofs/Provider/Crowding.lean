/-
# Accounts with more regions than priorities

A declaration may name more regions than there are priorities. The account is created in all of them,
but it is read with another order of its read regions than declared (`Account.InOrder.split_iff`). So an
update finds a difference, writes the declared order, and leaves the account as it was: each update
succeeds, and the next one writes again (`update_never_settles`). With no more regions than priorities a
created account is in its declared state at once.
-/

import AzureProvisioning.Proofs.Provider.Recovery
import AzureProvisioning.Proofs.Provider.Stranding
import AzureProvisioning.Proofs.Schema.Conformance

namespace AzureProvisioning
namespace Account

open Memory Provider

/-- The service has the account as `stored`, in the declared regions, and there are more of them than
priorities. -/
structure Crowded (declared : Resource) (desired : Account) (group name : String)
    (kind : AccountKind) (policy : ConsistencyPolicy) (write : String)
    (base stored : DatabaseAccount) : Prop where
  redeclared : Redeclared declared desired (write :: desired.readRegions) group name kind policy write
  created : Base base group name kind
  usable : Usable (write :: desired.readRegions)
  alike : Alike base stored
  arranged : Arranged stored (write :: desired.readRegions)
  many : priorityLimit < (write :: desired.readRegions).length

namespace Crowded

variable {declared : Resource} {desired : Account} {group name given : String} {kind : AccountKind}
  {policy : ConsistencyPolicy} {write : String} {base stored : DatabaseAccount}

theorem halfway (h : Crowded declared desired group name kind policy write base stored) :
    Halfway base (write :: desired.readRegions) stored :=
  ⟨h.alike, _, h.arranged, List.Subset.refl _⟩

theorem readRegions_ne (h : Crowded declared desired group name kind policy write base stored)
    (before : Account) : (before.hydrate stored).readRegions ≠ desired.readRegions := by
  intro hreads
  obtain ⟨hwrite, -⟩ := perm_hydrate_regions before h.arranged h.usable.normal
  have hsplit : splitLocations stored.properties.locations = (some write, desired.readRegions) :=
    Prod.ext hwrite hreads
  exact Nat.not_le_of_lt h.many
    ((h.arranged.inOrder.split_iff h.arranged.nodup h.usable.normal).1 hsplit)

/-- It does not agree with the declaration in its read regions. -/
theorem agrees_eq_false (h : Crowded declared desired group name kind policy write base stored)
    (before : Account) :
    Plan.agrees (before.hydrate stored).toAttributes "read_regions"
      (.ofStrings desired.readRegions) = false := by
  rw [Plan.agrees, get?_toAttributes]
  refine Bool.eq_false_iff.2 fun hsame => h.readRegions_ne before ?_
  exact Value.ofStrings_injective (Value.eq_of_same_ofStrings hsame)

/-- So an update finds something to write. -/
theorem changed_ne_nil (h : Crowded declared desired group name kind policy write base stored)
    (before : Account) {names : List String}
    (hnames : Plan.changed schema desired.toAttributes (before.hydrate stored).toAttributes =
      .ok names) : names ≠ [] := by
  rintro rfl
  have hmem : ("read_regions", Value.ofStrings desired.readRegions) ∈
      schema.withDefaults desired.toAttributes := by
    rw [withDefaults_toAttributes]
    exact Attributes.mem_ofSet.2 (by simp [fields, declaredFields])
  have hcompares : Plan.compares schema "read_regions" = true := by decide +kernel
  have hagrees := Plan.changed_eq_nil_iff.1 hnames _ hmem hcompares
  rw [h.agrees_eq_false] at hagrees
  cases hagrees

/-- What an update makes of the account is as crowded. -/
theorem converged (h : Crowded declared desired group name kind policy write base stored) :
    Crowded declared desired group name kind policy write base
      (converged stored desired policy write) where
  redeclared := h.redeclared
  created := h.created
  usable := h.usable
  alike := (h.alike.patched _).withRegions _
  arranged := arranged_withRegions _ h.arranged.nodup (by simp)
  many := h.many

variable {m : Memory} {context : Context} {id : ResourceId}
  {accounts : Dictionary (String × String) (String × DatabaseAccount)}
  {groups : Dictionary String ResourceGroup}

/-- The changes of an update write the declared regions again. -/
theorem run_update {names : List String}
    (h : Crowded declared desired group name kind policy write base stored)
    (hcontext : context.subscription = subscription) (hm : m.Holds accounts groups)
    (hget : accounts.get? (accountKey group name) = some (given, stored))
    (hnames : Plan.changed schema desired.toAttributes
      ((addressedAt group name).hydrate stored).toAttributes = .ok names) :
    let ran := Memory.run (desired.update context
      ((addressedAt group name).hydrate stored).withoutIdleBounds names) m
    ran.outcome = .done () ∧
      ran.state.Holds (accounts.insert (accountKey group name)
        (given, Account.converged stored desired policy write)) groups ∧
      ∃ c ∈ ran.asked, c.isMutating = true := by
  intro ran
  obtain ⟨former, hr⟩ := h.halfway.refreshed h.created h.usable
  have hreads := (ofAttributes_eq_ok_iff.1 h.redeclared.decoded).readRegions_nodup
  obtain ⟨⟨d, -, hlast, hholds⟩, hall⟩ := hr.runUnder_update [] hcontext h.created h.halfway hm hget
    h.redeclared.valid hreads h.redeclared.within hnames (h.changed_ne_nil _ hnames)
  rw [runUnder_nil] at hlast hholds hall
  obtain ⟨hdone, hasked⟩ := hall (by simp)
  obtain rfl := hlast hdone
  have hpatch : (Change.patch (desired.propertyUpdate policy)).call group name ∈ ran.asked := by
    rw [show ran.asked = _ from hasked]
    exact List.mem_map_of_mem (List.mem_append_right _ List.mem_cons_self)
  exact ⟨hdone, hholds, _, hpatch, rfl⟩

/-- **An update from what is reported of the account** to its declaration succeeds and writes. It leaves
the account as crowded as before. -/
theorem run_updateAs (h : Crowded declared desired group name kind policy write base stored)
    (hcontext : context.subscription = subscription) (hm : m.Holds accounts groups)
    (hget : accounts.get? (accountKey group name) = some (given, stored)) :
    let next := Account.converged stored desired policy write
    let ran := Memory.run (updateAs Account context id (accountId group name)
      (reported id ((addressedAt group name).hydrate stored)) declared) m
    ran.outcome = .done (reported id ((addressedAt group name).hydrate next)) ∧
      ran.state.Holds (accounts.insert (accountKey group name) (given, next)) groups ∧
      ∃ c ∈ ran.asked, c.isMutating = true := by
  intro next ran
  obtain ⟨names, hnames, hview⟩ :=
    h.redeclared.view groups hcontext h.created h.usable h.halfway hget id
  obtain ⟨hdone, hholds, c, hc, hmutating⟩ := h.run_update hcontext hm hget hnames
  -- the read at the end finds what has been written
  obtain ⟨hread, -, hafter⟩ := run_readAs id (reads_of_stored hcontext h.created.validName
    h.created.validGroup h.created.slash (Dictionary.get?_insert_self _ _ _)) hholds
  have hran : ran = _ :=
    run_updateAs_of_changed context id m hview.prepared (h.changed_ne_nil _ hnames)
  rw [managed_update, Ran.andThen_of_done hdone] at hran
  rw [hran]
  dsimp only
  exact ⟨hread, hafter, c, List.mem_append_left _ hc, hmutating⟩

end Crowded
end Account

namespace Provider

open Memory

/-- The caller's state and the service after requests that have succeeded: reads of the resource, and
updates from the last state to the declaration. -/
inductive Requests (context : Context) (identifier : String) (declared : Resource) (s : State)
    (m : Memory) : State → Memory → Prop
  | none : Requests context identifier declared s m s m
  | read {last found : State} {before : Memory}
      (earlier : Requests context identifier declared s m last before)
      (done : (Memory.run (read context declared.id (some identifier)) before).outcome = .done found) :
      Requests context identifier declared s m found
        (Memory.run (read context declared.id (some identifier)) before).state
  | update {last updated : State} {before : Memory}
      (earlier : Requests context identifier declared s m last before)
      (done : (Memory.run (update context declared.id identifier last declared) before).outcome =
        .done updated) :
      Requests context identifier declared s m updated
        (Memory.run (update context declared.id identifier last declared) before).state

/-- The service has a crowded account, and `s` is what is reported of it. -/
def HoldsCrowded (declared : Resource) (desired : Account) (group name : String) (kind : AccountKind)
    (policy : ConsistencyPolicy) (write : String) (base : DatabaseAccount) (s : State) (m : Memory) :
    Prop :=
  ∃ given stored accounts groups,
    Account.Crowded declared desired group name kind policy write base stored ∧
      m.Holds accounts groups ∧ accounts.get? (accountKey group name) = some (given, stored) ∧
      s = reported declared.id ((Account.addressedAt group name).hydrate stored)

section Crowded

variable {m : Memory} {context : Context} {declared : Resource} {desired : Account}
  {group name : String} {kind : AccountKind} {policy : ConsistencyPolicy} {write : String}
  {base : DatabaseAccount} {s : State}

/-- A read reports the crowded account again. -/
theorem HoldsCrowded.read (h : HoldsCrowded declared desired group name kind policy write base s m)
    (hcontext : context.subscription = subscription)
    (ht : ManagedType.ofName? declared.id.type = some .account) :
    let ran := Memory.run (read context declared.id (some (accountId group name))) m
    ran.outcome = .done s ∧
      HoldsCrowded declared desired group name kind policy write base s ran.state := by
  obtain ⟨given, stored, accounts, groups, hcrowded, hm, hget, rfl⟩ := h
  obtain ⟨hdone, -, hafter⟩ := run_readAs declared.id (Account.reads_of_stored hcontext
    hcrowded.created.validName hcrowded.created.validGroup hcrowded.created.slash hget) hm
  have hran : Memory.run (Provider.read context declared.id (some (accountId group name))) m = _ :=
    run_dispatch_done ht hdone
  intro ran
  rw [show ran = _ from hran]
  exact ⟨hdone, given, stored, accounts, groups, hcrowded, hafter, hget, rfl⟩

/-- An update writes, and reports a crowded account again. -/
theorem HoldsCrowded.update (h : HoldsCrowded declared desired group name kind policy write base s m)
    (hcontext : context.subscription = subscription)
    (ht : ManagedType.ofName? declared.id.type = some .account) :
    let ran := Memory.run (update context declared.id (accountId group name) s declared) m
    (∃ updated, ran.outcome = .done updated ∧
      HoldsCrowded declared desired group name kind policy write base updated ran.state) ∧
      ∃ c ∈ ran.asked, c.isMutating = true := by
  obtain ⟨given, stored, accounts, groups, hcrowded, hm, hget, rfl⟩ := h
  obtain ⟨hdone, hholds, hwrites⟩ := hcrowded.run_updateAs hcontext hm hget
  have hran : Memory.run (Provider.update context declared.id (accountId group name) _ declared) m = _ :=
    run_dispatch_done ht hdone
  intro ran
  rw [show ran = _ from hran]
  exact ⟨⟨_, hdone, given, _, _, groups, hcrowded.converged, hholds,
    Dictionary.get?_insert_self _ _ _, rfl⟩, hwrites⟩

/-- **Requests keep the account crowded.** -/
theorem HoldsCrowded.of_requests {s' : State} {m' : Memory}
    (h : HoldsCrowded declared desired group name kind policy write base s m)
    (hcontext : context.subscription = subscription)
    (ht : ManagedType.ofName? declared.id.type = some .account)
    (hrequests : Requests context (accountId group name) declared s m s' m') :
    HoldsCrowded declared desired group name kind policy write base s' m' := by
  induction hrequests with
  | none => exact h
  | read _ done ih =>
    obtain ⟨hdone, hafter⟩ := ih.read hcontext ht
    exact Outcome.done.inj (hdone.symm.trans done) ▸ hafter
  | update _ done ih =>
    obtain ⟨⟨updated, hdone, hafter⟩, -⟩ := ih.update hcontext ht
    exact Outcome.done.inj (hdone.symm.trans done) ▸ hafter

end Crowded

/-- A created account with more regions than priorities is crowded. -/
theorem holdsCrowded_of_created {m after : Memory} {context : Context} {resource : Resource} {s : State}
    {desired : Account} {kind : AccountKind} {policy : ConsistencyPolicy} {write : String}
    (h : Account.Created context resource m after s desired kind policy write)
    (hw : resource.attributes.WellFormed) (hnamed : NamesRegions .account resource.attributes)
    (hmany : Account.priorityLimit < desired.regions.length) :
    HoldsCrowded resource desired desired.group desired.name kind policy write
      (Account.storedFor desired context kind policy write) s after := by
  have hdecodes := Account.ofAttributes_eq_ok_iff.1 h.decoded
  have hnormal := hnamed.regions hdecodes h.valid.writeRegion
  have hcrowded : Account.Crowded resource desired desired.group desired.name kind policy write
      (Account.storedFor desired context kind policy write)
      (Account.storedFor desired context kind policy write) := by
    constructor
    case redeclared =>
      exact ⟨h.check, h.decoded, hw, rfl, rfl, h.declaredKind, h.validated, List.Subset.refl _⟩
    case created => exact h.base
    case usable => exact ⟨fun r hr => (hnormal r hr).1, fun r hr => (hnormal r hr).2⟩
    case alike => exact .refl _
    case arranged =>
      exact ⟨Account.inOrder_prioritized _, h.valid.nodup hdecodes.readRegions_nodup, by simp⟩
    case many => exact h.valid.regions_eq ▸ hmany
  exact ⟨_, _, _, _, hcrowded, h.holds, Dictionary.get?_insert_self _ _ _, h.state⟩

/-- **A resource with more regions than priorities never settles.** It is created, and then it is only
read, and updated to the same declaration from what has been reported last. Whenever that is, a read
reports the same state again, an attribute of it is not as declared, and the next update succeeds and
writes. -/
theorem update_never_settles {t : ManagedType} {m m' : Memory} {context : Context}
    {resource : Resource} {desired : t.Record} {s s' : State} {identifier : String}
    (hready : m.failing = []) (hcontext : context.subscription = subscription)
    (ht : ManagedType.ofName? resource.id.type = some t)
    (hcreated : (Memory.run (create context resource) m).outcome = .done s)
    (hidentifier : s.identifier = some identifier) (hw : resource.attributes.WellFormed)
    (hnamed : NamesRegions t resource.attributes)
    (hdecoded : Managed.ofAttributes resource.attributes = .ok desired)
    (hmany : Account.priorityLimit < (t.regions desired).length)
    (hrequests : Requests context identifier resource s
      (Memory.run (create context resource) m).state s' m') :
    let ran := Memory.run (update context resource.id identifier s' resource) m'
    (Memory.run (read context resource.id (some identifier)) m').outcome = .done s' ∧
      (∃ e ∈ Managed.toAttributes desired, Plan.agrees s'.attributes e.1 e.2 = false) ∧
      (∃ updated, ran.outcome = .done updated) ∧ ∃ c ∈ ran.asked, c.isMutating = true := by
  intro ran
  obtain ⟨t', ht', hdone⟩ := exists_type_of_done hcreated
  obtain rfl : t = t' := Option.some.inj (ht.symm.trans ht')
  have hsame : Memory.run (create context resource) m =
      Memory.run (createAs t.Record context resource) m := run_dispatch_done ht hdone
  rw [hsame] at hrequests
  cases t with
  | group =>
    -- a group has one region at most
    have hone : (ManagedType.group.regions desired).length ≤ 1 := Option.length_toList_le
    exact absurd (Nat.lt_of_lt_of_le hmany hone) (by decide)
  | account =>
    obtain ⟨original, kind, policy, write, hc⟩ := Account.created_of_done hcontext hready hdone
    obtain rfl : original = desired := Except.ok.inj (hc.decoded.symm.trans hdecoded)
    obtain rfl : accountId original.group original.name = identifier :=
      Option.some.inj (hc.identified.symm.trans hidentifier)
    have hholds := (holdsCrowded_of_created hc hw hnamed hmany).of_requests hcontext ht hrequests
    obtain ⟨hread, -⟩ := hholds.read hcontext ht
    obtain ⟨⟨updated, hupdated, -⟩, hwrites⟩ := hholds.update hcontext ht
    obtain ⟨given, stored, accounts, groups, hcrowded, -, -, rfl⟩ := hholds
    exact ⟨hread, ⟨("read_regions", .ofStrings original.readRegions),
      Attributes.mem_ofSet.2 (by simp [Account.fields, Account.declaredFields]),
      hcrowded.agrees_eq_false _⟩, ⟨updated, hupdated⟩, hwrites⟩

section Numbered

/-- Numbers are told by their decimal forms. -/
theorem repr_injective : Function.Injective Nat.repr := by
  intro n k h
  have hdigits : Nat.toDigits 10 n = Nat.toDigits 10 k := by
    rw [← Nat.toList_repr, h, Nat.toList_repr]
  rw [← Nat.ofDigitChars_ten_toDigits (n := n), hdigits, Nat.ofDigitChars_ten_toDigits]

/-- Decimal numbers are regions in programmatic form. -/
theorem normalize_repr (n : ℕ) : Region.normalize n.repr = n.repr := by
  have hdigits : ∀ k : Fin 58, 48 ≤ k.val → Region.settled (Char.ofNat k) = true := by decide +kernel
  have hsettled : Region.normalizeChars n.repr.toList = n.repr.toList := by
    refine Region.normalizeChars_of_settled fun c hc => ?_
    rw [Nat.toList_repr] at hc
    have hdigit := Nat.isDigit_of_mem_toDigits (by decide) (by decide) hc
    simp only [Char.isDigit, Bool.and_eq_true, decide_eq_true_eq, UInt32.le_iff_toNat_le] at hdigit
    have hc' := hdigits ⟨c.toNat, Nat.lt_succ_of_le hdigit.2⟩ hdigit.1
    rwa [Char.ofNat_toNat] at hc'
  rw [Region.normalize, hsettled, String.ofList_toList]

/-- As many region names as there are priorities. -/
def numberedRegions : List String :=
  (List.range Account.priorityLimit).map Nat.repr

/-- Regions that crowd an account in `eastus` as its read regions. -/
structure Crowding (reads : List String) : Prop where
  nodup : reads.Nodup
  normal : ∀ r ∈ reads, Region.normalize r = r
  named : "" ∉ reads
  others : "eastus" ∉ reads
  many : Account.priorityLimit ≤ reads.length

theorem crowding_numberedRegions : Crowding numberedRegions where
  nodup := List.nodup_range.map repr_injective
  normal := List.forall_mem_map.2 fun n _ => normalize_repr n
  named h := by
    obtain ⟨n, -, hn⟩ := List.mem_map.1 h
    exact Nat.repr_ne_empty hn
  others h := by
    obtain ⟨n, -, hn⟩ := List.mem_map.1 h
    have hdigit : 'e' ∈ Nat.toDigits 10 n := by
      rw [← Nat.toList_repr, hn]
      decide
    exact absurd (Nat.isDigit_of_mem_toDigits (by decide) (by decide) hdigit) (by decide)
  many := by rw [numberedRegions, List.length_map, List.length_range]

/-- The declaration of an account in `eastus`, with these read regions. -/
def accountIn (reads : List String) : Resource where
  id := ⟨Account.resourceType, "db"⟩
  attributes := [
    ("name", .string "acc"), ("resource_group", .string "rg"), ("kind", .string "Sql"),
    ("consistency_level", .string "Strong"), ("write_region", .string "eastus"),
    ("read_regions", .ofStrings reads)]

/-- What it is read as. -/
def recordIn (reads : List String) : Account where
  name := "acc"
  group := "rg"
  kind := some .sql
  consistencyLevel := some .strong
  writeRegion := some "eastus"
  readRegions := reads

variable {reads : List String}

theorem stringList_accountIn (reads : List String) :
    (accountIn reads).attributes.stringList "read_regions" = .ok reads :=
  Attributes.stringList_of_get? rfl

theorem check_accountIn (reads : List String) :
    Account.schema.check (accountIn reads).attributes = .ok () := by
  have hreads : Account.schema.attributeDefect? "read_regions" (.ofStrings reads) = none := by
    have hconforms : AttributeType.strings.check (.ofStrings reads) = .ok () :=
      AttributeType.check_eq_ok_iff.2 ((AttributeType.conforms_strings_iff _).2 ⟨reads, rfl⟩)
    have hget : Account.schema.attributes.get? "read_regions" = some _ := rfl
    rw [Schema.attributeDefect?, hget]
    dsimp only
    rw [hconforms]
    rfl
  refine Schema.check_eq_ok_iff.2 ⟨rfl, ?_⟩
  simp only [accountIn, List.forall_mem_cons]
  exact ⟨by decide +kernel, by decide +kernel, by decide +kernel, by decide +kernel, by decide +kernel,
    hreads, by simp⟩

theorem wellFormed_accountIn (reads : List String) : (accountIn reads).attributes.WellFormed := by
  constructor
  · have hkeys : ["name", "resource_group", "kind", "consistency_level", "write_region",
        "read_regions"].Nodup := by decide
    exact hkeys
  · simp only [accountIn, List.forall_mem_cons]
    exact ⟨.string _, .string _, .string _, .string _, .string _, Value.wellFormed_ofStrings reads,
      by simp⟩

namespace Crowding

variable (h : Crowding reads)
include h

theorem namesRegions : NamesRegions .account (accountIn reads).attributes where
  location v hv _ := by
    have hwrite : (accountIn reads).attributes.get? "write_region" = some (.string "eastus") := rfl
    obtain rfl := Value.string.inj (Option.some.inj (hwrite.symm.trans hv))
    decide
  reads items hitems v hv := by
    obtain rfl := Except.ok.inj ((stringList_accountIn reads).symm.trans hitems)
    rw [h.normal v hv]
    exact fun hempty => h.named (hempty ▸ hv)

theorem ofAttributes : Account.ofAttributes (accountIn reads).attributes = .ok (recordIn reads) := by
  refine Account.ofAttributes_eq_ok_iff.2 ?_
  constructor
  case kind =>
    have hkind : Account.selected AccountKind.parse (some "Sql") = .ok (some .sql) := by decide +kernel
    exact ⟨some "Sql", rfl, hkind⟩
  case level =>
    have hlevel : Account.selected ConsistencyLevel.parse (some "Strong") = .ok (some .strong) := by
      decide +kernel
    exact ⟨some "Strong", rfl, hlevel⟩
  case writeRegion =>
    have hwrite : Region.normalize "eastus" = "eastus" := by decide +kernel
    exact ⟨some "eastus", rfl, congrArg some hwrite.symm⟩
  case readRegions =>
    exact ⟨reads, stringList_accountIn reads, (Region.distinctNames_of_normal h.nodup h.normal).symm⟩
  case automaticFailover => exact ⟨none, rfl, rfl⟩
  all_goals rfl

theorem validate : (recordIn reads).validate = .ok ({ level := "Strong" }, "eastus") := by
  have hname : AccountName.check (.string "acc") = .ok () := by decide +kernel
  have hothers : reads.contains "eastus" = false := by simpa using h.others
  simp only [Account.validate, recordIn, hname]
  show (if reads.contains "eastus" = true then _ else _) = _
  rw [hothers]
  rfl

/-- The account is created, and never settles. -/
theorem exists_created :
    let context : Context := ⟨subscription, "eastus"⟩
    let resource := accountIn reads
    let identifier := accountId "rg" "acc"
    let created := Memory.run (create context resource) {}
    ∃ s : State, created.outcome = .done s ∧ s.identifier = some identifier ∧
      ∀ s' m', Requests context identifier resource s created.state s' m' →
        let ran := Memory.run (update context resource.id identifier s' resource) m'
        (Memory.run (read context resource.id (some identifier)) m').outcome = .done s' ∧
          (∃ e ∈ (recordIn reads).toAttributes, Plan.agrees s'.attributes e.1 e.2 = false) ∧
          (∃ updated, ran.outcome = .done updated) ∧ ∃ c ∈ ran.asked, c.isMutating = true := by
  intro context resource identifier created
  have ht : ManagedType.ofName? Account.resourceType = some .account := by decide +kernel
  have haccepted : Account.Accepted resource (recordIn reads) .sql { level := "Strong" } "eastus" :=
    ⟨check_accountIn reads, h.ofAttributes, rfl, h.validate⟩
  have hready : ({} : Memory).failing = [] := rfl
  have hcontext : context.subscription = subscription := rfl
  have hslash : '/' ∉ "rg".toList := by decide
  obtain ⟨s, hs⟩ := Account.run_createAs_of_no_slash hready hcontext haccepted hslash
  have hcreated : created = Memory.run (createAs Account context resource) {} :=
    run_dispatch_done (t := .account) ht hs
  have hdone : created.outcome = .done s := hcreated ▸ hs
  obtain ⟨original, kind, policy, write, hc⟩ := Account.created_of_done hcontext hready hs
  obtain rfl : original = recordIn reads := Except.ok.inj (hc.decoded.symm.trans h.ofAttributes)
  have hidentifier : s.identifier = some identifier := hc.identified
  have hmany : Account.priorityLimit < (ManagedType.account.regions (recordIn reads)).length :=
    Nat.lt_succ_of_le h.many
  exact ⟨s, hdone, hidentifier, fun s' m' => update_never_settles hready hcontext ht hdone hidentifier
    (wellFormed_accountIn reads) h.namesRegions h.ofAttributes hmany⟩

theorem redeclares : Redeclares .account (accountIn reads) (accountIn reads) (recordIn reads) where
  wellFormed := wellFormed_accountIn reads
  check := check_accountIn reads
  decoded := h.ofAttributes
  validates := ⟨_, h.validate⟩
  same original horiginal k _ := by
    obtain rfl := Except.ok.inj (h.ofAttributes.symm.trans horiginal)
    rfl
  named := h.namesRegions

end Crowding

/-- An account with numbered read regions is created, and the update to the same declaration writes. -/
theorem created_numbered_not_settled :
    let context : Context := ⟨subscription, "eastus"⟩
    let resource := accountIn numberedRegions
    let created := Memory.run (create context resource) {}
    resource.attributes.WellFormed ∧ NamesRegions .account resource.attributes ∧
    ∃ (s : State) (identifier : String), created.outcome = .done s ∧ s.identifier = some identifier ∧
      ∃ c ∈ (Memory.run (update context resource.id identifier s resource) created.state).asked,
        c.isMutating = true := by
  -- the proof is about any regions that crowd the account, so that nothing computes these
  obtain ⟨reads, hreads, h⟩ : ∃ reads, numberedRegions = reads ∧ Crowding reads :=
    ⟨_, rfl, crowding_numberedRegions⟩
  rw [hreads]
  intro context resource created
  obtain ⟨s, hdone, hidentifier, hnever⟩ := h.exists_created
  obtain ⟨-, -, -, hwrites⟩ := hnever s _ .none
  exact ⟨wellFormed_accountIn reads, h.namesRegions, s, _, hdone, hidentifier, hwrites⟩

/-- Another read and another update do not bring it into its declared state either. -/
theorem updated_numbered_not_settled :
    let context : Context := ⟨subscription, "eastus"⟩
    let resource := accountIn numberedRegions
    let identifier := accountId "rg" "acc"
    let created := Memory.run (create context resource) {}
    let found := Memory.run (read context resource.id (some identifier)) created.state
    Redeclares .account resource resource (recordIn numberedRegions) ∧
    ∃ s s₁ s₂ : State, created.outcome = .done s ∧ s.identifier = some identifier ∧
      found.outcome = .done s₁ ∧
      let updated := Memory.run (update context resource.id identifier s₁ resource) found.state
      let again := Memory.run (update context resource.id identifier s₂ resource) updated.state
      updated.outcome = .done s₂ ∧
      (∃ e ∈ (recordIn numberedRegions).toAttributes, Plan.agrees s₂.attributes e.1 e.2 = false) ∧
      ∃ c ∈ again.asked, c.isMutating = true := by
  obtain ⟨reads, hreads, h⟩ : ∃ reads, numberedRegions = reads ∧ Crowding reads :=
    ⟨_, rfl, crowding_numberedRegions⟩
  rw [hreads]
  intro context resource identifier created found
  obtain ⟨s, hdone, hidentifier, hnever⟩ := h.exists_created
  obtain ⟨hfound, -⟩ := hnever s _ .none
  have hread : Requests context identifier resource s created.state s found.state := .read .none hfound
  obtain ⟨-, -, ⟨s₂, hupdated⟩, -⟩ := hnever s _ hread
  obtain ⟨-, hdiffers, -, hwrites⟩ := hnever s₂ _ (.update hread hupdated)
  exact ⟨h.redeclares, s, s, s₂, hdone, hidentifier, hfound, hupdated, hdiffers, hwrites⟩

end Numbered

end Provider
end AzureProvisioning
