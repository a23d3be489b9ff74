/-
# Operations address the object that was meant

A record addresses an object by its key: the names in its id, if it has one, else its own. The requests
of a refresh, an update or a deletion are written with this key, those of a creation with the declared
names, and they name the object exactly when the key is plain (`requests_name_plain_keys`).

Nothing but the creation of a group sees to that. A new account has a plain name, as a new group has
(`isPlain_ownName_of_create`), but the name of its group is only looked at for being empty, and so are
the names that any other operation takes from an id or from a declaration. With such a name the request
goes elsewhere: in `requests_name_plain_keys_cut` a new account is written over the group that the part
before the mark names.
-/

import AzureProvisioning.Proofs.Group.Recovery
import AzureProvisioning.Proofs.Provider.Steadiness
import AzureProvisioning.Proofs.Rest.Directing

namespace AzureProvisioning

open Program

/-- An account name stands for itself. -/
theorem AccountName.isPlain_of_isValid {s : String} (h : AccountName.isValid s = true) :
    Url.isPlain s.toList = true := by
  simp only [isValid, Bool.and_eq_true, List.all_eq_true] at h
  obtain ⟨⟨⟨-, hall⟩, -⟩, -⟩ := h
  refine Url.isPlain_of_isInert fun c hc => ?_
  have halphanum (h : c.isAlphanum = true) : Url.isInert c = true := by simp [Url.isInert, h]
  have hc := hall c hc
  simp only [allows, Bool.or_eq_true, beq_iff_eq] at hc
  obtain (h | h) | rfl := hc
  · exact halphanum (Bool.or_eq_true_iff.2 (.inl (Bool.or_eq_true_iff.2 (.inr h))))
  · exact halphanum (Bool.or_eq_true_iff.2 (.inr h))
  · rfl

/-- A group name stands for itself: it has no mark, no percent sign and no dot at its end. -/
theorem GroupName.isPlain_of_isValid {s : String} (h : isValid s = true) :
    Url.isPlain s.toList = true := by
  simp only [isValid, Bool.and_eq_true, List.all_eq_true, bne_iff_ne] at h
  obtain ⟨⟨-, hall⟩, hlast⟩ := h
  have hrefused : ['/', '\\', '?', '#', '\t', '\n', '\r', '%'].any allows = false := by decide +kernel
  have hne : ∀ c ∈ s.toList, ∀ d ∈ ['/', '\\', '?', '#', '\t', '\n', '\r', '%'], c ≠ d := by
    rintro c hc d hd rfl
    exact List.any_eq_false.1 hrefused c hd (hall c hc)
  refine Url.isPlain_iff.2 ⟨fun c hc => ?_, ?_, ?_, ?_⟩
  · have hall := hne c hc
    simp only [List.forall_mem_cons] at hall
    obtain ⟨hslash, hback, hquery, hfragment, htab, hline, hreturn, -⟩ := hall
    simp [Url.isMark, Url.endsPath, Url.isBreak, hslash, hback, hquery, hfragment, htab, hline, hreturn]
  · exact Url.hasWrittenByte_of_not_mem fun hmem => hne '%' hmem '%' (by decide) rfl
  · exact fun heq => hlast (by rw [heq]; rfl)
  · exact fun heq => hlast (by rw [heq]; rfl)

section Asking

variable {α : Type} {P : Call → Prop}

theorem asksOnly_request {c : Call} (h : P c) : (Operation.request c).AsksOnly P :=
  ⟨h, asksOnly_ofExcept⟩

theorem asksOnly_ofCheck (check : Except ConfigurationError α) :
    (ofCheck check : Operation α).AsksOnly P := by
  cases check <;> trivial

theorem asksOnly_inOrder {cs : List Call} (h : ∀ c ∈ cs, P c) : (Operation.inOrder cs).AsksOnly P := by
  induction cs with
  | nil => trivial
  | cons c cs ih =>
    exact (asksOnly_request (h c List.mem_cons_self)).bind fun _ =>
      ih fun d hd => h d (List.mem_cons_of_mem c hd)

theorem asksOnly_whenMissing {p : Operation α} (h : p.AsksOnly P) (instead : α) :
    (p.whenMissing instead).AsksOnly P :=
  h.attempt.bind fun
    | .ok _ => trivial
    | .error e => by
      dsimp only
      split <;> trivial

end Asking

namespace Provider

/-- The key of the object that a record addresses. -/
def ManagedType.key? (context : Context) : (type : ManagedType) → type.Record → Option Key
  | account, (a : Account) => (a.key? context).map fun key => .account key.1 key.2
  | group, (g : Group) => (g.key? context).map .group

/-- The key of the object that a declaration describes. -/
def ManagedType.declaredKey : (type : ManagedType) → type.Record → Key
  | account, (a : Account) => .account a.group a.name
  | group, (g : Group) => .group g.name

/-- The name of the declared object itself. -/
def ManagedType.ownName : (type : ManagedType) → type.Record → String
  | account, (a : Account) => a.name
  | group, (g : Group) => g.name

variable {client : Client} {context : Context} {type : ManagedType}

/-- The call is one on the object with the key; with no key there is no such call. -/
def IsOn (key? : Option Key) (c : Call) : Prop :=
  ∃ key, key? = some key ∧ c.key? = some key

section Asking

theorem asksOnly_request_of_key? {c : Call} {key : Key} (h : c.key? = some key) :
    (Operation.request c).AsksOnly (IsOn (some key)) :=
  asksOnly_request ⟨key, rfl, h⟩

theorem asksOnly_refresh (record : type.Record) :
    (Managed.refresh context record : Operation (Option type.Record)).AsksOnly
      (IsOn (type.key? context record)) := by
  rw [← asksOnly_quiet_iff]
  cases type with
  | account =>
    show (Account.refresh context record).quiet.AsksOnly _
    rw [Account.quiet_refresh, ManagedType.key?]
    cases Account.key? context record with
    | none => trivial
    | some key => exact (asksOnly_request_of_key? rfl).bind fun _ => trivial
  | group =>
    show (Group.refresh context record).quiet.AsksOnly _
    rw [Group.quiet_refresh, ManagedType.key?]
    cases Group.key? context record with
    | none => trivial
    | some name => exact (asksOnly_request_of_key? rfl).bind fun _ => trivial

theorem asksOnly_create (record : type.Record) :
    (Managed.create context record : Operation type.Record).AsksOnly
      (IsOn (some (type.declaredKey record))) := by
  rw [← asksOnly_quiet_iff]
  cases type with
  | account =>
    show (Account.create context record).quiet.AsksOnly _
    rw [Account.quiet_create]
    cases Account.kind record with
    | none => trivial
    | some kind =>
      exact (asksOnly_ofCheck _).bind fun checked =>
        (asksOnly_request_of_key? rfl).bind fun _ => trivial
  | group =>
    show (Group.create context record).quiet.AsksOnly _
    rw [Group.quiet_create]
    cases GroupName.check (.string (Group.name record)) with
    | error detail => trivial
    | ok => exact (asksOnly_request_of_key? rfl).bind fun _ => trivial

theorem asksOnly_update (desired current : type.Record) (changed : List String) :
    (Managed.update context desired current changed).AsksOnly (IsOn (type.key? context current)) := by
  rw [← asksOnly_quiet_iff]
  cases type with
  | account =>
    show (Account.update context desired current changed).quiet.AsksOnly _
    rw [Account.quiet_update, ManagedType.key?]
    split
    · trivial
    · refine (asksOnly_ofCheck _).bind fun checked => ?_
      cases Account.key? context current with
      | none => trivial
      | some key =>
        refine asksOnly_inOrder fun c hc => ?_
        obtain ⟨change, -, rfl⟩ := List.mem_map.1 hc
        refine ⟨_, rfl, ?_⟩
        cases change <;> rfl
  | group =>
    show (Group.update context desired current changed).quiet.AsksOnly _
    rw [Group.quiet_update, ManagedType.key?]
    split
    · cases Group.key? context current with
      | none => trivial
      | some name => exact (asksOnly_request_of_key? rfl).bind fun _ => trivial
    · trivial

theorem asksOnly_delete (record : type.Record) :
    (Managed.delete context record).AsksOnly (IsOn (type.key? context record)) := by
  rw [← asksOnly_quiet_iff]
  cases type with
  | account =>
    show (Account.delete context record).quiet.AsksOnly _
    rw [Account.quiet_delete, ManagedType.key?]
    cases Account.key? context record with
    | none => trivial
    | some key => exact asksOnly_whenMissing (asksOnly_request_of_key? rfl) _
  | group =>
    show (Group.delete context record).quiet.AsksOnly _
    rw [Group.quiet_delete, ManagedType.key?]
    cases Group.key? context record with
    | none => trivial
    | some name => exact asksOnly_whenMissing (asksOnly_request_of_key? rfl) _

end Asking

/-- Every request of the operation that is no poll names the object with the key exactly when the key is
plain, however the requests are answered. With no key there are no requests. -/
def Addresses {α : Type} (client : Client) (key? : Option Key) (p : Operation α) : Prop :=
  ∀ t o, Runs (client.exchange p) t o →
    client.Directed (fun r => ∃ key, key? = some key ∧ (r.Names client key ↔ key.isPlain = true)) t

theorem addresses_of_asksOnly {α : Type} {key? : Option Key} {p : Operation α}
    (hclient : client.Regular) (h : p.AsksOnly (IsOn key?)) : Addresses client key? p := by
  intro t o hruns
  refine (Client.directed_exchange h hruns).mono fun r hr => ?_
  obtain ⟨key, hkey, hreaches⟩ := hr
  exact ⟨key, hkey, names_iff hclient hreaches⟩

/-- A creation that makes a request has seen to the name of the object itself. -/
theorem isPlain_ownName_of_create {record : type.Record} {t : Exchanged} {o : Outcome type.Record}
    (h : Runs (client.exchange (Managed.create context record : Operation type.Record)) t o)
    (ht : t ≠ []) : Url.isPlain (type.ownName record).toList = true := by
  have hfail {β : Type} {e : Failure} {t : Exchanged} {o : Outcome β}
      (h : Runs (Program.answerBy client.answer (.fail e)) t o) : t = [] := (runs_fail_iff.1 h).1
  rw [Client.exchange, ← runs_answerBy_quiet] at h
  cases type with
  | account =>
    replace h : Runs ((Account.create context record).quiet.answerBy client.answer) t o := h
    rw [Account.quiet_create] at h
    cases hkind : Account.kind record with
    | none =>
      rw [hkind] at h
      exact absurd (hfail h) ht
    | some kind =>
      rw [hkind] at h
      cases hvalid : Account.validate record with
      | error e =>
        rw [hvalid] at h
        exact absurd (hfail h) ht
      | ok found => exact AccountName.isPlain_of_isValid (Account.valid_of_validate hvalid).name
  | group =>
    replace h : Runs ((Group.create context record).quiet.answerBy client.answer) t o := h
    rw [Group.quiet_create, GroupName.check] at h
    by_cases hvalid : GroupName.isValid (Group.name record) = true
    · exact GroupName.isPlain_of_isValid hvalid
    · rw [if_neg hvalid] at h
      exact absurd (hfail h) ht

/-- **Requests name the object that was meant exactly when its names stand for themselves** in a path.
The endpoint is bare, and the subscription has letters, digits and hyphens. A creation that makes a
request has seen to the name of the object itself, so a new group is always the one that was meant; a
new account may be in another group. Keys that the requests do name never share a target. -/
theorem requests_name_plain_keys (hclient : client.Regular) (context : Context) (type : ManagedType) :
    (∀ record : type.Record, Addresses client (type.key? context record)
      (Managed.refresh context record : Operation (Option type.Record))) ∧
    (∀ record : type.Record, Addresses client (some (type.declaredKey record))
      (Managed.create context record : Operation type.Record)) ∧
    (∀ (desired current : type.Record) changed, Addresses client (type.key? context current)
      (Managed.update context desired current changed)) ∧
    (∀ record : type.Record, Addresses client (type.key? context record)
      (Managed.delete context record)) ∧
    (∀ (record : type.Record) t o,
      Runs (client.exchange (Managed.create context record : Operation type.Record)) t o → t ≠ [] →
        Url.isPlain (type.ownName record).toList = true) ∧
    ∀ (r r' : Request) (key key' : Key), r.Names client key → r'.Names client key' →
      r.url.target = r'.url.target → key = key' :=
  ⟨fun record => addresses_of_asksOnly hclient (asksOnly_refresh record),
    fun record => addresses_of_asksOnly hclient (asksOnly_create record),
    fun desired current changed => addresses_of_asksOnly hclient (asksOnly_update desired current changed),
    fun record => addresses_of_asksOnly hclient (asksOnly_delete record),
    fun _ _ _ => isPlain_ownName_of_create,
    fun _ _ _ _ h h' => h.key_eq hclient h'⟩

/-- A new account in the group `rg?x` is written over the group `rg`, and its request does not name the
account. The request that deletes the group `rg` names it. -/
theorem requests_name_plain_keys_cut :
    let client : Client := ⟨"https://management.azure.com", "sub", "token", 8⟩
    let context : Context := ⟨"sub", "eastus"⟩
    let closed (_ : Request) (s : Unit) : Option Response × Unit := (none, s)
    let declared : Account := {
      name := "acc", group := "rg?x", kind := some .sql, consistencyLevel := some .strong
      writeRegion := some "eastus" }
    let group : Group := { name := "rg" }
    client.Regular ∧
      (∃ request, (run closed (client.exchange (declared.create context)) ()).asked = [request] ∧
        request.method = .put ∧
        request.url.path = .segments ["subscriptions", "sub", "resourceGroups", "rg"] ∧
        ¬ request.Names client (.account "rg?x" "acc")) ∧
      ∃ request, (run closed (client.exchange (group.delete context)) ()).asked = [request] ∧
        request.method = .delete ∧ request.Names client (.group "rg") := by
  intro client context closed declared group
  have hletters : client.subscription.toList.all Char.isAlphanum = true := by decide
  have hclient : client.Regular :=
    ⟨by decide +kernel, fun c hc => .inl (List.all_eq_true.1 hletters c hc)⟩
  obtain ⟨-, hcreate, -, -, -, -⟩ := requests_name_plain_keys hclient context .account
  obtain ⟨-, -, -, hdelete, -, -⟩ := requests_name_plain_keys hclient context .group
  -- the transcript of a run without a response
  have hfirst {α : Type} {key : Key} {p : Operation α} (method : Method) (path : Url.Path)
      (h : Addresses client (some key) p)
      (hasked : (run closed (client.exchange p) ()).asked.map (fun r => (r.method, r.url.path)) =
        [(method, path)]) :
      ∃ request, (run closed (client.exchange p) ()).asked = [request] ∧ request.method = method ∧
        request.url.path = path ∧ (request.Names client key ↔ key.isPlain = true) := by
    obtain ⟨t, hruns, ht⟩ := exists_runs_run closed (client.exchange p) ()
    obtain ⟨request, hrequest, hfields⟩ := List.map_eq_singleton_iff.1 hasked
    obtain ⟨rfl, rfl⟩ := Prod.mk.inj hfields
    refine ⟨request, hrequest, rfl, rfl, ?_⟩
    rw [hrequest] at ht
    have hdirected := h t _ hruns
    cases hdirected with
    | nil => cases ht
    | cons hnames =>
      obtain ⟨_, hkey, hnames⟩ := hnames
      obtain rfl := Option.some.inj hkey
      rwa [← (List.cons.inj ht).1]
  let path : Url.Path := .segments ["subscriptions", "sub", "resourceGroups", "rg"]
  obtain ⟨creation, hasked, hmethod, hpath, hnames⟩ :=
    hfirst .put path (hcreate declared) (by decide +kernel)
  obtain ⟨deletion, hasked', hmethod', -, hnames'⟩ :=
    hfirst .delete path (hdelete group) (by decide +kernel)
  exact ⟨hclient, ⟨creation, hasked, hmethod, hpath, fun h => absurd (hnames.1 h) (by decide)⟩,
    deletion, hasked', hmethod', hnames'.2 (by decide)⟩

end Provider
end AzureProvisioning
