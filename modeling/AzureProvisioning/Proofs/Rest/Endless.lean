/-
# Lists that do not end

Whoever replies may know all requests so far (`serving`). Whatever is replied, a call that is no list
comes to its end: each of its parts asks a bounded number of questions (`Program.EndsIn`), the polls of
an operation no more than `maxPolls` (`endsIn_await`).

Nothing bounds a list. Each page that is obtained leads to the next one (`LeadsTo`), and the list ends
exactly when this cannot go on forever: by induction on what a page leads to (`exists_ends_of_acc`), and
else there is a chain of pages without an end (`endlessList_of_not_acc`), which uses up every budget
(`run_pagesFrom_of_endless`). Pages whose links come back to one of them are such a chain
(`endlessList_of_cycle`).
-/

import AzureProvisioning.Proofs.Rest.Chains
import Mathlib.Order.WellFounded

namespace AzureProvisioning

namespace Program

variable {Query : Type} {Answer : Query → Type} {α β σ : Type} {p : Program Query Answer α} {m n : Nat}

/-- Whatever is answered, the program comes to its end, after this many questions at most. -/
def EndsIn (n : Nat) (p : Program Query Answer α) : Prop :=
  ∀ t o, Runs p t o → o ≠ .unfinished ∧ t.length ≤ n

theorem endsIn_done (a : α) : EndsIn n (done a : Program Query Answer α) := by
  intro t o h
  obtain ⟨rfl, rfl⟩ := runs_done_iff.1 h
  exact ⟨nofun, Nat.zero_le n⟩

theorem endsIn_fail (e : Failure) : EndsIn n (fail e : Program Query Answer α) := by
  intro t o h
  obtain ⟨rfl, rfl⟩ := runs_fail_iff.1 h
  exact ⟨nofun, Nat.zero_le n⟩

theorem EndsIn.mono (h : EndsIn m p) (hmn : m ≤ n) : EndsIn n p := fun t o hruns =>
  ⟨(h t o hruns).1, (h t o hruns).2.trans hmn⟩

theorem EndsIn.log (h : EndsIn n p) (entry : LogEntry) : EndsIn n (.log entry p) := fun t o hruns =>
  h t o (runs_log_iff.1 hruns)

theorem EndsIn.ask {q : Query} {next : Answer q → Program Query Answer α}
    (h : ∀ answer, EndsIn n (next answer)) : EndsIn (n + 1) (.ask q next) := by
  intro t o hruns
  obtain ⟨answer, t, rfl, hnext⟩ := runs_ask_iff.1 hruns
  exact ⟨(h answer t o hnext).1, Nat.succ_le_succ (h answer t o hnext).2⟩

theorem EndsIn.bind {f : α → Program Query Answer β} (h : EndsIn m p) (hf : ∀ a, EndsIn n (f a)) :
    EndsIn (m + n) (p.bind f) := by
  intro t o hruns
  obtain ⟨a, t₁, t₂, rfl, hfirst, hrest⟩ | ⟨e, hfirst, rfl⟩ | ⟨hfirst, rfl⟩ := runs_bind_iff.1 hruns
  · rw [List.length_append]
    exact ⟨(hf a t₂ o hrest).1, Nat.add_le_add (h t₁ _ hfirst).2 (hf a t₂ o hrest).2⟩
  · exact ⟨nofun, (h t _ hfirst).2.trans (Nat.le_add_right m n)⟩
  · exact absurd rfl (h t _ hfirst).1

theorem EndsIn.attempt (h : EndsIn n p) : EndsIn n p.attempt := by
  intro t o hruns
  obtain ⟨a, hp, rfl⟩ | ⟨e, hp, rfl⟩ | ⟨hp, rfl⟩ := runs_attempt_iff.1 hruns
  · exact ⟨nofun, (h t _ hp).2⟩
  · exact ⟨nofun, (h t _ hp).2⟩
  · exact absurd rfl (h t _ hp).1

theorem EndsIn.run (h : EndsIn n p) (answer : (q : Query) → σ → Answer q × σ) (s : σ) :
    (Program.run answer p s).outcome ≠ .unfinished ∧ (Program.run answer p s).asked.length ≤ n := by
  obtain ⟨t, hruns, hasked⟩ := exists_runs_run answer p s
  rw [← hasked, List.length_map]
  exact h t _ hruns

end Program

@[simp] theorem Outcome.map_eq_unfinished {α β : Type} {f : α → β} {o : Outcome α} :
    o.map f = .unfinished ↔ o = .unfinished := by
  cases o <;> simp [map]

/-- A run is cut off with the one that it comes after. -/
@[simp] theorem Ran.after_outcome_eq_unfinished {Query σ α : Type} {ran : Ran Query σ (List α)}
    {items : List α} {entries : List LogEntry} {asked : List Query} :
    (ran.after items entries asked).outcome = .unfinished ↔ ran.outcome = .unfinished :=
  Outcome.map_eq_unfinished

open Program

/-- What is found with a budget comes to its end with some budget, unless it is endless: then every
budget is used up. A larger budget than is needed makes no difference. -/
structure EndsUnless {Query σ α : Type} (endless : Prop) (ran : Nat → Ran Query σ α) : Prop where
  ends_iff : (∃ budget, (ran budget).outcome ≠ .unfinished) ↔ ¬ endless
  uses_up : endless →
    ∀ budget, (ran budget).outcome = .unfinished ∧ (ran budget).asked.length = budget
  stable : ∀ budget more, (ran budget).outcome ≠ .unfinished → ran (budget + more) = ran budget

/-- What is made of the run does not count, if it asks the same questions and is cut off with it. -/
theorem EndsUnless.map {Query σ α : Type} {endless : Prop} {ran : Nat → Ran Query σ α}
    (h : EndsUnless endless ran) (f : Ran Query σ α → Ran Query σ α)
    (hasked : ∀ r, (f r).asked = r.asked)
    (hcut : ∀ r, (f r).outcome = .unfinished ↔ r.outcome = .unfinished) :
    EndsUnless endless fun budget => f (ran budget) := by
  refine ⟨?_, fun hendless budget => ?_, fun budget more hends => ?_⟩
  · simp only [ne_eq, hcut]
    exact h.ends_iff
  · rw [hcut, hasked]
    exact h.uses_up hendless budget
  · rw [ne_eq, hcut] at hends
    rw [h.stable budget more hends]

/-- The call lists something. -/
def Call.lists : Call → Bool
  | .listAccounts | .listAccountsIn _ | .listGroups => true
  | _ => false

namespace Client

variable {α : Type} {client : Client} {read : Json → Option α} {start address : String} {n : Nat}
  {serve : List Request → Option Response}

section Bounded

theorem endsIn_send (method : Method) (address : String) (body : Option Json) :
    EndsIn 1 (client.send method address body) := by
  unfold send
  cases client.request method address body with
  | error text => exact endsIn_fail _
  | ok request =>
    refine EndsIn.ask fun reply => ?_
    cases reply with
    | none => exact endsIn_fail _
    | some r =>
      show EndsIn 0 (if Status.isSuccess r.status then _ else _)
      split
      · exact endsIn_done r
      · exact endsIn_fail _

theorem endsIn_sendGet (address : String) : EndsIn 1 (client.sendGet address) :=
  (endsIn_send .get address none).log _

theorem endsIn_decode (r : Response) : EndsIn 0 (decode read r) := by
  unfold decode
  cases (Json.parse? r.body).bind read with
  | none => exact endsIn_fail _
  | some a => exact endsIn_done a

theorem endsIn_get (read : Json → Option α) (address : String) : EndsIn 1 (client.get read address) :=
  (endsIn_sendGet address).bind endsIn_decode

theorem endsIn_getOptional (read : Json → Option α) (address : String) :
    EndsIn 1 (client.getOptional read address) := by
  unfold getOptional
  refine EndsIn.bind (n := 0) (endsIn_sendGet address).attempt fun found => ?_
  cases found with
  | ok r => exact (endsIn_decode r).bind fun a => endsIn_done (n := 0) (some a)
  | error e =>
    show EndsIn 0 (if e.isNotFound then _ else _)
    split
    · exact endsIn_done none
    · exact endsIn_fail e

theorem endsIn_conclude {next : Exchange Unit} (h : EndsIn n next) (w : Watch) (r : Response) :
    EndsIn n (conclude next w r) := by
  cases w with
  | status address =>
    refine (EndsIn.bind (n := n) (endsIn_decode r) fun s => ?_).mono (Nat.zero_add n).le
    unfold judge
    split_ifs
    · exact endsIn_done ()
    · exact endsIn_fail _
    · exact endsIn_fail _
    · exact h
  | location address =>
    show EndsIn n (if r.status != 202 then .done () else next)
    split_ifs
    · exact endsIn_done ()
    · exact h

/-- Each poll is one request, and those that are left are fewer. -/
theorem endsIn_follow (w : Watch) (polls : Nat) : EndsIn polls (client.follow w polls) := by
  induction polls with
  | zero =>
    rw [follow_zero]
    exact endsIn_fail _
  | succ polls ih =>
    rw [follow_succ]
    exact ((endsIn_sendGet w.address).bind (endsIn_conclude ih w)).mono (Nat.add_comm 1 polls).le

/-- **Waiting for an operation ends**, after `maxPolls` polls at most. -/
theorem endsIn_await (r : Response) : EndsIn maxPolls (client.await r) := by
  rw [await_eq]
  cases r.watch? with
  | none => exact endsIn_done ()
  | some w => exact endsIn_follow w maxPolls

theorem endsIn_mutate (method : Method) (address : String) (body : Option Json) :
    EndsIn (1 + maxPolls) (client.mutate method address body) :=
  ((endsIn_send method address body).bind endsIn_await).log _

/-- **A call that lists nothing ends**: after its request, the polls of its operation and one read. -/
theorem endsIn_perform {c : Call} (h : c.lists = false) : EndsIn (maxPolls + 2) (client.perform c) := by
  cases c with
  | listAccounts | listAccountsIn | listGroups => cases h
  | getAccount | getGroup => exact (endsIn_getOptional _ _).mono (by omega)
  | putAccount | patchAccount | putGroup | setGroupTags =>
    exact ((endsIn_mutate _ _ _).bind fun _ => endsIn_get _ _).mono (by omega)
  | changePriorities | deleteAccount | deleteGroup => exact (endsIn_mutate _ _ _).mono (by omega)

end Bounded

/-- Whoever replies by all requests so far. -/
def serving (serve : List Request → Option Response) (q : Request) (before : List Request) :
    Option Response × List Request :=
  (serve (before ++ [q]), before ++ [q])

/-- The list never ends: its pages form a chain without a last one, and each of them is obtained. -/
def EndlessList (client : Client) (serve : List Request → Option Response) (read : Json → Option α)
    (start : String) : Prop :=
  ∃ chain : Chain α, chain.address 0 = start ∧ ∀ k,
    (chain.page k).next? = some (chain.address (k + 1)) ∧
      client.Obtains read (fun k => serve (chain.requests client (k + 1))) chain k

/-- The call lists something, and its list never ends. -/
def Endless (client : Client) (serve : List Request → Option Response) : Call → Prop
  | .listAccounts => client.EndlessList serve DatabaseAccount.ofJson?
      (client.address (client.subscriptionPath ++ accountsPath) accountVersion)
  | .listAccountsIn group =>
    client.EndlessList serve DatabaseAccount.ofJson? (client.accountsAddress group)
  | .listGroups => client.EndlessList serve ResourceGroup.ofJson?
      (client.address (client.subscriptionPath ++ "/resourcegroups") groupVersion)
  | _ => False

/-- From an address, after these requests, a page is obtained that gives the next address. -/
def LeadsTo (client : Client) (serve : List Request → Option Response) (read : Json → Option α)
    (here there : String × List Request) : Prop :=
  ∃ url page, client.Reaches here.1 url ∧ there.2 = here.2 ++ [⟨.get, url, client.token, none⟩] ∧
    Brings read (serve there.2) page ∧ page.next? = some there.1

section Lists

/-- A chain without an end uses up every budget. -/
theorem run_pagesFrom_of_endless {chain : Chain α}
    (h : ∀ k, (chain.page k).next? = some (chain.address (k + 1)) ∧
      client.Obtains read (fun k => serve (chain.requests client (k + 1))) chain k) (budget : Nat) :
    let ran := run (serving serve) (client.pagesFrom read budget (some (chain.address 0))) []
    ran.outcome = .unfinished ∧ ran.asked.length = budget := by
  -- The chain is entered at any of its pages: the first page leads to the second one.
  suffices hfrom : ∀ k,
      let ran := run (serving serve) (client.pagesFrom read budget (some (chain.address k)))
        (chain.requests client k)
      ran.outcome = .unfinished ∧ ran.asked.length = budget from hfrom 0
  induction budget with
  | zero => exact fun k => ⟨rfl, rfl⟩
  | succ budget ih =>
    intro k
    obtain ⟨hnext, hreaches, hbrings⟩ := h k
    rw [chain.requests_succ] at hbrings
    obtain ⟨hcut, hasked⟩ := ih (k + 1)
    rw [chain.requests_succ] at hcut hasked
    rw [run_pagesFrom_step_by (serving serve) hreaches _ hbrings, hnext]
    refine ⟨Ran.after_outcome_eq_unfinished.2 hcut, ?_⟩
    rw [Ran.after, List.length_append, serving, hasked]
    exact Nat.add_comm 1 budget

/-- **A list ends when its pages do not go on forever.** -/
theorem exists_ends_of_acc {here : String × List Request}
    (h : Acc (fun there here => client.LeadsTo serve read here there) here) :
    ∃ budget, (run (serving serve) (client.pagesFrom read budget (some here.1)) here.2).outcome ≠
      .unfinished := by
  -- by induction on what the page leads to; without a page, or at the last one, one read is enough
  induction h with
  | intro here _ ih =>
    obtain ⟨address, before⟩ := here
    by_cases hreaches : ∃ url, client.Reaches address url
    · obtain ⟨url, hurl⟩ := hreaches
      by_cases hbrings : ∃ page : Page α,
          Brings read (serve (before ++ [⟨.get, url, client.token, none⟩])) page
      · obtain ⟨page, hpage⟩ := hbrings
        cases hnext : page.next? with
        | none =>
          refine ⟨1, ?_⟩
          rw [run_pagesFrom_step_by (serving serve) hurl before hpage, hnext, ne_eq,
            Ran.after_outcome_eq_unfinished]
          exact nofun
        | some next =>
          obtain ⟨budget, hends⟩ := ih (next, _) ⟨url, page, hurl, rfl, hpage, hnext⟩
          refine ⟨budget + 1, ?_⟩
          rwa [run_pagesFrom_step_by (serving serve) hurl before hpage, hnext, ne_eq,
            Ran.after_outcome_eq_unfinished]
      · refine ⟨1, ?_⟩
        rw [run_pagesFrom_of_not_brings_by (serving serve) hurl before
          fun page hpage => hbrings ⟨page, hpage⟩]
        exact nofun
    · refine ⟨1, ?_⟩
      cases hrequest : client.request .get address none with
      | ok request =>
        obtain ⟨url, hurl, -⟩ := request_eq_ok_iff.1 hrequest
        exact absurd ⟨url, hurl⟩ hreaches
      | error text =>
        rw [run_pagesFrom_of_error (serving serve) hrequest]
        exact nofun

/-- Pages that go on forever are a chain without an end. -/
theorem endlessList_of_not_acc
    (h : ¬ Acc (fun there here => client.LeadsTo serve read here there) (start, [])) :
    client.EndlessList serve read start := by
  obtain ⟨walk, hstart, hleads⟩ := not_acc_iff_exists_descending_chain.1 h
  choose url page hreaches hbefore hbrings hnext using hleads
  let chain : Chain α := ⟨fun k => (walk k).1, url, page⟩
  have hrequests : ∀ k, (walk k).2 = chain.requests client k := by
    intro k
    induction k with
    | zero => rw [hstart]; rfl
    | succ k ih => rw [hbefore, ih, chain.requests_succ]
  refine ⟨chain, congrArg Prod.fst hstart, fun k => ⟨hnext k, hreaches k, ?_⟩⟩
  rw [← hrequests]
  exact hbrings k

/-- A budget that is enough is followed by the same run as every larger one. -/
theorem run_pagesFrom_of_larger {σ : Type} (server : Request → σ → Option Response × σ)
    {start : Option String} {budget : Nat} {s : σ}
    (h : (run server (client.pagesFrom read budget start) s).outcome ≠ .unfinished) (more : Nat) :
    run server (client.pagesFrom read (budget + more) start) s =
      run server (client.pagesFrom read budget start) s := by
  induction budget generalizing start s with
  | zero =>
    cases start with
    | none => rfl
    | some address => exact absurd rfl h
  | succ budget ih =>
    cases start with
    | none => rfl
    | some address =>
      rw [pagesFrom_succ, run_bind] at h
      rw [Nat.add_right_comm, pagesFrom_succ, pagesFrom_succ, run_bind, run_bind]
      cases hget : (run server (client.get (Page.ofJson? read) address) s).outcome with
      | done page =>
        rw [Ran.andThen_of_done hget, run_bind_map] at h
        rw [Ran.andThen_of_done hget, Ran.andThen_of_done hget, run_bind_map, run_bind_map, ih]
        exact fun hcut => h (Outcome.map_eq_unfinished.2 hcut)
      | failed e => rw [Ran.andThen, Ran.andThen, hget]
      | unfinished => rw [Ran.andThen, Ran.andThen, hget]

theorem endsUnless_pagesFrom (client : Client) (serve : List Request → Option Response)
    (read : Json → Option α) (start : String) :
    EndsUnless (client.EndlessList serve read start) fun budget =>
      run (serving serve) (client.pagesFrom read budget (some start)) [] where
  uses_up := by
    rintro ⟨chain, rfl, hchain⟩ budget
    exact run_pagesFrom_of_endless hchain budget
  ends_iff := by
    constructor
    · rintro ⟨budget, hends⟩ ⟨chain, rfl, hchain⟩
      exact hends (run_pagesFrom_of_endless hchain budget).1
    · intro hlist
      have hacc : Acc (fun there here => client.LeadsTo serve read here there) (start, []) :=
        Classical.byContradiction fun hnot => hlist (endlessList_of_not_acc hnot)
      exact exists_ends_of_acc hacc
  stable budget more hends := run_pagesFrom_of_larger (serving serve) hends more

/-- When replies depend on the request alone, pages whose links come back to one of them never end. -/
theorem endlessList_of_cycle {reply : Request → Option Response}
    (hserve : ∀ before q, serve (before ++ [q]) = reply q) {chain : Chain α} {i : Nat} (hi : i ≤ n)
    (hlinked : chain.LinkedTo n) (hback : (chain.page n).next? = some (chain.address i))
    (hobtains : ∀ k ≤ n,
      client.Obtains read (fun k => reply ⟨.get, chain.url k, client.token, none⟩) chain k) :
    client.EndlessList serve read (chain.address 0) := by
  -- The list may be entered at any page of the chain: each leads to another page of it.
  have hcut : ∀ budget, ∀ k ≤ n, ∀ before, (run (serving serve)
      (client.pagesFrom read budget (some (chain.address k))) before).outcome = .unfinished := by
    intro budget
    induction budget with
    | zero => exact fun k _ before => rfl
    | succ budget ih =>
      intro k hk before
      obtain ⟨hreaches, hbrings⟩ := hobtains k hk
      rw [← hserve before] at hbrings
      rw [run_pagesFrom_step_by (serving serve) hreaches before hbrings,
        Ran.after_outcome_eq_unfinished]
      obtain hlt | rfl := Nat.lt_or_eq_of_le hk
      · rw [hlinked k hlt]
        exact ih (k + 1) hlt _
      · rw [hback]
        exact ih i hi _
  by_contra hnot
  obtain ⟨budget, hends⟩ := (endsUnless_pagesFrom client serve read (chain.address 0)).ends_iff.2 hnot
  exact hends (hcut budget 0 (Nat.zero_le n) [])

/-- The budget of the client makes no difference to the pages within another budget. -/
theorem pagesFrom_withBudget (budget n : Nat) (start : Option String) :
    { client with pageBudget := budget }.pagesFrom read n start = client.pagesFrom read n start := by
  induction n generalizing start with
  | zero => cases start <;> rfl
  | succ n ih =>
    cases start with
    | none => rfl
    | some address =>
      have hget : { client with pageBudget := budget }.get (Page.ofJson? read) address =
        client.get (Page.ofJson? read) address := rfl
      simp only [pagesFrom_succ, hget, ih]

theorem endsUnless_perform {c : Call} (h : c.lists = true) (client : Client)
    (serve : List Request → Option Response) :
    EndsUnless (client.Endless serve c) fun budget =>
      run (serving serve) ({ client with pageBudget := budget }.perform c) [] := by
  have hlist {α : Type} (read : Json → Option α) (address : String) (budget : Nat) :
      { client with pageBudget := budget }.list read address =
        client.pagesFrom read budget (some address) := pagesFrom_withBudget budget budget (some address)
  cases c with
  | listAccounts =>
    simp only [perform, hlist]
    exact endsUnless_pagesFrom client serve _ _
  | listGroups =>
    simp only [perform, hlist]
    exact endsUnless_pagesFrom client serve _ _
  | listAccountsIn group =>
    simp only [perform_listAccountsIn, pagesFrom_withBudget, run_whenMissing]
    exact (endsUnless_pagesFrom client serve _ _).map (Ran.whenMissing · []) (fun _ => rfl)
      Ran.whenMissing_outcome_eq_unfinished
  | _ => cases h

end Lists

/-- **Which calls end.** Every call that lists nothing ends after its request, the polls of its operation,
of which there are no more than `maxPolls`, and one read. A list ends, with a budget of pages that is large
enough and then with every larger one, unless its pages are a chain without an end; of such a chain as many
pages are asked for as the budget has. That is what pages are whose links come back to one of them, when
replies depend on the request alone. -/
theorem perform_ends_unless_endless (client : Client) (serve : List Request → Option Response)
    (c : Call) :
    let ran (budget : Nat) :=
      run (serving serve) ({ client with pageBudget := budget }.perform c) []
    (c.lists = true → EndsUnless (client.Endless serve c) ran) ∧
    (c.lists = false → ∀ budget,
      (ran budget).outcome ≠ .unfinished ∧ (ran budget).asked.length ≤ maxPolls + 2) ∧
    (∀ r before,
      let waiting := run (serving serve) (client.await r) before
      waiting.outcome ≠ .unfinished ∧ waiting.asked.length ≤ maxPolls) ∧
    ∀ {α : Type} (read : Json → Option α) (reply : Request → Option Response) (chain : Chain α)
      (i n : Nat), (∀ before q, serve (before ++ [q]) = reply q) → i ≤ n → chain.LinkedTo n →
      (chain.page n).next? = some (chain.address i) →
      (∀ k ≤ n,
        client.Obtains read (fun k => reply ⟨.get, chain.url k, client.token, none⟩) chain k) →
      client.EndlessList serve read (chain.address 0) := by
  intro ran
  refine ⟨fun h => endsUnless_perform h client serve, fun h budget => ?_, fun r before => ?_, ?_⟩
  · exact (endsIn_perform h).run (serving serve) []
  · exact (endsIn_await r).run (serving serve) before
  · intro α read reply chain i n hserve hi hlinked hback hobtains
    exact endlessList_of_cycle hserve hi hlinked hback hobtains

/-- Every page of the list of groups is the first one again, and the list goes on; the deletion of a group
ends against the same replies. -/
theorem perform_ends_unless_endless_self_link :
    let client : Client := ⟨"https://management.azure.com", "sub", "token", 8⟩
    let start := "https://management.azure.com/subscriptions/sub/resourcegroups?api-version=2021-04-01"
    let body : String := "\x7b\"value\": [], \"nextLink\": \"" ++ start ++ "\"\x7d"
    let serve (_ : List Request) : Option Response := some { status := 200, body }
    (∀ budget,
      let ran := run (serving serve) ({ client with pageBudget := budget }.perform .listGroups) []
      ran.outcome = .unfinished ∧ ran.asked.length = budget) ∧
    ∀ budget,
      let ran := run (serving serve) ({ client with pageBudget := budget }.perform (.deleteGroup "rg")) []
      ran.outcome ≠ .unfinished ∧ ran.asked.length ≤ 122 := by
  intro client start body serve
  obtain ⟨hlists, -, -, hcycle⟩ := perform_ends_unless_endless client serve .listGroups
  obtain ⟨-, hchanges, -⟩ := perform_ends_unless_endless client serve (.deleteGroup "rg")
  obtain ⟨first, hfirst⟩ : ∃ first, client.request .get start none = .ok first :=
    exists_request (by decide +kernel)
  obtain ⟨url, hurl, -⟩ := request_eq_ok_iff.1 hfirst
  let chain : Chain ResourceGroup := ⟨fun _ => start, fun _ => url, fun _ => ⟨[], some start⟩⟩
  have hread : (Json.parse? body).bind (Page.ofJson? ResourceGroup.ofJson?) =
      some ⟨[], some start⟩ := by decide +kernel
  have hback : Page.next? (⟨[], some start⟩ : Page ResourceGroup) = some start := by decide
  have hendless : client.EndlessList serve ResourceGroup.ofJson? start :=
    hcycle ResourceGroup.ofJson? (fun _ => some { status := 200, body }) chain 0 0 (fun _ _ => rfl)
      (Nat.le_refl 0) (fun _ hk => nomatch hk) hback fun k _ => ⟨hurl, _, rfl, rfl, hread⟩
  exact ⟨(hlists rfl).uses_up hendless, hchanges rfl⟩

end Client
end AzureProvisioning
