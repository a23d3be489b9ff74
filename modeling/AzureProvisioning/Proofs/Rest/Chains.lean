/-
# Lists of linked pages

The pages of a list lie one behind the other: each gives the address of the next one, and the last
one gives none (`Chain.EndsAt`). The replies come from a script, so it is said of them alone which
pages have been obtained.

A page that is obtained is followed by the list from the next page on (`run_pagesFrom_step`), so once
the first `k` pages have been obtained the rest of the run is that of the list from page `k` on, with
their items before what it finds (`run_pagesFrom_of_obtained`). From it comes the whole run, entry for
entry and request for request, whether all pages are obtained or one of them is not
(`run_list_of_chain`).
-/

import AzureProvisioning.Proofs.Rest.Changing
import AzureProvisioning.Proofs.Rest.Paging

namespace AzureProvisioning

open Program

namespace Ran

variable {Query σ α : Type}

/-- The run, after another one that has found these items, written these entries and asked these
questions. -/
def after (ran : Ran Query σ (List α)) (items : List α) (entries : List LogEntry)
    (asked : List Query) : Ran Query σ (List α) :=
  ⟨ran.outcome.map (items ++ ·), entries ++ ran.log, asked ++ ran.asked, ran.state⟩

@[simp] theorem after_nil (ran : Ran Query σ (List α)) : ran.after [] [] [] = ran := by
  obtain ⟨outcome, log, asked, state⟩ := ran
  cases outcome <;> rfl

theorem after_after (ran : Ran Query σ (List α)) (items items' : List α)
    (entries entries' : List LogEntry) (asked asked' : List Query) :
    (ran.after items' entries' asked').after items entries asked =
      ran.after (items ++ items') (entries ++ entries') (asked ++ asked') := by
  obtain ⟨outcome, log, asked'', state⟩ := ran
  cases outcome <;> simp [after, Outcome.map]

end Ran

/-- Pages in a row, with the addresses where they are and the form in which these are sent. -/
structure Chain (α : Type) where
  address : Nat → String
  url : Nat → Url
  page : Nat → Page α

namespace Chain

variable {α : Type} (chain : Chain α)

/-- Each of the first pages gives the address of the page after it. -/
def LinkedTo (n : Nat) : Prop :=
  ∀ k < n, (chain.page k).next? = some (chain.address (k + 1))

/-- The chain ends at this page. -/
structure EndsAt (last : Nat) : Prop where
  linked : chain.LinkedTo last
  ends : (chain.page last).next? = none

/-- The items of the first pages, in order. -/
def items (n : Nat) : List α :=
  (List.range n).flatMap fun k => (chain.page k).items

/-- What is noted of the reads of the first pages. -/
def entries (n : Nat) : List LogEntry :=
  (List.range n).map fun k => ⟨.debug, "GET " ++ chain.address k⟩

/-- The requests for the first pages. -/
def requests (client : Client) (n : Nat) : List Request :=
  (List.range n).map fun k => ⟨.get, chain.url k, client.token, none⟩

theorem items_succ (n : Nat) : chain.items (n + 1) = chain.items n ++ (chain.page n).items := by
  simp [items, List.range_succ]

theorem entries_succ (n : Nat) :
    chain.entries (n + 1) = chain.entries n ++ [⟨.debug, "GET " ++ chain.address n⟩] := by
  simp [entries, List.range_succ]

theorem requests_succ (client : Client) (n : Nat) :
    chain.requests client (n + 1) =
      chain.requests client n ++ [⟨.get, chain.url n, client.token, none⟩] := by
  simp [requests, List.range_succ]

end Chain

namespace Client

variable {α : Type} {client : Client} {read : Json → Option α} {replies : Nat → Option Response}
  {address : String} {url : Url} {page : Page α} {reply : Option Response} {n k last : Nat}
  {chain : Chain α}

/-- The reply brings the page: it is a success, and its body reads as the page. -/
def Brings (read : Json → Option α) (reply : Option Response) (page : Page α) : Prop :=
  ∃ r, reply = some r ∧ Status.isSuccess r.status = true ∧
    (Json.parse? r.body).bind (Page.ofJson? read) = some page

/-- What is reported of a reply that brings no page. -/
def pageFailure (url : Url) : Option Response → Failure
  | none => requestFailure ("error sending request for url (" ++ url.text ++ ")")
  | some r =>
    if Status.isSuccess r.status then decodeFailure else statusFailure r.status r.body

/-- The page is obtained: its address can be requested, and the reply to it brings the page. -/
structure Obtains (client : Client) (read : Json → Option α) (replies : Nat → Option Response)
    (chain : Chain α) (k : Nat) : Prop where
  reaches : client.Reaches (chain.address k) (chain.url k)
  brings : Brings read (replies k) (chain.page k)

section Page

theorem receive_of_brings (h : Brings read reply page) (url : Url) :
    (receive url reply).bind (decode (Page.ofJson? read)) = .done page := by
  obtain ⟨r, rfl, hstatus, hread⟩ := h
  rw [receive_of_isSuccess hstatus, done_bind, decode, hread]

theorem receive_of_not_brings (h : ∀ page, ¬ Brings read reply page) (url : Url) :
    (receive url reply).bind (decode (Page.ofJson? read)) = .fail (pageFailure url reply) := by
  cases reply with
  | none => rfl
  | some r =>
    cases hstatus : Status.isSuccess r.status with
    | false => simp [receive, pageFailure, hstatus]
    | true =>
      have hread : (Json.parse? r.body).bind (Page.ofJson? read) = none :=
        Option.eq_none_iff_forall_ne_some.2 fun page hpage => h page ⟨r, rfl, hstatus, hpage⟩
      rw [receive_of_isSuccess hstatus, done_bind, decode, hread]
      simp [pageFailure, hstatus]

section Server

variable {σ : Type} (server : Request → σ → Option Response × σ)

/-- The read of a page whose address can be requested, and what goes on with it. -/
theorem run_get_page_bind (h : client.Reaches address url) {β : Type} (f : Page α → Exchange β)
    (s : σ) :
    let q : Request := ⟨.get, url, client.token, none⟩
    let rest := run server
      (((receive url (server q s).1).bind (decode (Page.ofJson? read))).bind f) (server q s).2
    run server ((client.get (Page.ofJson? read) address).bind f) s =
      { rest with log := ⟨.debug, "GET " ++ address⟩ :: rest.log, asked := q :: rest.asked } := by
  intro q rest
  rw [get, bind_eq_bind, bind_assoc, run_sendGet_bind_by server h, ← bind_assoc]

/-- A page that is obtained comes before the list from the next page on. -/
theorem run_pagesFrom_step_by (hreaches : client.Reaches address url) (s : σ)
    (hbrings : Brings read (server ⟨.get, url, client.token, none⟩ s).1 page) (budget : Nat) :
    run server (client.pagesFrom read (budget + 1) (some address)) s =
      (run server (client.pagesFrom read budget page.next?)
        (server ⟨.get, url, client.token, none⟩ s).2).after page.items
        [⟨.debug, "GET " ++ address⟩] [⟨.get, url, client.token, none⟩] := by
  rw [pagesFrom_succ, run_get_page_bind server hreaches, receive_of_brings hbrings, done_bind,
    run_bind_map]
  rfl

/-- A page that its reply does not bring ends the list. -/
theorem run_pagesFrom_of_not_brings_by (hreaches : client.Reaches address url) (s : σ)
    (h : ∀ page, ¬ Brings read (server ⟨.get, url, client.token, none⟩ s).1 page) (budget : Nat) :
    run server (client.pagesFrom read (budget + 1) (some address)) s =
      ⟨.failed (pageFailure url (server ⟨.get, url, client.token, none⟩ s).1),
        [⟨.debug, "GET " ++ address⟩], [⟨.get, url, client.token, none⟩],
        (server ⟨.get, url, client.token, none⟩ s).2⟩ := by
  rw [pagesFrom_succ, run_get_page_bind server hreaches, receive_of_not_brings h]
  rfl

/-- So does an address that no request can be made for, and nothing is asked there. -/
theorem run_pagesFrom_of_error {text : String}
    (h : client.request .get address none = .error text) (s : σ) (budget : Nat) :
    run server (client.pagesFrom read (budget + 1) (some address)) s =
      ⟨.failed (requestFailure text), [⟨.debug, "GET " ++ address⟩], [], s⟩ := by
  have hsend : client.send .get address none = .fail (requestFailure text) := by
    rw [send, h]
  have hget : client.get (Page.ofJson? read) address =
      .log ⟨.debug, "GET " ++ address⟩ (.fail (requestFailure text)) := by
    show Program.log _ ((client.send .get address none).bind _) = _
    rw [hsend]
    rfl
  rw [pagesFrom_succ, hget]
  rfl

end Server

theorem run_pagesFrom_step (hreaches : client.Reaches address url)
    (hbrings : Brings read (replies n) page) (budget : Nat) :
    run (scripted replies) (client.pagesFrom read (budget + 1) (some address)) n =
      (run (scripted replies) (client.pagesFrom read budget page.next?) (n + 1)).after page.items
        [⟨.debug, "GET " ++ address⟩] [⟨.get, url, client.token, none⟩] :=
  run_pagesFrom_step_by (scripted replies) hreaches n hbrings budget

theorem run_pagesFrom_of_not_brings (hreaches : client.Reaches address url)
    (h : ∀ page, ¬ Brings read (replies n) page) (budget : Nat) :
    run (scripted replies) (client.pagesFrom read (budget + 1) (some address)) n =
      ⟨.failed (pageFailure url (replies n)), [⟨.debug, "GET " ++ address⟩],
        [⟨.get, url, client.token, none⟩], n + 1⟩ :=
  run_pagesFrom_of_not_brings_by (scripted replies) hreaches n h budget

end Page

/-- **Once the first pages have been obtained**, the rest of the run is that of the list from the next
page on. -/
theorem run_pagesFrom_of_obtained (hlinked : chain.LinkedTo k)
    (hobtains : ∀ j < k, client.Obtains read replies chain j) (budget : Nat) :
    run (scripted replies) (client.pagesFrom read (k + budget) (some (chain.address 0))) 0 =
      (run (scripted replies) (client.pagesFrom read budget (some (chain.address k))) k).after
        (chain.items k) (chain.entries k) (chain.requests client k) := by
  -- the last of the pages is taken off, and with it one page of the budget
  induction k generalizing budget with
  | zero =>
    rw [Nat.zero_add]
    exact (Ran.after_nil _).symm
  | succ k ih =>
    obtain ⟨hreaches, hbrings⟩ := hobtains k k.lt_succ_self
    rw [Nat.add_right_comm, Nat.add_assoc,
      ih (fun j hj => hlinked j (Nat.lt_succ_of_lt hj)) (fun j hj => hobtains j (Nat.lt_succ_of_lt hj)),
      run_pagesFrom_step hreaches hbrings, hlinked k k.lt_succ_self, Ran.after_after,
      chain.items_succ, chain.entries_succ, chain.requests_succ]

/-- **The run of a list whose pages form a chain.** When all pages are obtained, it finds their items in
order, with one request for each page, in order. The first page that is not obtained ends it with the
failure of that page and without items: after the request for it, or without one if no request can be
made for its address. Pages beyond the budget are not asked for. -/
theorem run_list_of_chain (client : Client) (read : Json → Option α)
    (replies : Nat → Option Response) (hchain : chain.EndsAt last) :
    let ran := run (scripted replies) (client.list read (chain.address 0)) 0
    (last < client.pageBudget → (∀ k ≤ last, client.Obtains read replies chain k) →
      ran = ⟨.done (chain.items (last + 1)), chain.entries (last + 1),
        chain.requests client (last + 1), last + 1⟩) ∧
    ∀ k ≤ last, (∀ j < k, client.Obtains read replies chain j) →
      (k < client.pageBudget → client.Reaches (chain.address k) (chain.url k) →
        (∀ page : Page α, ¬ Brings read (replies k) page) →
        ran = ⟨.failed (pageFailure (chain.url k) (replies k)), chain.entries (k + 1),
          chain.requests client (k + 1), k + 1⟩) ∧
      (k < client.pageBudget → ∀ text,
        client.request .get (chain.address k) none = .error text →
        ran = ⟨.failed (requestFailure text), chain.entries (k + 1), chain.requests client k, k⟩) ∧
      (client.pageBudget = k →
        ran = ⟨.unfinished, chain.entries k, chain.requests client k, k⟩) := by
  have hlist (budget : Nat) (hbudget : client.pageBudget = budget) :
      client.list read (chain.address 0) = client.pagesFrom read budget (some (chain.address 0)) :=
    hbudget ▸ rfl
  have hlinked {k : Nat} (hk : k ≤ last) : chain.LinkedTo k := fun j hj =>
    hchain.linked j (Nat.lt_of_lt_of_le hj hk)
  refine ⟨fun hbudget hobtains => ?_, fun k hk hobtains => ⟨fun hbudget hreaches hnone => ?_,
    fun hbudget text herror => ?_, fun hbudget => ?_⟩⟩
  · obtain ⟨budget, hbudget⟩ := Nat.exists_eq_add_of_lt hbudget
    obtain ⟨hreaches, hbrings⟩ := hobtains last (Nat.le_refl last)
    rw [hlist _ (hbudget.trans (Nat.add_assoc last budget 1)),
      run_pagesFrom_of_obtained hchain.linked fun j hj => hobtains j (Nat.le_of_lt hj),
      run_pagesFrom_step hreaches hbrings, hchain.ends, Ran.after_after, ← chain.items_succ,
      ← chain.entries_succ, ← chain.requests_succ]
    simp [Ran.after, Outcome.map]
  · obtain ⟨budget, hbudget⟩ := Nat.exists_eq_add_of_lt hbudget
    rw [hlist _ (hbudget.trans (Nat.add_assoc k budget 1)),
      run_pagesFrom_of_obtained (hlinked hk) hobtains, run_pagesFrom_of_not_brings hreaches hnone,
      chain.entries_succ, chain.requests_succ]
    rfl
  · obtain ⟨budget, hbudget⟩ := Nat.exists_eq_add_of_lt hbudget
    rw [hlist _ (hbudget.trans (Nat.add_assoc k budget 1)),
      run_pagesFrom_of_obtained (hlinked hk) hobtains, run_pagesFrom_of_error (scripted replies) herror,
      chain.entries_succ]
    simp [Ran.after, Outcome.map]
  · rw [hlist (k + 0) hbudget, run_pagesFrom_of_obtained (hlinked hk) hobtains, pagesFrom_zero]
    simp [Ran.after, Outcome.map]

/-- A list of two pages, the second of which gives an empty address: both are obtained, or the second
one is missing. -/
theorem run_list_of_chain_two :
    let client : Client := ⟨"https://management.azure.com", "sub", "token", 8⟩
    let start : String := "https://management.azure.com/list"
    let next : String := "https://management.azure.com/next"
    let body (name link : String) : String :=
      "\x7b\"value\": [\x7b\"name\": \"" ++ name ++ "\"\x7d], \"nextLink\": \"" ++ link ++ "\"\x7d"
    let replies (second : Response) : Nat → Option Response
      | 0 => some { status := 200, body := body "one" next }
      | _ => some second
    let ran (second : Response) :=
      run (scripted (replies second)) (client.list DatabaseAccount.ofJson? start) 0
    let obtained := ran { status := 200, body := body "two" "" }
    let missing := ran { status := 404 }
    obtained.outcome = .done [{ name := some "one" }, { name := some "two" }] ∧
      obtained.asked.map (·.url.text) = [start, next] ∧
      missing.outcome = .failed (statusFailure 404 "") ∧
      missing.asked.map (·.url.text) = [start, next] := by
  intro client start next body replies ran obtained missing
  obtain ⟨first, hfirst⟩ : ∃ first, client.request .get start none = .ok first :=
    exists_request (by decide +kernel)
  obtain ⟨second, hsecond⟩ : ∃ second, client.request .get next none = .ok second :=
    exists_request (by decide +kernel)
  obtain ⟨firstUrl, hfirstUrl, -⟩ := request_eq_ok_iff.1 hfirst
  obtain ⟨secondUrl, hsecondUrl, -⟩ := request_eq_ok_iff.1 hsecond
  let pages : Nat → Page DatabaseAccount
    | 0 => ⟨[{ name := some "one" }], some next⟩
    | _ => ⟨[{ name := some "two" }], some ""⟩
  let chain : Chain DatabaseAccount :=
    ⟨fun | 0 => start | _ => next, fun | 0 => firstUrl | _ => secondUrl, pages⟩
  have hlink : (pages 0).next? = some next := by decide
  have hchain : chain.EndsAt 1 := {
    linked k hk := by
      obtain rfl := Nat.lt_one_iff.1 hk
      exact hlink
    ends := show (pages 1).next? = none by decide }
  have hreadOne : (Json.parse? (body "one" next)).bind (Page.ofJson? DatabaseAccount.ofJson?) =
      some (pages 0) := by decide +kernel
  have hreadTwo : (Json.parse? (body "two" "")).bind (Page.ofJson? DatabaseAccount.ofJson?) =
      some (pages 1) := by decide +kernel
  have hone (r : Response) : client.Obtains DatabaseAccount.ofJson? (replies r) chain 0 :=
    ⟨hfirstUrl, _, rfl, rfl, hreadOne⟩
  have htwo : client.Obtains DatabaseAccount.ofJson? (replies { status := 200, body := body "two" "" })
      chain 1 := ⟨hsecondUrl, _, rfl, rfl, hreadTwo⟩
  obtain ⟨hall, -⟩ := run_list_of_chain client DatabaseAccount.ofJson?
    (replies { status := 200, body := body "two" "" }) hchain
  obtain ⟨-, hsome⟩ := run_list_of_chain client DatabaseAccount.ofJson?
    (replies { status := 404 }) hchain
  have hobtained := hall (by decide) fun k hk => by
    obtain rfl | rfl := Nat.le_one_iff_eq_zero_or_eq_one.1 hk
    · exact hone _
    · exact htwo
  have hbefore (j : Nat) (hj : j < 1) :
      client.Obtains DatabaseAccount.ofJson? (replies { status := 404 }) chain j := by
    obtain rfl := Nat.lt_one_iff.1 hj
    exact hone _
  have hnone (page : Page DatabaseAccount) :
      ¬ Brings DatabaseAccount.ofJson? (some { status := 404 }) page := by
    rintro ⟨r, hr, hstatus, -⟩
    obtain rfl := Option.some.inj hr
    exact absurd hstatus (by decide)
  have hmissing := (hsome 1 (Nat.le_refl 1) hbefore).1 (by decide) hsecondUrl hnone
  exact ⟨congrArg Ran.outcome hobtained, by decide +kernel, congrArg Ran.outcome hmissing,
    by decide +kernel⟩

/-- An absolute address is not enough for a request: none is made for one of another scheme than those
of the network, and the list fails before it asks for its first page. -/
theorem run_list_of_chain_elsewhere :
    let client : Client := ⟨"ftp://h", "sub", "token", 8⟩
    let start := client.address (client.subscriptionPath ++ "/resourcegroups") groupVersion
    let replies (_ : Nat) : Option Response := some { status := 200, body := "\x7b\"value\": []\x7d" }
    let ran := run (scripted replies) (client.list ResourceGroup.ofJson? start) 0
    (Url.parse? start).isSome = true ∧ client.hasSendableToken = true ∧
      ran.outcome.hasFailed = true ∧ ran.asked.length ≠ 1 := by
  decide +kernel

end Client
end AzureProvisioning
