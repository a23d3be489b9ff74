/-
# Lists in pages

A list is fetched page after page, each at the address that the page before it gives (`Fetches`). It
is a success when the pages come to an end, within the budget, and its items are then those of all
pages, in order (`runs_pagesFrom_done_iff`). It ends with a missing object when some page is
answered 404, be it the first one or a later one (`endsNotFound_pagesFrom_iff`).

The list of the accounts of a group takes a missing object for a group that does not exist, and is
empty then. The pages that have been fetched are lost when it is a later page that is missing
(`runs_listAccountsIn_done_iff`).
-/

import AzureProvisioning.Proofs.Rest.Sending

namespace AzureProvisioning

/-- The address of the next page; an empty one stands for none. -/
def Page.next? {α : Type} (page : Page α) : Option String :=
  page.nextLink.filter (!·.isEmpty)

namespace Client

open Program

variable {α : Type} {client : Client} {read : Json → Option α} {start : Option String}
  {address : String} {t : Exchanged} {pages : List (Page α)} {next : Option String} {v : List α}

/-- Pages are fetched one after the other: the first one at the start, each other one at the address
that the page before it gives. The last argument is the address that comes next. -/
inductive Fetches (client : Client) (read : Json → Option α) :
    Option String → Exchanged → List (Page α) → Option String → Prop
  | nil (start : Option String) : Fetches client read start [] [] start
  | cons {address : String} {t t' : Exchanged} {page : Page α} {pages : List (Page α)}
      {next : Option String} : client.Fetched (Page.ofJson? read) address t page →
      Fetches client read page.next? t' pages next →
      Fetches client read (some address) (t ++ t') (page :: pages) next

theorem fetches_none_iff :
    Fetches client read none t pages next ↔ t = [] ∧ pages = [] ∧ next = none := by
  constructor
  · intro h
    cases h
    exact ⟨rfl, rfl, rfl⟩
  · rintro ⟨rfl, rfl, rfl⟩
    exact .nil none

theorem fetches_some_iff :
    Fetches client read (some address) t pages next ↔
      (t = [] ∧ pages = [] ∧ next = some address) ∨
      ∃ page t₁ t₂ rest, t = t₁ ++ t₂ ∧ pages = page :: rest ∧
        client.Fetched (Page.ofJson? read) address t₁ page ∧
        Fetches client read page.next? t₂ rest next := by
  constructor
  · intro h
    cases h with
    | nil => exact .inl ⟨rfl, rfl, rfl⟩
    | cons hpage hrest => exact .inr ⟨_, _, _, _, rfl, rfl, hpage, hrest⟩
  · rintro (⟨rfl, rfl, rfl⟩ | ⟨page, t₁, t₂, rest, rfl, rfl, hpage, hrest⟩)
    · exact .nil _
    · exact .cons hpage hrest

/-- The items of the pages from a start on, if there is one. -/
def pagesFrom (client : Client) (read : Json → Option α) (budget : Nat) :
    Option String → Exchange (List α)
  | none => .done []
  | some address => client.pages read budget address

@[simp] theorem pagesFrom_none (budget : Nat) : client.pagesFrom read budget none = .done [] := rfl

@[simp] theorem pagesFrom_zero (address : String) :
    client.pagesFrom read 0 (some address) = .unfinished := rfl

/-- A page is fetched, and then the pages after it. -/
theorem pagesFrom_succ (budget : Nat) (address : String) :
    client.pagesFrom read (budget + 1) (some address) =
      (client.get (Page.ofJson? read) address).bind fun page =>
        (client.pagesFrom read budget page.next?).bind fun items => .done (page.items ++ items) := by
  rw [pagesFrom, pages, bind_eq_bind]
  congr 1
  funext page
  show (match page.next? with | none => _ | some next => _) = _
  cases page.next? with
  | none => simp [pure_eq_done]
  | some next => rfl

/-- **A list that is a success is complete**: the pages came to an end, within the budget, and the
items are those of all of them, in order. -/
theorem runs_pagesFrom_done_iff {budget : Nat} :
    Runs (client.pagesFrom read budget start) t (.done v) ↔
      t.length ≤ budget ∧
        ∃ pages, Fetches client read start t pages none ∧ v = pages.flatMap Page.items := by
  have hnone (budget : Nat) (t : Exchanged) (v : List α) :
      Runs (client.pagesFrom read budget none) t (.done v) ↔
        t.length ≤ budget ∧
          ∃ pages, Fetches client read none t pages none ∧ v = pages.flatMap Page.items := by
    simp only [pagesFrom_none, runs_done_iff, Outcome.done.injEq, fetches_none_iff]
    constructor
    · rintro ⟨rfl, rfl⟩
      exact ⟨Nat.zero_le _, [], ⟨rfl, rfl, trivial⟩, rfl⟩
    · rintro ⟨-, pages, ⟨rfl, rfl, -⟩, rfl⟩
      exact ⟨rfl, rfl⟩
  -- The start varies: the pages after a page begin at the address that it gives.
  induction budget generalizing start t v with
  | zero =>
    obtain _ | address := start
    · exact hnone 0 t v
    simp only [pagesFrom_zero, runs_unfinished_iff, reduceCtorEq, and_false, false_iff,
      fetches_some_iff, false_or]
    rintro ⟨hlength, pages, ⟨page, t₁, t₂, rest, rfl, -, hpage, -⟩, -⟩
    have := hpage.length
    simp only [List.length_append] at hlength
    omega
  | succ budget ih =>
    obtain _ | address := start
    · exact hnone (budget + 1) t v
    simp only [pagesFrom_succ, runs_bind_done_iff, runs_get_done_iff, ih, runs_done_iff,
      Outcome.done.injEq, fetches_some_iff, reduceCtorEq, and_false, false_or]
    constructor
    · rintro ⟨page, t₁, _, rfl, hpage, _, t₂, _, rfl, ⟨hlength, pages, hpages, rfl⟩, rfl, rfl⟩
      have := hpage.length
      refine ⟨?_, page :: pages, ⟨page, t₁, t₂, pages, ?_, rfl, hpage, hpages⟩, rfl⟩
      · simp only [List.length_append, List.length_nil]
        omega
      · rw [List.append_nil]
    · rintro ⟨hlength, _, ⟨page, t₁, t₂, pages, rfl, rfl, hpage, hpages⟩, rfl⟩
      have := hpage.length
      simp only [List.length_append] at hlength
      exact ⟨page, t₁, t₂, rfl, hpage, _, t₂, [], (List.append_nil t₂).symm,
        ⟨by omega, pages, hpages, rfl⟩, rfl, rfl⟩

/-- **A list ends with a missing object exactly when a page of it is answered 404**, the first one
or a later one. -/
theorem endsNotFound_pagesFrom_iff {budget : Nat} :
    EndsNotFound (client.pagesFrom read budget start) t ↔
      t.length ≤ budget ∧ ∃ pages earlier last address, t = earlier ++ last ∧
        Fetches client read start earlier pages (some address) ∧
        client.FoundNothing address last := by
  induction budget generalizing start t with
  | zero =>
    have hmissing : ¬ EndsNotFound (client.pagesFrom read 0 start) t := by
      cases start <;> simp
    refine iff_of_false hmissing ?_
    rintro ⟨hlength, pages, earlier, last, address, rfl, -, hlast⟩
    have := hlast.length
    simp only [List.length_append] at hlength
    omega
  | succ budget ih =>
    obtain _ | address := start
    · simp [fetches_none_iff]
    simp only [pagesFrom_succ, endsNotFound_bind_iff, endsNotFound_get_iff, runs_get_done_iff, ih,
      not_endsNotFound_done, and_false, exists_false, or_false]
    constructor
    · rintro (hlast |
        ⟨page, t₁, _, rfl, hpage, hlength, pages, earlier, last, a, rfl, hpages, hlast⟩)
      · refine ⟨?_, [], [], t, address, rfl, .nil _, hlast⟩
        have := hlast.length
        omega
      · refine ⟨?_, page :: pages, t₁ ++ earlier, last, a, ?_, .cons hpage hpages, hlast⟩
        · have := hpage.length
          simp only [List.length_append] at hlength ⊢
          omega
        · rw [List.append_assoc]
    · rintro ⟨hlength, pages, earlier, last, a, rfl, hpages, hlast⟩
      rcases fetches_some_iff.1 hpages with
        ⟨rfl, rfl, ha⟩ | ⟨page, t₁, t₂, rest, rfl, rfl, hpage, hrest⟩
      · cases ha
        exact .inl hlast
      · refine .inr ⟨page, t₁, t₂ ++ last, ?_, hpage, ?_, rest, t₂, last, a, rfl, hrest, hlast⟩
        · rw [List.append_assoc]
        · have := hpage.length
          simp only [List.length_append] at hlength ⊢
          omega

/-- The address of the list of the accounts of a group. -/
def accountsAddress (client : Client) (group : String) : String :=
  client.address (client.groupPath group ++ accountsPath) accountVersion

/-- The list of the accounts of a group makes do when something is missing. -/
theorem perform_listAccountsIn (client : Client) (group : String) :
    client.perform (.listAccountsIn group) =
      (client.pagesFrom DatabaseAccount.ofJson? client.pageBudget
        (some (client.accountsAddress group))).whenMissing [] := by
  rw [perform, whenMissing, bind_eq_bind]
  congr 1
  funext listed
  cases listed <;> rfl

/-- **When the list of the accounts of a group is a success.** Either all its pages are fetched, and
then it has their items, in order; or one of them is answered 404, and then it is empty, whatever the
pages before that one were. -/
theorem runs_listAccountsIn_done_iff (client : Client) (group : String) (t : Exchanged)
    (v : List DatabaseAccount) :
    Runs (client.perform (.listAccountsIn group)) t (.done v) ↔
      t.length ≤ client.pageBudget ∧
        ((∃ pages,
            Fetches client DatabaseAccount.ofJson? (some (client.accountsAddress group)) t pages none ∧
            v = pages.flatMap Page.items) ∨
          (∃ pages earlier last address, t = earlier ++ last ∧
            Fetches client DatabaseAccount.ofJson? (some (client.accountsAddress group)) earlier pages
              (some address) ∧
            client.FoundNothing address last) ∧ v = []) := by
  rw [perform_listAccountsIn, runs_whenMissing_done_iff, runs_pagesFrom_done_iff, endsNotFound_pagesFrom_iff,
    and_assoc, ← and_or_left]

/-- The first page has an account and the second one is missing: the list is empty. -/
theorem runs_listAccountsIn_done_iff_lost :
    let client : Client := ⟨"https://management.azure.com", "sub", "token", 8⟩
    let next : String := "https://management.azure.com/next"
    let page : Response := {
      status := 200
      body := "\x7b\"value\": [\x7b\"name\": \"one\"\x7d], \"nextLink\": \"" ++ next ++ "\"\x7d" }
    (Json.parse? page.body).bind (Page.ofJson? DatabaseAccount.ofJson?) =
      some ⟨[{ name := some "one" }], some next⟩ ∧
    ∃ first second : Request, Runs (client.perform (.listAccountsIn "rg"))
      [⟨first, some page⟩, ⟨second, some { status := 404 }⟩] (.done []) := by
  intro client next page
  have hread : (Json.parse? page.body).bind (Page.ofJson? DatabaseAccount.ofJson?) =
      some ⟨[{ name := some "one" }], some next⟩ := by decide +kernel
  obtain ⟨first, hfirst⟩ : ∃ first, client.request .get (client.accountsAddress "rg") none =
      .ok first := exists_request (by decide +kernel)
  obtain ⟨second, hsecond⟩ : ∃ second, client.request .get next none = .ok second :=
    exists_request (by decide +kernel)
  have hpages : Fetches client DatabaseAccount.ofJson? (some (client.accountsAddress "rg"))
      [⟨first, some page⟩] [⟨[{ name := some "one" }], some next⟩] (some next) :=
    .cons ⟨page, ⟨first, hfirst, rfl⟩, rfl, hread⟩ (.nil _)
  have hmissing : client.FoundNothing next [⟨second, some { status := 404 }⟩] :=
    ⟨{ status := 404 }, ⟨second, hsecond, rfl⟩, rfl⟩
  exact ⟨hread, first, second, (runs_listAccountsIn_done_iff client "rg" _ []).2
    ⟨show 2 ≤ 8 by decide, .inr ⟨⟨_, _, _, next, rfl, hpages, hmissing⟩, rfl⟩⟩⟩

end Client
end AzureProvisioning
