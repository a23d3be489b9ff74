/-
# Requests of calls on one object

The requests of a call go to addresses that are written with the key of its object, apart from the
polls of the operation that a response announces, which go where the response says
(`Client.directed_perform`). An operation that makes calls on one object alone (`Program.AsksOnly`)
therefore makes requests to that object's addresses alone, however they are answered
(`Client.directed_exchange`).
-/

import AzureProvisioning.Proofs.Rest.Targets

namespace AzureProvisioning

open Program

namespace Program

variable {Query : Type} {Answer : Query → Type} {α β : Type} {P : Query → Prop}

/-- Every question that the program may ask has the property. -/
def AsksOnly (P : Query → Prop) : Program Query Answer α → Prop
  | done _ | fail _ | unfinished => True
  | log _ next => AsksOnly P next
  | ask q next => P q ∧ ∀ answer, AsksOnly P (next answer)

/-- A program that asks nothing has no questions in its transcripts. -/
theorem AsksOnly.eq_nil {p : Program Query Answer α} {t : List (Asked Query Answer)} {o : Outcome α}
    (h : p.AsksOnly fun _ => False) (hruns : Runs p t o) : t = [] := by
  induction hruns with
  | done | fail | unfinished => rfl
  | log _ ih => exact ih h
  | ask => exact h.1.elim

theorem AsksOnly.bind {p : Program Query Answer α} {f : α → Program Query Answer β}
    (hp : p.AsksOnly P) (hf : ∀ a, (f a).AsksOnly P) : (p.bind f).AsksOnly P := by
  induction p with
  | done a => exact hf a
  | fail | unfinished => trivial
  | log entry next ih => exact ih hp
  | ask q next ih => exact ⟨hp.1, fun answer => ih answer (hp.2 answer)⟩

theorem asksOnly_quiet_iff {p : Program Query Answer α} : p.quiet.AsksOnly P ↔ p.AsksOnly P := by
  induction p with
  | done | fail | unfinished => exact Iff.rfl
  | log entry next ih => exact ih
  | ask q next ih => exact and_congr_right' (forall_congr' ih)

theorem AsksOnly.attempt {p : Program Query Answer α} (h : p.AsksOnly P) : p.attempt.AsksOnly P := by
  induction p with
  | done | fail | unfinished => trivial
  | log entry next ih => exact ih h
  | ask q next ih => exact ⟨h.1, fun answer => ih answer (h.2 answer)⟩

theorem asksOnly_ofExcept (value : Except Failure α) :
    (ofExcept value : Program Query Answer α).AsksOnly P := by
  cases value <;> trivial

/-- What asks nothing after a program adds nothing to its transcripts. -/
theorem exists_runs_of_bind {p : Program Query Answer α} {f : α → Program Query Answer β}
    {t : List (Asked Query Answer)} {o : Outcome β} (hf : ∀ a, (f a).AsksOnly fun _ => False)
    (h : Runs (p.bind f) t o) : ∃ o', Runs p t o' := by
  rcases runs_bind_iff.1 h with ⟨a, t₁, t₂, rfl, hp, hrest⟩ | ⟨e, hp, -⟩ | ⟨hp, -⟩
  · rw [(hf a).eq_nil hrest, List.append_nil]
    exact ⟨_, hp⟩
  · exact ⟨_, hp⟩
  · exact ⟨_, hp⟩

end Program

/-- The object that a call is about; none for a list. -/
def Call.key? : Call → Option Key
  | getAccount group name | putAccount group name _ | patchAccount group name _
  | changePriorities group name _ | deleteAccount group name => some (.account group name)
  | getGroup name | putGroup name _ | setGroupTags name _ | deleteGroup name => some (.group name)
  | listAccounts | listAccountsIn _ | listGroups => none

namespace Client

variable {α : Type} {client : Client} {P Q : Request → Prop} {t t' : Exchanged} {method : Method}
  {address : String} {body : Option Json} {r : Response} {key : Key}

/-- These requests follow a request as polls: there are none, or the request changes something and its
response announces the operation that they ask for. -/
def Watches (client : Client) (request : Request) (reply : Option Response) (polls : Exchanged) : Prop :=
  polls = [] ∨ request.method ≠ .get ∧ ∃ r, reply = some r ∧ client.Polled r (polls.map (·.query))

/-- Each request that is no poll has the property. -/
inductive Directed (client : Client) (P : Request → Prop) : Exchanged → Prop
  | nil : Directed client P []
  | cons {request : Request} {reply : Option Response} {polls rest : Exchanged} :
      P request → client.Watches request reply polls → Directed client P rest →
      Directed client P (⟨request, reply⟩ :: (polls ++ rest))

theorem Directed.mono (h : client.Directed P t) (hPQ : ∀ request, P request → Q request) :
    client.Directed Q t := by
  induction h with
  | nil => exact .nil
  | cons hrequest hwatches _ ih => exact .cons (hPQ _ hrequest) hwatches ih

theorem Directed.append (h : client.Directed P t) (h' : client.Directed P t') :
    client.Directed P (t ++ t') := by
  induction h with
  | nil => exact h'
  | cons hrequest hwatches _ ih =>
    rw [List.cons_append, List.append_assoc]
    exact .cons hrequest hwatches ih

theorem directed_singleton {request : Request} (h : P request) (reply : Option Response) :
    client.Directed P [⟨request, reply⟩] :=
  .cons h (.inl rfl) .nil

section Calls

/-- A request is made at most once, to the address that was written. -/
theorem runs_send {o : Outcome Response} (h : Runs (client.send method address body) t o) :
    (t = [] ∧ ∀ r, o ≠ .done r) ∨ ∃ url reply, client.Reaches address url ∧
      t = [⟨⟨method, url, client.token, body⟩, reply⟩] ∧ ∀ r, o = .done r → reply = some r := by
  by_cases hreaches : ∃ url, client.Reaches address url
  · obtain ⟨url, hurl⟩ := hreaches
    rw [send_of_reaches hurl, runs_ask_iff] at h
    obtain ⟨reply, t', rfl, hrest⟩ := h
    rcases receive_cases url reply with ⟨r, rfl, hstatus⟩ | ⟨-, e, he, -⟩
    · rw [receive_of_isSuccess hstatus] at hrest
      obtain ⟨rfl, rfl⟩ := runs_done_iff.1 hrest
      exact .inr ⟨url, some r, hurl, rfl, fun r' ho => by rw [Outcome.done.inj ho]⟩
    · rw [he] at hrest
      obtain ⟨rfl, rfl⟩ := runs_fail_iff.1 hrest
      exact .inr ⟨url, reply, hurl, rfl, nofun⟩
  · obtain ⟨text, hfail⟩ := exists_send_eq_fail method body fun url hurl => hreaches ⟨url, hurl⟩
    rw [hfail] at h
    obtain ⟨rfl, rfl⟩ := runs_fail_iff.1 h
    exact .inl ⟨rfl, nofun⟩

theorem asksOnly_decode (read : Json → Option α) (r : Response) :
    (decode read r).AsksOnly fun _ => False := by
  unfold decode
  split <;> trivial

/-- Reading is one request. -/
theorem directed_sendGet {o : Outcome Response}
    (h : ∀ url, client.Reaches address url → P ⟨.get, url, client.token, none⟩)
    (hruns : Runs (client.sendGet address) t o) : client.Directed P t := by
  obtain ⟨rfl, -⟩ | ⟨url, reply, hurl, rfl, -⟩ := runs_send (runs_log_iff.1 hruns)
  · exact .nil
  · exact directed_singleton (h url hurl) reply

/-- What goes on after the answer to a poll: nothing, or the next one. -/
theorem runs_conclude {next : Exchange Unit} {w : Watch} {o : Outcome Unit}
    (h : Runs (conclude next w r) t o) : t = [] ∨ Runs next t o := by
  cases w with
  | status address =>
    rcases runs_bind_iff.1 h with ⟨s, t₁, t₂, rfl, hdecode, hrest⟩ | ⟨e, hdecode, -⟩ | ⟨hdecode, -⟩
    · rw [(asksOnly_decode _ r).eq_nil hdecode, List.nil_append]
      unfold judge at hrest
      split_ifs at hrest
      · exact .inl (runs_done_iff.1 hrest).1
      · exact .inl (runs_fail_iff.1 hrest).1
      · exact .inl (runs_fail_iff.1 hrest).1
      · exact .inr hrest
    · exact .inl ((asksOnly_decode _ r).eq_nil hdecode)
    · exact .inl ((asksOnly_decode _ r).eq_nil hdecode)
  | location address =>
    dsimp only [conclude] at h
    split_ifs at h
    · exact .inl (runs_done_iff.1 h).1
    · exact .inr h

/-- A poll is one request at most, to the address of the operation. -/
theorem polls_sendGet {o : Outcome Response} (h : Runs (client.sendGet address) t o) :
    t.length ≤ 1 ∧ ∀ poll ∈ t.map (·.query), ∃ url, client.Reaches address url ∧
      poll = ⟨.get, url, client.token, none⟩ := by
  obtain ⟨rfl, -⟩ | ⟨url, reply, hurl, rfl, -⟩ := runs_send (runs_log_iff.1 h)
  · exact ⟨Nat.zero_le 1, List.forall_mem_nil _⟩
  · exact ⟨Nat.le_refl 1, fun poll hpoll => ⟨url, hurl, List.mem_singleton.1 hpoll⟩⟩

/-- Waiting asks for the operation, as often as it may. -/
theorem polls_follow {w : Watch} {polls : Nat} {o : Outcome Unit}
    (h : Runs (client.follow w polls) t o) :
    t.length ≤ polls ∧ ∀ poll ∈ t.map (·.query), ∃ url, client.Reaches w.address url ∧
      poll = ⟨.get, url, client.token, none⟩ := by
  -- Each poll uses up one of those that are allowed.
  induction polls generalizing t with
  | zero =>
    rw [follow_zero, runs_fail_iff] at h
    rw [h.1]
    exact ⟨Nat.le_refl 0, List.forall_mem_nil _⟩
  | succ polls ih =>
    rw [follow_succ] at h
    rcases runs_bind_iff.1 h with ⟨r, t₁, t₂, rfl, hsent, hrest⟩ | ⟨e, hsent, -⟩ | ⟨hsent, -⟩
    · obtain ⟨hone, hfirst⟩ := polls_sendGet hsent
      rw [List.length_append, List.map_append, List.forall_mem_append]
      obtain rfl | hnext := runs_conclude hrest
      · exact ⟨by rw [List.length_nil]; omega, hfirst, List.forall_mem_nil _⟩
      · obtain ⟨hlength, hlater⟩ := ih hnext
        exact ⟨by omega, hfirst, hlater⟩
    · obtain ⟨hone, hfirst⟩ := polls_sendGet hsent
      exact ⟨by omega, hfirst⟩
    · obtain ⟨hone, hfirst⟩ := polls_sendGet hsent
      exact ⟨by omega, hfirst⟩

theorem polled_of_runs_await {o : Outcome Unit} (h : Runs (client.await r) t o) :
    client.Polled r (t.map (·.query)) := by
  rw [await_eq] at h
  unfold Polled
  rw [List.length_map]
  cases hwatch : r.watch? with
  | none =>
    rw [hwatch] at h
    rw [(runs_done_iff.1 h).1]
    exact ⟨Nat.zero_le _, rfl⟩
  | some w =>
    rw [hwatch] at h
    exact polls_follow h

/-- A request that changes something is made at most once, and is followed by the polls of its
operation. -/
theorem directed_mutate {o : Outcome Unit} (hmethod : method ≠ .get)
    (h : ∀ url, client.Reaches address url → P ⟨method, url, client.token, body⟩)
    (hruns : Runs (client.mutate method address body) t o) : client.Directed P t := by
  have hfirst {t₁ : Exchanged} {o₁ : Outcome Response}
      (hsent : Runs (client.send method address body) t₁ o₁) : client.Directed P t₁ := by
    obtain ⟨rfl, -⟩ | ⟨url, reply, hurl, rfl, -⟩ := runs_send hsent
    · exact .nil
    · exact directed_singleton (h url hurl) reply
  replace hruns : Runs ((client.send method address body).bind client.await) t o :=
    runs_log_iff.1 hruns
  rcases runs_bind_iff.1 hruns with ⟨r, t₁, polls, rfl, hsent, hawait⟩ | ⟨e, hsent, -⟩ | ⟨hsent, -⟩
  · obtain ⟨-, hnot⟩ | ⟨url, reply, hurl, rfl, hreply⟩ := runs_send hsent
    · exact absurd rfl (hnot r)
    · rw [List.singleton_append, ← List.append_nil polls]
      exact .cons (h url hurl) (.inr ⟨hmethod, r, hreply r rfl, polled_of_runs_await hawait⟩) .nil
  · exact hfirst hsent
  · exact hfirst hsent

theorem directed_get {read : Json → Option α} {o : Outcome α}
    (h : ∀ url, client.Reaches address url → P ⟨.get, url, client.token, none⟩)
    (hruns : Runs (client.get read address) t o) : client.Directed P t := by
  obtain ⟨o', hsent⟩ := exists_runs_of_bind (asksOnly_decode read) hruns
  exact directed_sendGet h hsent

theorem directed_getOptional {read : Json → Option α} {o : Outcome (Option α)}
    (h : ∀ url, client.Reaches address url → P ⟨.get, url, client.token, none⟩)
    (hruns : Runs (client.getOptional read address) t o) : client.Directed P t := by
  obtain ⟨o', hattempt⟩ := exists_runs_of_bind (p := (client.sendGet address).attempt) (fun r => by
    cases r with
    | ok response => exact (asksOnly_decode read response).bind fun _ => trivial
    | error e =>
      dsimp only
      split <;> trivial) hruns
  rcases runs_attempt_iff.1 hattempt with ⟨_, hsent, -⟩ | ⟨_, hsent, -⟩ | ⟨hsent, -⟩
  · exact directed_sendGet h hsent
  · exact directed_sendGet h hsent
  · exact directed_sendGet h hsent

/-- The address that a call changes something at is written with the key of its object. -/
theorem address_of_change? {c : Call} (hkey : c.key? = some key)
    (hchange : client.change? c = some (method, address, body)) :
    address = key.address client method ∧
      ((reader? c).isSome = true → address = key.address client .get) := by
  cases c with
  | getAccount | listAccounts | listAccountsIn | getGroup | listGroups => cases hchange
  | putAccount | patchAccount | putGroup | setGroupTags | deleteAccount | deleteGroup =>
    cases hkey
    cases hchange
    exact ⟨rfl, fun _ => rfl⟩
  | changePriorities =>
    cases hkey
    cases hchange
    exact ⟨rfl, nofun⟩

/-- The requests of a call on an object go to addresses that are written with its key. -/
theorem directed_perform {c : Call} {o : Outcome c.Reply} (hkey : c.key? = some key)
    (h : Runs (client.perform c) t o) :
    client.Directed (fun r => client.Reaches (key.address client r.method) r.url) t := by
  cases hc : c.isMutating with
  | false =>
    cases c with
    | getAccount group name =>
      cases hkey
      exact directed_getOptional (fun _ hurl => hurl) h
    | getGroup name =>
      cases hkey
      exact directed_getOptional (fun _ hurl => hurl) h
    | listAccounts | listAccountsIn | listGroups => cases hkey
    | _ => cases hc
  | true =>
    obtain ⟨method, address, body, hchange, hmethod⟩ := exists_change client hc
    obtain ⟨f, hperform, hf⟩ := perform_eq hchange
    obtain ⟨haddress, hread⟩ := address_of_change? hkey hchange
    have hfirst {t₁ : Exchanged} {o₁ : Outcome Unit}
        (hruns : Runs (client.mutate method address body) t₁ o₁) :
        client.Directed (fun r => client.Reaches (key.address client r.method) r.url) t₁ :=
      directed_mutate hmethod (fun url hurl => haddress ▸ hurl) hruns
    rw [hperform] at h
    rcases runs_bind_iff.1 h with ⟨⟨⟩, t₁, t₂, rfl, hmutate, hrest⟩ | ⟨e, hmutate, -⟩ | ⟨hmutate, -⟩
    · refine (hfirst hmutate).append ?_
      cases hreader : reader? c with
      | none =>
        rw [hreader] at hf
        obtain ⟨reply, hf⟩ := hf
        rw [hf, runs_done_iff] at hrest
        rw [hrest.1]
        exact .nil
      | some read =>
        rw [hreader] at hf hread
        dsimp only at hf
        rw [hf] at hrest
        exact directed_get (fun url hurl => hread rfl ▸ hurl) hrest
    · exact hfirst hmutate
    · exact hfirst hmutate

/-- **An operation on one object makes requests to its addresses alone**, however it ends; one on none
makes no requests. -/
theorem directed_exchange {key? : Option Key} {p : Operation α} {o : Outcome α}
    (hp : p.AsksOnly fun c => ∃ key, key? = some key ∧ c.key? = some key)
    (h : Runs (client.exchange p) t o) :
    client.Directed
      (fun r => ∃ key, key? = some key ∧ client.Reaches (key.address client r.method) r.url) t := by
  induction p generalizing t with
  | done a =>
    cases h
    exact .nil
  | fail e =>
    cases h
    exact .nil
  | unfinished =>
    cases h
    exact .nil
  | log entry next ih =>
    cases h with
    | log h => exact ih hp h
  | ask c next ih =>
    obtain ⟨⟨key, hkey?, hkey⟩, hnext⟩ := hp
    have hfirst {t₁ : Exchanged} {o₁ : Outcome c.Answer} (hruns : Runs (client.answer c) t₁ o₁) :
        client.Directed
          (fun r => ∃ key, key? = some key ∧ client.Reaches (key.address client r.method) r.url) t₁ := by
      have hperform {o' : Outcome c.Reply} (hruns : Runs (client.perform c) t₁ o') :
          client.Directed (fun r => ∃ key, key? = some key ∧
            client.Reaches (key.address client r.method) r.url) t₁ :=
        (directed_perform hkey hruns).mono fun r hr => ⟨key, hkey?, hr⟩
      rcases runs_attempt_iff.1 hruns with ⟨_, hruns, -⟩ | ⟨_, hruns, -⟩ | ⟨hruns, -⟩
      · exact hperform hruns
      · exact hperform hruns
      · exact hperform hruns
    rcases runs_bind_iff.1 h with ⟨answer, t₁, t₂, rfl, hanswer, hrest⟩ | ⟨e, hanswer, -⟩ | ⟨hanswer, -⟩
    · exact (hfirst hanswer).append (ih answer (hnext answer) hrest)
    · exact hfirst hanswer
    · exact hfirst hanswer

end Calls

end Client
end AzureProvisioning
