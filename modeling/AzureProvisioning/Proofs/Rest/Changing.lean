/-
# Requests that change something

A call that changes something is one request with its method, the polls of the operation that the
response announces, and for most calls a last request that reads the object back (`perform_eq`).
Here the replies come from a script, the `n`-th reply to the `n`-th request, so it is said of the
replies alone whether waiting ends well (`Watch.EndsWithin`, `EndsWell`).

The polls are followed by induction on those that are left (`run_follow`), and the whole call is put
together from its parts (`run_mutate_bind_of_accepted`, `run_perform_changing`).
-/

import AzureProvisioning.Proofs.Rest.Polling

namespace AzureProvisioning

open Program

/-- The run has failed in this way. -/
def Ran.FailsAs {Query σ α : Type} (ran : Ran Query σ α) (kind : FailureKind) : Prop :=
  ∃ e, ran.outcome = .failed e ∧ e.kind = kind

/-- From the `n`-th reply on, one of so many replies says that the operation has ended well, and
every reply before it that the operation goes on. -/
def Watch.EndsWithin (w : Watch) (replies : Nat → Option Response) (n polls : Nat) : Prop :=
  ∃ k < polls, (∃ r, replies (n + k) = some r ∧ w.Succeeded r) ∧
    ∀ j < k, ∃ r, replies (n + j) = some r ∧ w.Pending r

namespace Watch

variable {w : Watch} {r : Response} {replies : Nat → Option Response} {n polls : Nat}

theorem Pending.not_succeeded (h : w.Pending r) : ¬ w.Succeeded r := by
  cases w with
  | status address =>
    rintro ⟨s, hreports, hs⟩
    obtain ⟨s', hreports', hs'⟩ := h
    obtain rfl : s = s' := Option.some.inj (hreports.2.symm.trans hreports'.2)
    simp [hs] at hs'
  | location address => exact fun hsucceeded => hsucceeded.2 h

/-- The first reply decides, unless it says that the operation goes on. -/
theorem endsWithin_succ_iff :
    w.EndsWithin replies n (polls + 1) ↔
      (∃ r, replies n = some r ∧ w.Succeeded r) ∨
        (∃ r, replies n = some r ∧ w.Pending r) ∧ w.EndsWithin replies (n + 1) polls := by
  constructor
  · rintro ⟨k, hk, hsucceeded, hpending⟩
    cases k with
    | zero => exact .inl hsucceeded
    | succ k =>
      refine .inr ⟨hpending 0 k.succ_pos, k, Nat.lt_of_succ_lt_succ hk, ?_, fun j hj => ?_⟩
      · rwa [Nat.add_right_comm, Nat.add_assoc]
      · have := hpending (j + 1) (Nat.succ_lt_succ hj)
        rwa [Nat.add_right_comm, Nat.add_assoc]
  · rintro (hsucceeded | ⟨hfirst, k, hk, hsucceeded, hpending⟩)
    · exact ⟨0, polls.succ_pos, hsucceeded, fun j hj => absurd hj j.not_lt_zero⟩
    · refine ⟨k + 1, Nat.succ_lt_succ hk, ?_, fun j hj => ?_⟩
      · rwa [Nat.add_right_comm, Nat.add_assoc] at hsucceeded
      · cases j with
        | zero => exact hfirst
        | succ j =>
          have := hpending j (Nat.lt_of_succ_lt_succ hj)
          rwa [Nat.add_right_comm, Nat.add_assoc] at this

theorem not_endsWithin_zero : ¬ w.EndsWithin replies n 0 := by
  rintro ⟨k, hk, -⟩
  exact k.not_lt_zero hk

end Watch

namespace Client

variable {α : Type} {client : Client} {w : Watch} {r : Response} {method : Method}
  {address : String} {url : Url} {body : Option Json} {read : Json → Option α}
  {replies : Nat → Option Response} {n : Nat}

/-- Whoever replies from a script: the `n`-th request gets the `n`-th reply. -/
def scripted (replies : Nat → Option Response) (_ : Request) (n : Nat) : Option Response × Nat :=
  (replies n, n + 1)

section Sending

/-- Requests can be made for the address, and go to this one: the address is absolute and has a
host, the token can stand in a header, and requests can be sent there. -/
def Reaches (client : Client) (address : String) (url : Url) : Prop :=
  ∃ written, Url.parse? address = some written ∧ written.hasHost = true ∧
    client.hasSendableToken = true ∧ written.withoutCredentials = url ∧ url.isSendable = true

/-- Method and body make no difference to whether a request can be made. -/
theorem request_eq_ok_iff {request : Request} :
    client.request method address body = .ok request ↔
      ∃ url, client.Reaches address url ∧ request = ⟨method, url, client.token, body⟩ := by
  constructor
  · intro h
    unfold Client.request at h
    cases hwritten : Url.parse? address with
    | none =>
      rw [hwritten] at h
      cases h
    | some written =>
      rw [hwritten] at h
      -- each of the three checks has been passed
      cases hhost : written.hasHost with
      | false =>
        simp only [hhost] at h
        cases h
      | true =>
        cases htoken : client.hasSendableToken with
        | false =>
          simp only [hhost, htoken] at h
          cases h
        | true =>
          cases hsendable : written.withoutCredentials.isSendable with
          | false =>
            simp only [hhost, htoken, hsendable] at h
            cases h
          | true =>
            simp only [hhost, htoken, hsendable] at h
            cases h
            exact ⟨_, ⟨written, hwritten, hhost, htoken, rfl, hsendable⟩, rfl⟩
  · rintro ⟨_, ⟨written, hwritten, hhost, htoken, rfl, hsendable⟩, rfl⟩
    unfold Client.request
    simp only [hwritten, hhost, htoken, hsendable]
    rfl

/-- What a reply to a request leads to. -/
def receive (url : Url) : Option Response → Exchange Response
  | none => .fail (requestFailure ("error sending request for url (" ++ url.text ++ ")"))
  | some r =>
    if Status.isSuccess r.status then .done r else .fail (statusFailure r.status r.body)

theorem send_of_reaches (h : client.Reaches address url) :
    client.send method address body = .ask ⟨method, url, client.token, body⟩ (receive url) := by
  rw [send, request_eq_ok_iff.2 ⟨url, h, rfl⟩]
  rfl

theorem exists_send_eq_fail (method : Method) (body : Option Json)
    (h : ∀ url, ¬ client.Reaches address url) :
    ∃ text, client.send method address body = .fail (requestFailure text) := by
  unfold send
  cases hrequest : client.request method address body with
  | error text => exact ⟨text, rfl⟩
  | ok request =>
    obtain ⟨url, hreaches, -⟩ := request_eq_ok_iff.1 hrequest
    exact absurd hreaches (h url)

theorem receive_of_isSuccess (h : Status.isSuccess r.status = true) :
    receive url (some r) = .done r :=
  if_pos h

/-- A reply without success ends the call; of these 404 alone stands for a missing object. -/
theorem receive_cases (url : Url) (reply : Option Response) :
    (∃ r, reply = some r ∧ Status.isSuccess r.status = true) ∨
      (∀ r, reply = some r → Status.isSuccess r.status = false) ∧
        ∃ e, receive url reply = .fail e ∧
          e.kind = if reply.any (·.status = 404) then .notFound else .fault := by
  cases reply with
  | none => exact .inr ⟨fun _ hr => (nomatch hr), _, rfl, rfl⟩
  | some r =>
    cases hstatus : Status.isSuccess r.status with
    | true => exact .inl ⟨r, rfl, hstatus⟩
    | false =>
      have hrefused (r' : Response) (hr : some r = some r') : Status.isSuccess r'.status = false :=
        Option.some.inj hr ▸ hstatus
      refine .inr ⟨hrefused, statusFailure r.status r.body, if_neg (by simp [hstatus]), ?_⟩
      unfold statusFailure
      by_cases hmissing : r.status = 404 <;> simp [hmissing, Failure.notFound, Failure.fault]

end Sending

section Waiting

theorem conclude_of_succeeded {next : Exchange Unit} (h : w.Succeeded r) :
    conclude next w r = .done () := by
  cases w with
  | status address =>
    obtain ⟨s, ⟨-, hread⟩, hs⟩ := h
    simp [conclude, decode, hread, judge, hs]
  | location address => simp [conclude, h.2]

theorem conclude_of_pending {next : Exchange Unit} (h : w.Pending r) :
    conclude next w r = next := by
  cases w with
  | status address =>
    obtain ⟨s, ⟨-, hread⟩, hs⟩ := h
    simp only [List.mem_cons, List.not_mem_nil, or_false, not_or] at hs
    simp [conclude, decode, hread, judge, hs]
  | location address => simp [conclude, show r.status = 202 from h]

/-- An answer that says neither ends the waiting with a failure. -/
theorem exists_conclude_eq_fail {next : Exchange Unit} (hstatus : Status.isSuccess r.status = true)
    (hsucceeded : ¬ w.Succeeded r) (hpending : ¬ w.Pending r) :
    ∃ e, conclude next w r = .fail e := by
  cases w with
  | status address =>
    cases hread : (Json.parse? r.body).bind OperationStatus.ofJson? with
    | none => exact ⟨_, by rw [conclude, decode, hread]; rfl⟩
    | some s =>
      have hs : s.status ≠ "Succeeded" := fun hs => hsucceeded ⟨s, ⟨hstatus, hread⟩, hs⟩
      have hend : s.status ∈ ["Succeeded", "Failed", "Canceled"] :=
        Decidable.byContradiction fun hgoes => hpending ⟨s, ⟨hstatus, hread⟩, hgoes⟩
      rw [conclude, decode, hread]
      show ∃ e, judge next s = .fail e
      rw [judge, if_neg hs]
      split_ifs with hfailed hcanceled
      · exact ⟨_, rfl⟩
      · exact ⟨_, rfl⟩
      · simp [hs, hfailed, hcanceled] at hend
  | location address => exact absurd ⟨hstatus, hpending⟩ hsucceeded

/-- A read, whoever replies to it, and what the reply leads to. -/
theorem run_sendGet_bind_by {σ : Type} (server : Request → σ → Option Response × σ)
    (h : client.Reaches address url) (f : Response → Exchange α) (s : σ) :
    let q : Request := ⟨.get, url, client.token, none⟩
    let rest := run server ((receive url (server q s).1).bind f) (server q s).2
    run server ((client.sendGet address).bind f) s =
      { rest with log := ⟨.debug, "GET " ++ address⟩ :: rest.log, asked := q :: rest.asked } := by
  show run server (.log _ ((client.send .get address none).bind f)) s = _
  rw [send_of_reaches h]
  rfl

/-- One poll, and what its reply leads to. -/
theorem run_sendGet_bind (h : client.Reaches address url) (f : Response → Exchange α) :
    let rest := run (scripted replies) ((receive url (replies n)).bind f) (n + 1)
    run (scripted replies) ((client.sendGet address).bind f) n =
      { rest with
        log := ⟨.debug, "GET " ++ address⟩ :: rest.log
        asked := ⟨.get, url, client.token, none⟩ :: rest.asked } :=
  run_sendGet_bind_by (scripted replies) h f n

/-- A reply that says neither that the operation has ended well nor that it goes on ends the
waiting. -/
theorem exists_receive_bind_conclude_eq_fail (url : Url) (next : Exchange Unit)
    {reply : Option Response}
    (hsucceeded : ¬ ∃ r, reply = some r ∧ w.Succeeded r)
    (hpending : ¬ ∃ r, reply = some r ∧ w.Pending r) :
    ∃ e, (receive url reply).bind (conclude next w) = .fail e := by
  rcases receive_cases url reply with ⟨r, rfl, hstatus⟩ | ⟨-, e, he, -⟩
  · rw [receive_of_isSuccess hstatus]
    exact exists_conclude_eq_fail hstatus (fun h => hsucceeded ⟨r, rfl, h⟩)
      fun h => hpending ⟨r, rfl, h⟩
  · exact ⟨e, by rw [he]; rfl⟩

/-- **Waiting for an operation** asks for its state at one address, as often as allowed at most, and
is a success exactly when the replies say in time that the operation has ended well. -/
theorem run_follow (h : client.Reaches w.address url) (replies : Nat → Option Response)
    (polls n : Nat) :
    let ran := run (scripted replies) (client.follow w polls) n
    (∃ k ≤ polls, ran.asked = List.replicate k ⟨.get, url, client.token, none⟩ ∧
        ran.state = n + k) ∧
      (w.EndsWithin replies n polls → ran.outcome = .done ()) ∧
      (¬ w.EndsWithin replies n polls → ∃ e, ran.outcome = .failed e) := by
  -- A poll is followed by others only while the operation is pending; it uses up one reply.
  induction polls generalizing n with
  | zero =>
    rw [follow_zero]
    exact ⟨⟨0, Nat.le_refl 0, rfl, rfl⟩, fun hends => absurd hends Watch.not_endsWithin_zero,
      fun _ => ⟨_, rfl⟩⟩
  | succ polls ih =>
    rw [follow_succ, run_sendGet_bind h, Watch.endsWithin_succ_iff]
    by_cases hsucceeded : ∃ r, replies n = some r ∧ w.Succeeded r
    · obtain ⟨r, hreply, hr⟩ := hsucceeded
      rw [hreply, receive_of_isSuccess hr.isSuccess, done_bind, conclude_of_succeeded hr]
      exact ⟨⟨1, Nat.succ_pos polls, rfl, rfl⟩, fun _ => rfl,
        fun hends => absurd (.inl ⟨r, rfl, hr⟩) hends⟩
    by_cases hpending : ∃ r, replies n = some r ∧ w.Pending r
    · obtain ⟨r, hreply, hr⟩ := hpending
      obtain ⟨⟨k, hk, hasked, hstate⟩, hwell, hnot⟩ := ih (n + 1)
      rw [hreply, receive_of_isSuccess hr.isSuccess, done_bind, conclude_of_pending hr]
      refine ⟨⟨k + 1, Nat.succ_le_succ hk, congrArg (_ :: ·) hasked, ?_⟩, fun hends => hwell ?_,
        fun hends => hnot fun hrest => hends (.inr ⟨⟨r, rfl, hr⟩, hrest⟩)⟩
      · exact hstate.trans (by omega)
      · rcases hends with ⟨r', hr', hsucceeded⟩ | ⟨-, hrest⟩
        · cases hr'
          exact absurd hsucceeded hr.not_succeeded
        · exact hrest
    · obtain ⟨e, he⟩ := exists_receive_bind_conclude_eq_fail url
        (client.follow w polls) hsucceeded hpending
      rw [he]
      refine ⟨⟨1, Nat.succ_pos polls, rfl, rfl⟩, ?_, fun _ => ⟨e, rfl⟩⟩
      rintro (hends | ⟨hends, -⟩)
      · exact absurd hends hsucceeded
      · exact absurd hends hpending

/-- These are polls of the operation that the response announces, no more than allowed; there are
none when it announces nothing. -/
def Polled (client : Client) (r : Response) (polls : List Request) : Prop :=
  polls.length ≤ maxPolls ∧ match r.watch? with
    | none => polls = []
    | some w =>
      ∀ poll ∈ polls, ∃ url, client.Reaches w.address url ∧ poll = ⟨.get, url, client.token, none⟩

/-- From the `n`-th reply on, what the response announces ends well: nothing is announced, or the
operation can be asked for and ends well within the polls that are allowed. -/
def EndsWell (client : Client) (replies : Nat → Option Response) (n : Nat) (r : Response) : Prop :=
  match r.watch? with
  | none => True
  | some w => (∃ url, client.Reaches w.address url) ∧ w.EndsWithin replies n maxPolls

theorem run_await (client : Client) (replies : Nat → Option Response) (r : Response) (n : Nat) :
    let ran := run (scripted replies) (client.await r) n
    client.Polled r ran.asked ∧ ran.state = n + ran.asked.length ∧
      (client.EndsWell replies n r → ran.outcome = .done ()) ∧
      (¬ client.EndsWell replies n r → ∃ e, ran.outcome = .failed e) := by
  dsimp only [Polled, EndsWell]
  rw [await_eq]
  cases r.watch? with
  | none => exact ⟨⟨Nat.zero_le _, rfl⟩, rfl, fun _ => rfl, fun h => absurd trivial h⟩
  | some w =>
    by_cases hreaches : ∃ url, client.Reaches w.address url
    · obtain ⟨url, hurl⟩ := hreaches
      obtain ⟨⟨k, hk, hasked, hstate⟩, hwell, hnot⟩ := run_follow hurl replies maxPolls n
      dsimp only
      rw [hasked, hstate, List.length_replicate]
      refine ⟨⟨hk, fun poll hpoll => ⟨url, hurl, List.eq_of_mem_replicate hpoll⟩⟩, rfl,
        fun hends => hwell hends.2, fun hends => hnot fun h => hends ⟨⟨url, hurl⟩, h⟩⟩
    · -- no poll can be made
      obtain ⟨text, hfail⟩ := exists_send_eq_fail .get none fun url hurl => hreaches ⟨url, hurl⟩
      have hfollow : client.follow w maxPolls =
          .log ⟨.debug, "GET " ++ w.address⟩ (.fail (requestFailure text)) := by
        rw [maxPolls, follow_succ]
        show Program.log _ ((client.send .get w.address none).bind _) = _
        rw [hfail]
        rfl
      dsimp only
      rw [hfollow]
      exact ⟨⟨Nat.zero_le _, fun poll hpoll => nomatch hpoll⟩, rfl,
        fun hends => absurd hends.1 hreaches, fun _ => ⟨_, rfl⟩⟩

end Waiting

section Changing

/-- The request that a call changes something with: its method, its address and its body. -/
def change? (client : Client) : Call → Option (Method × String × Option Json)
  | .putAccount group name account =>
    some (.put, client.accountAddress group name, some account.toJson)
  | .patchAccount group name update =>
    some (.patch, client.accountAddress group name, some update.toJson)
  | .changePriorities group name policies =>
    some (.post,
      client.address (client.accountPath group name ++ "/failoverPriorityChange") accountVersion,
      some (FailoverPolicy.listToJson policies))
  | .deleteAccount group name => some (.delete, client.accountAddress group name, none)
  | .putGroup name group => some (.put, client.groupAddress name, some group.toJson)
  | .setGroupTags name tags =>
    some (.patch, client.groupAddress name, some (.object [("tags", Json.ofStringMap tags)]))
  | .deleteGroup name => some (.delete, client.groupAddress name, none)
  | .getAccount .. | .listAccounts | .listAccountsIn .. | .getGroup .. | .listGroups => none

/-- How a call reads the object that it has changed, if it reads it back. -/
def reader? : (c : Call) → Option (Json → Option c.Reply)
  | .putAccount .. | .patchAccount .. => some DatabaseAccount.ofJson?
  | .putGroup .. | .setGroupTags .. => some ResourceGroup.ofJson?
  | _ => none

theorem exists_change (client : Client) {c : Call} (hc : c.isMutating = true) :
    ∃ method address body, client.change? c = some (method, address, body) ∧ method ≠ .get := by
  cases c with
  | getAccount | listAccounts | listAccountsIn | getGroup | listGroups => cases hc
  | _ => exact ⟨_, _, _, rfl, by decide⟩

/-- A call that changes something waits, and then reads back at the same address or is at its end.
-/
theorem perform_eq {c : Call} (hchange : client.change? c = some (method, address, body)) :
    ∃ f, client.perform c = (client.mutate method address body).bind f ∧
      match reader? c with
      | none => ∃ reply, f () = .done reply
      | some read => f () = client.get read address := by
  cases c with
  | getAccount | listAccounts | listAccountsIn | getGroup | listGroups => cases hchange
  | putAccount | patchAccount | putGroup | setGroupTags =>
    cases hchange
    exact ⟨_, rfl, rfl⟩
  | changePriorities | deleteAccount | deleteGroup =>
    cases hchange
    exact ⟨.done, (bind_done _).symm, (), rfl⟩

/-- What goes on after a response without failure: `polls` are those of the operation that it
announces, and `last` is what is asked after them. -/
structure Completes (client : Client) (replies : Nat → Option Response) (c : Call)
    (address : String) (url : Url) (r : Response) (ran : Ran Request Nat c.Reply)
    (polls last : List Request) : Prop where
  polled : client.Polled r polls
  /-- When the operation does not end well, that is the end of the call. -/
  abandoned : ¬ client.EndsWell replies 1 r → last = [] ∧ ∃ e, ran.outcome = .failed e
  /-- When it does, the call is a success, or ends like one read at the same address. -/
  finished : client.EndsWell replies 1 r →
    match reader? c with
    | none => last = [] ∧ ∃ reply, ran.outcome = .done reply
    | some read => last = [⟨.get, url, client.token, none⟩] ∧
        ran.outcome = (run (scripted replies) (client.get read address) (polls.length + 1)).outcome

theorem Polled.isGet {polls : List Request} (h : client.Polled r polls) :
    ∀ poll ∈ polls, poll.method = .get := by
  intro poll hpoll
  unfold Polled at h
  cases hwatch : r.watch? with
  | none =>
    rw [hwatch] at h
    rw [h.2] at hpoll
    cases hpoll
  | some w =>
    rw [hwatch] at h
    obtain ⟨url, -, rfl⟩ := h.2 poll hpoll
    rfl

theorem Completes.isGet {c : Call} {ran : Ran Request Nat c.Reply} {polls last : List Request}
    (h : client.Completes replies c address url r ran polls last) :
    ∀ request ∈ last, request.method = .get := by
  intro request hrequest
  by_cases hends : client.EndsWell replies 1 r
  · have hfinished := h.finished hends
    cases hreader : reader? c with
    | none =>
      rw [hreader] at hfinished
      rw [hfinished.1] at hrequest
      cases hrequest
    | some read =>
      rw [hreader] at hfinished
      rw [hfinished.1] at hrequest
      rw [List.mem_singleton.1 hrequest]
  · rw [(h.abandoned hends).1] at hrequest
    cases hrequest

theorem run_mutate_bind (h : client.Reaches address url) (f : Unit → Exchange α) :
    let rest := run (scripted replies)
      ((receive url (replies n)).bind fun r => (client.await r).bind f) (n + 1)
    run (scripted replies) ((client.mutate method address body).bind f) n =
      { rest with
        log := ⟨.debug, method.name ++ " " ++ address⟩ :: rest.log
        asked := ⟨method, url, client.token, body⟩ :: rest.asked } := by
  show run (scripted replies)
    (.log _ (((client.send method address body).bind client.await).bind f)) n = _
  rw [bind_assoc, send_of_reaches h]
  rfl

theorem run_get_asked (h : client.Reaches address url) (read : Json → Option α) (n : Nat) :
    (run (scripted replies) (client.get read address) n).asked =
      [⟨.get, url, client.token, none⟩] := by
  show (run (scripted replies) ((client.sendGet address).bind (decode read)) n).asked = _
  rw [run_sendGet_bind h]
  refine congrArg (_ :: ·) ?_
  rcases receive_cases url (replies n) with ⟨r, hreply, hstatus⟩ | ⟨-, e, he, -⟩
  · rw [hreply, receive_of_isSuccess hstatus, done_bind, decode]
    cases (Json.parse? r.body).bind read <;> rfl
  · rw [he]
    rfl

/-- Once the response is there, what comes next is waiting, and when it has ended well the rest. -/
theorem run_mutate_bind_of_accepted (method : Method) (body : Option Json)
    (hurl : client.Reaches address url) (hreply : replies 0 = some r)
    (hstatus : Status.isSuccess r.status = true) (f : Unit → Exchange α) :
    let ran := run (scripted replies) ((client.mutate method address body).bind f) 0
    ∃ polls, client.Polled r polls ∧
      (client.EndsWell replies 1 r →
        let rest := run (scripted replies) (f ()) (polls.length + 1)
        ran.outcome = rest.outcome ∧
          ran.asked = ⟨method, url, client.token, body⟩ :: (polls ++ rest.asked)) ∧
      (¬ client.EndsWell replies 1 r →
        (∃ e, ran.outcome = .failed e) ∧
          ran.asked = ⟨method, url, client.token, body⟩ :: polls) := by
  obtain ⟨hpolled, hstate, hwell, hnot⟩ := run_await client replies r 1
  rw [Nat.add_comm] at hstate
  dsimp only
  rw [run_mutate_bind hurl, hreply, receive_of_isSuccess hstatus, done_bind, run_bind]
  refine ⟨_, hpolled, fun hends => ?_, fun hends => ?_⟩
  · rw [Ran.andThen_of_done (hwell hends), hstate]
    exact ⟨rfl, rfl⟩
  · obtain ⟨e, he⟩ := hnot hends
    rw [Ran.andThen, he]
    exact ⟨⟨e, rfl⟩, rfl⟩

theorem exists_completes {c : Call} (hchange : client.change? c = some (method, address, body))
    (hurl : client.Reaches address url) (hreply : replies 0 = some r)
    (hstatus : Status.isSuccess r.status = true) :
    let ran := run (scripted replies) (client.perform c) 0
    ∃ polls last, ran.asked = ⟨method, url, client.token, body⟩ :: (polls ++ last) ∧
      client.Completes replies c address url r ran polls last := by
  obtain ⟨f, hperform, hf⟩ := perform_eq hchange
  obtain ⟨polls, hpolled, hwell, hnot⟩ := run_mutate_bind_of_accepted method
    body hurl hreply hstatus f
  rw [← hperform] at hwell hnot
  by_cases hends : client.EndsWell replies 1 r
  · obtain ⟨houtcome, hasked⟩ := hwell hends
    refine ⟨polls, _, hasked, hpolled, fun h => absurd hends h, fun _ => ?_⟩
    cases hreader : reader? c with
    | none =>
      rw [hreader] at hf
      obtain ⟨reply, hf⟩ := hf
      rw [hf] at houtcome ⊢
      exact ⟨rfl, reply, houtcome⟩
    | some read =>
      rw [hreader] at hf
      dsimp only at hf
      rw [hf] at houtcome ⊢
      exact ⟨run_get_asked hurl read _, houtcome⟩
  · obtain ⟨hfailed, hasked⟩ := hnot hends
    exact ⟨polls, [], by rwa [List.append_nil], hpolled, fun _ => ⟨rfl, hfailed⟩,
      fun h => absurd h hends⟩

/-- **A call that changes something** sends its request once if it can be sent, and first of all.
Nothing follows a request that is not accepted, and of its failures status 404 alone stands for a
missing object. After an accepted one there are reads only: polls of the operation that the response
announces, up to `maxPolls` of them, and when it has ended well, for most calls, one read of the
object. -/
theorem run_perform_changing {c : Call} (hc : c.isMutating = true) (client : Client)
    (replies : Nat → Option Response) :
    let ran := run (scripted replies) (client.perform c) 0
    ∃ method address body, client.change? c = some (method, address, body) ∧ method ≠ .get ∧
      ((∀ url, ¬ client.Reaches address url) → ran.asked = [] ∧ ran.FailsAs .fault) ∧
      ∀ url, client.Reaches address url → ∃ polls last,
        ran.asked = ⟨method, url, client.token, body⟩ :: (polls ++ last) ∧
        (∀ request ∈ polls ++ last, request.method = .get) ∧
        ((∀ r, replies 0 = some r → Status.isSuccess r.status = false) →
          polls = [] ∧ last = [] ∧
            ran.FailsAs (if (replies 0).any (·.status = 404) then .notFound else .fault)) ∧
        ∀ r, replies 0 = some r → Status.isSuccess r.status = true →
          client.Completes replies c address url r ran polls last := by
  intro ran
  obtain ⟨method, address, body, hchange, hmethod⟩ := exists_change client hc
  obtain ⟨f, hperform, -⟩ := perform_eq hchange
  refine ⟨method, address, body, hchange, hmethod, fun hnone => ?_, fun url hurl => ?_⟩
  · obtain ⟨text, hsend⟩ := exists_send_eq_fail method body hnone
    have hfails : client.perform c =
        .log ⟨.debug, method.name ++ " " ++ address⟩ (.fail (requestFailure text)) := by
      rw [hperform]
      show Program.log _ (((client.send method address body).bind client.await).bind f) = _
      rw [hsend]
      rfl
    have hran : ran = run (scripted replies) (.log _ (.fail (requestFailure text))) 0 :=
      congrArg (run (scripted replies) · 0) hfails
    rw [hran]
    exact ⟨rfl, _, rfl, rfl⟩
  · rcases receive_cases url (replies 0) with ⟨r, hreply, hstatus⟩ | ⟨hrefused, e, he, hkind⟩
    · obtain ⟨polls, last, hasked, hcompletes⟩ := exists_completes hchange hurl hreply hstatus
      refine ⟨polls, last, hasked, ?_, fun hnone => ?_, fun r' hr' _ => ?_⟩
      · intro request hrequest
        exact (List.mem_append.1 hrequest).elim (hcompletes.polled.isGet request)
          (hcompletes.isGet request)
      · simp [hnone r hreply] at hstatus
      · obtain rfl : r = r' := Option.some.inj (hreply.symm.trans hr')
        exact hcompletes
    · have hran : ran = ⟨.failed e, [⟨.debug, method.name ++ " " ++ address⟩],
          [⟨method, url, client.token, body⟩], 1⟩ := by
        show run (scripted replies) (client.perform c) 0 = _
        rw [hperform, run_mutate_bind hurl, he]
        rfl
      rw [hran]
      exact ⟨[], [], rfl, fun _ h => (nomatch h), fun _ => ⟨rfl, rfl, e, rfl, hkind⟩,
        fun r hr hstatus => absurd ((hrefused r hr).symm.trans hstatus) (by decide)⟩

/-- The deletion of a group has been accepted, and its operation goes on at the first poll and has
ended well at the second one. -/
theorem run_perform_changing_polled :
    let client : Client := ⟨"https://management.azure.com", "sub", "token", 8⟩
    let status (s : String) : Response :=
      { status := 200, body := "\x7b\"status\": \"" ++ s ++ "\"\x7d" }
    let accepted : Response := {
      status := 202
      headers := [("Azure-AsyncOperation", "https://management.azure.com/status")] }
    let replies : Nat → Option Response
      | 0 => some accepted
      | 1 => some (status "InProgress")
      | _ => some (status "Succeeded")
    let ran := run (scripted replies) (client.perform (.deleteGroup "rg")) 0
    ran.outcome = .done () ∧ ran.asked.map (·.method) = [.delete, .get, .get] ∧
      ∃ deletion polls, ran.asked = deletion :: polls ∧ client.Polled accepted polls := by
  intro client status accepted replies ran
  refine ⟨by decide +kernel, by decide +kernel, ?_⟩
  obtain ⟨method, address, body, hchange, -, -, hreaches⟩ :=
    run_perform_changing (c := .deleteGroup "rg") rfl client replies
  cases hchange
  obtain ⟨deletion, hdeletion⟩ : ∃ deletion,
      client.request .delete (client.groupAddress "rg") none = .ok deletion :=
    exists_request (by decide +kernel)
  obtain ⟨url, hurl, -⟩ := request_eq_ok_iff.1 hdeletion
  obtain ⟨polls, last, hasked, -, -, hcompletes⟩ := hreaches url hurl
  have hrest := hcompletes accepted rfl rfl
  have hlast : last = [] := by
    by_cases hends : client.EndsWell replies 1 accepted
    · exact (hrest.finished hends).1
    · exact (hrest.abandoned hends).1
  rw [hlast, List.append_nil] at hasked
  exact ⟨_, polls, hasked, hrest.polled⟩

end Changing

end Client
end AzureProvisioning
