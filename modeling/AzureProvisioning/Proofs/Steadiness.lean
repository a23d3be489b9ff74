/-
# What a failed call leads to

Nothing is assumed here of who answers calls, but that no answer is a defect of the declaration
(`Asked.Fair`). A run on an impartial service is of that kind (`exists_fair_runs_run`), and so is an
exchange with the resource manager (`Client.exists_fair_runs_exchange`).

A steady operation refuses nothing itself, and makes no call after one that has failed; a strict
one, besides, succeeds only when all its calls have. Strict operations may follow one another
(`Strict.bind`), and the last of them need only be steady (`Strict.bind_steady`). An operation that
looks at the declaration first is orderly: it fails before any call, or it is steady.
-/

import AzureProvisioning.Proofs.Refusal
import AzureProvisioning.Proofs.Rest.Sending

namespace AzureProvisioning

open Program

/-- Calls with their answers, in order. -/
abbrev Called : Type :=
  List (Asked Call Call.Answer)

/-- The answer is not a defect of the declaration. -/
def Asked.Fair (call : Asked Call Call.Answer) : Prop :=
  ∀ e, call.answer = .error e → e.defect? = none

/-- The call has succeeded. -/
def Asked.Succeeded (call : Asked Call Call.Answer) : Prop :=
  call.answer.isOk = true

/-- Every call that is followed by another one has succeeded: there is none after the first failure.
-/
def Halts (t : Called) : Prop :=
  t.Pairwise fun earlier _ => earlier.Succeeded

section Services

/-- Every run on an impartial service has a transcript with fair answers. -/
theorem exists_fair_runs_run {σ α : Type} {answer : (c : Call) → σ → c.Answer × σ}
    (h : Impartial answer) (p : Operation α) (s : σ) :
    ∃ t : Called, Runs p t (p.run answer s).outcome ∧
      t.map Asked.query = (p.run answer s).asked ∧ ∀ call ∈ t, call.Fair := by
  induction p generalizing s with
  | done a => exact ⟨[], .done a, rfl, fun _ hcall => nomatch hcall⟩
  | fail e => exact ⟨[], .fail e, rfl, fun _ hcall => nomatch hcall⟩
  | unfinished => exact ⟨[], .unfinished, rfl, fun _ hcall => nomatch hcall⟩
  | log entry next ih =>
    obtain ⟨t, hruns, hasked, hfair⟩ := ih s
    exact ⟨t, .log hruns, hasked, hfair⟩
  | ask c next ih =>
    obtain ⟨t, hruns, hasked, hfair⟩ := ih (answer c s).1 (answer c s).2
    refine ⟨⟨c, (answer c s).1⟩ :: t, .ask _ hruns, congrArg (c :: ·) hasked, fun call hcall => ?_⟩
    rcases List.mem_cons.1 hcall with rfl | hcall
    · exact h c s
    · exact hfair call hcall

/-- Requests that are answered by a list of responses. -/
def Client.replay (_ : Request) (responses : List (Option Response)) :
    Option Response × List (Option Response) :=
  (responses.headD none, responses.tail)

/-- The run against the responses of a transcript ends like it. -/
theorem Client.run_replay {α : Type} {p : Exchange α} {t : Exchanged} {o : Outcome α}
    (h : Runs p t o) :
    (p.run Client.replay (t.map (·.answer))).outcome = o := by
  induction h with
  | done | fail | unfinished => rfl
  | log _ ih => exact ih
  | ask answer _ ih => exact ih

theorem Client.fair_answer {client : Client} {c : Call} {t : Exchanged} {answer : c.Answer}
    (h : Runs (client.answer c) t (.done answer)) : Asked.Fair ⟨c, answer⟩ := by
  intro e he
  rw [show answer = .error e from he] at h
  rcases runs_attempt_iff.1 h with ⟨a, -, ho⟩ | ⟨e', hfailed, ho⟩ | ⟨-, ho⟩
  · cases ho
  · cases ho
    have haccepts : Accepts Client.replay (client.perform c) := client.accepts_perform c
    have hrefused := haccepts (t.map (·.answer))
    rw [Client.run_replay hfailed] at hrefused
    simpa [Outcome.refused] using hrefused
  · cases ho

/-- What the calls, with these answers, come to as requests with their responses. -/
inductive Client.Exchanges (client : Client) : Called → Exchanged → Prop
  | nil : Exchanges client [] []
  | cons {c : Call} {answer : c.Answer} {t : Called} {sent rest : Exchanged} :
      Runs (client.answer c) sent (.done answer) → Exchanges client t rest →
      Exchanges client (⟨c, answer⟩ :: t) (sent ++ rest)

theorem Client.Exchanges.fair {client : Client} {t : Called} {t' : Exchanged}
    (h : client.Exchanges t t') : ∀ call ∈ t, call.Fair := by
  induction h with
  | nil => exact fun _ hcall => nomatch hcall
  | cons hanswer _ ih =>
    intro call hcall
    rcases List.mem_cons.1 hcall with rfl | hcall
    · exact Client.fair_answer hanswer
    · exact ih call hcall

/-- Every exchange of an operation that is not cut off has a transcript with fair answers. -/
theorem Client.exists_fair_runs_exchange {α : Type} {client : Client} {p : Operation α}
    {t' : Exchanged} {o : Outcome α} (h : Runs (client.exchange p) t' o) (ho : o ≠ .unfinished) :
    ∃ t, Runs p t o ∧ client.Exchanges t t' ∧ ∀ call ∈ t, call.Fair := by
  suffices hexchanges : ∃ t, Runs p t o ∧ client.Exchanges t t' by
    obtain ⟨t, hruns, hexchanges⟩ := hexchanges
    exact ⟨t, hruns, hexchanges, hexchanges.fair⟩
  induction p generalizing t' with
  | done a =>
    cases h
    exact ⟨[], .done a, .nil⟩
  | fail e =>
    cases h
    exact ⟨[], .fail e, .nil⟩
  | unfinished =>
    cases h
    exact absurd rfl ho
  | log entry next ih =>
    cases h with
    | log h =>
      obtain ⟨t, hruns, hexchanges⟩ := ih h
      exact ⟨t, .log hruns, hexchanges⟩
  | ask c next ih =>
    rcases runs_bind_iff.1 h with
      ⟨answer, sent, rest, rfl, hanswer, hrest⟩ | ⟨e, hfailed, -⟩ | ⟨-, hcut⟩
    · obtain ⟨t, hruns, hexchanges⟩ := ih answer hrest
      exact ⟨⟨c, answer⟩ :: t, .ask answer hruns, .cons hanswer hexchanges⟩
    · -- the failure of a call is an answer
      rcases runs_attempt_iff.1 hfailed with ⟨_, -, he⟩ | ⟨_, -, he⟩ | ⟨-, he⟩ <;> cases he
    · exact absurd hcut ho

end Services

section Closure

variable {α β : Type} {p : Operation α} {f : α → Operation β} {t : Called}

/-- The operation finds no defect, and makes no call after one that has failed. -/
structure Steady (p : Operation α) : Prop where
  unrefused : ∀ {t : Called} {e}, (∀ call ∈ t, call.Fair) → Runs p t (.failed e) → e.defect? = none
  halts : ∀ {t : Called} {o}, Runs p t o → Halts t

/-- Besides, it succeeds only when all its calls have. -/
structure Strict (p : Operation α) : Prop extends Steady p where
  succeeded : ∀ {t : Called} {a}, Runs p t (.done a) → ∀ call ∈ t, call.Succeeded

theorem Steady.of_quiet (h : Steady p.quiet) : Steady p where
  unrefused hfair hruns := h.unrefused hfair (runs_quiet_iff.2 hruns)
  halts hruns := h.halts (runs_quiet_iff.2 hruns)

theorem Strict.of_quiet (h : Strict p.quiet) : Strict p where
  toSteady := h.toSteady.of_quiet
  succeeded hruns := h.succeeded (runs_quiet_iff.2 hruns)

/-- An impartial service finds no defect in what a steady operation asks for. -/
theorem Steady.accepts {σ : Type} {answer : (c : Call) → σ → c.Answer × σ} (h : Steady p)
    (himpartial : Impartial answer) : Accepts answer p := by
  intro s
  obtain ⟨t, hruns, -, hfair⟩ := exists_fair_runs_run himpartial p s
  cases ho : (p.run answer s).outcome with
  | done | unfinished => rfl
  | failed e =>
    rw [ho] at hruns
    simp [Outcome.refused, h.unrefused hfair hruns]

/-- A steady operation after a strict one. -/
theorem Strict.bind_steady (hp : Strict p) (hf : ∀ a, Steady (f a)) : Steady (p.bind f) where
  unrefused {t e} hfair hruns := by
    rcases runs_bind_iff.1 hruns with ⟨a, t₁, t₂, rfl, -, hrest⟩ | ⟨e', hfailed, ho⟩ | ⟨-, ho⟩
    · exact (hf a).unrefused (fun call h => hfair call (List.mem_append_right t₁ h)) hrest
    · cases ho
      exact hp.unrefused hfair hfailed
    · cases ho
  halts {t o} hruns := by
    rcases runs_bind_iff.1 hruns with ⟨a, t₁, t₂, rfl, hdone, hrest⟩ | ⟨e', hfailed, -⟩ | ⟨hcut, -⟩
    · exact List.pairwise_append.2 ⟨hp.halts hdone, (hf a).halts hrest,
        fun earlier h _ _ => hp.succeeded hdone earlier h⟩
    · exact hp.halts hfailed
    · exact hp.halts hcut

theorem Strict.bind (hp : Strict p) (hf : ∀ a, Strict (f a)) : Strict (p.bind f) where
  toSteady := hp.bind_steady fun a => (hf a).toSteady
  succeeded {t b} hruns := by
    obtain ⟨a, t₁, t₂, rfl, hdone, hrest⟩ := runs_bind_done_iff.1 hruns
    intro call hcall
    exact (List.mem_append.1 hcall).elim (hp.succeeded hdone call) ((hf a).succeeded hrest call)

theorem strict_done (a : α) : Strict (.done a : Operation α) where
  unrefused _ hruns := nomatch (runs_done_iff.1 hruns).2
  halts hruns := by
    rw [(runs_done_iff.1 hruns).1]
    exact .nil
  succeeded hruns := by
    rw [(runs_done_iff.1 hruns).1]
    exact fun _ h => nomatch h

theorem strict_fail {e : Failure} (h : e.defect? = none) : Strict (.fail e : Operation α) where
  unrefused _ hruns := by
    cases (runs_fail_iff.1 hruns).2
    exact h
  halts hruns := by
    rw [(runs_fail_iff.1 hruns).1]
    exact .nil
  succeeded hruns := nomatch (runs_fail_iff.1 hruns).2

theorem runs_request_iff {c : Call} {o : Outcome c.Reply} :
    Runs (Operation.request c) t o ↔
      (∃ reply, t = [⟨c, .ok reply⟩] ∧ o = .done reply) ∨
        ∃ e, t = [⟨c, .error e⟩] ∧ o = .failed e := by
  rw [Operation.request, runs_ask_iff]
  constructor
  · rintro ⟨e | reply, t', rfl, h⟩
    · obtain ⟨rfl, rfl⟩ := runs_fail_iff.1 h
      exact .inr ⟨e, rfl, rfl⟩
    · obtain ⟨rfl, rfl⟩ := runs_done_iff.1 h
      exact .inl ⟨reply, rfl, rfl⟩
  · rintro (⟨reply, rfl, rfl⟩ | ⟨e, rfl, rfl⟩)
    · exact ⟨.ok reply, [], rfl, .done reply⟩
    · exact ⟨.error e, [], rfl, .fail e⟩

theorem strict_request (c : Call) : Strict (Operation.request c) where
  unrefused {t e} hfair hruns := by
    rcases runs_request_iff.1 hruns with ⟨reply, -, ho⟩ | ⟨e', rfl, ho⟩
    · cases ho
    · cases ho
      exact hfair _ (List.mem_singleton_self _) e rfl
  halts {t o} hruns := by
    rcases runs_request_iff.1 hruns with ⟨reply, rfl, -⟩ | ⟨e, rfl, -⟩
    · exact List.pairwise_singleton _ _
    · exact List.pairwise_singleton _ _
  succeeded {t a} hruns := by
    rcases runs_request_iff.1 hruns with ⟨reply, rfl, -⟩ | ⟨e, -, ho⟩
    · intro call hcall
      rw [List.mem_singleton.1 hcall]
      rfl
    · cases ho

theorem strict_note (level : LogLevel) (text : String) :
    Strict (note level text : Operation Unit) :=
  .of_quiet (strict_done ())

theorem strict_notes (entries : List LogEntry) : Strict (notes entries : Operation Unit) :=
  .of_quiet <| by
    rw [quiet_notes]
    exact strict_done ()

theorem strict_inOrder (cs : List Call) : Strict (Operation.inOrder cs) := by
  induction cs with
  | nil => exact strict_done ()
  | cons c cs ih => exact (strict_request c).bind fun _ => ih

/-- An operation with the transcripts of a steady one, and no other defects, is steady. -/
theorem Steady.of_runs {q : Operation β} (h : Steady p)
    (hq : ∀ {t : Called} {o}, Runs q t o → ∃ o', Runs p t o' ∧
      ∀ e, o = .failed e → ∃ e', o' = .failed e' ∧ e.defect? = e'.defect?) : Steady q where
  unrefused hfair hruns := by
    obtain ⟨o', hruns', hfailed⟩ := hq hruns
    obtain ⟨e', rfl, he⟩ := hfailed _ rfl
    rw [he]
    exact h.unrefused hfair hruns'
  halts hruns := by
    obtain ⟨o', hruns', -⟩ := hq hruns
    exact h.halts hruns'

/-- Making do with a missing object takes no further call. -/
theorem Steady.whenMissing (h : Steady p) (instead : α) : Steady (p.whenMissing instead) :=
  h.of_runs fun hruns => by
    obtain ⟨o', hruns', hfailed⟩ := exists_runs_of_whenMissing hruns
    exact ⟨o', hruns', fun e he => ⟨e, hfailed e he, rfl⟩⟩

/-- Naming the resource makes no difference to what has failed. -/
theorem Steady.forResource (h : Steady p) (id : ResourceId) :
    Steady (p.mapFailure (·.forResource id)) :=
  h.of_runs fun hruns => by
    obtain ⟨o', hruns', hfailed⟩ := exists_runs_of_mapFailure hruns
    refine ⟨o', hruns', fun e he => ?_⟩
    obtain ⟨e', he', rfl⟩ := hfailed e he
    exact ⟨e', he', rfl⟩

/-- The operation fails before any call, or it is steady. -/
def Orderly (p : Operation α) : Prop :=
  (∃ e, p.quiet = .fail e) ∨ Steady p

/-- The operation fails before any call, or it is strict. -/
def Prompt (p : Operation α) : Prop :=
  (∃ e, p.quiet = .fail e) ∨ Strict p

theorem Prompt.of_quiet_eq {q : Operation α} (h : p.quiet = q)
    (hq : (∃ e, q = .fail e) ∨ Strict q) : Prompt p := by
  rcases hq with ⟨e, rfl⟩ | hstrict
  · exact .inl ⟨e, h⟩
  · exact .inr (.of_quiet (h ▸ hstrict))

theorem Prompt.orderly (h : Prompt p) : Orderly p :=
  h.imp_right Strict.toSteady

theorem Prompt.bind (h : Prompt p) (hf : ∀ a, Strict (f a)) : Prompt (p.bind f) := by
  rcases h with ⟨e, he⟩ | hstrict
  · exact .inl ⟨e, by rw [quiet_bind, he]; rfl⟩
  · exact .inr (hstrict.bind hf)

/-- **An orderly operation that is refused has made no call**, and no call of it follows one that
has failed. -/
theorem Orderly.refused_halts (h : Orderly p) {o : Outcome α} (hfair : ∀ call ∈ t, call.Fair)
    (hruns : Runs p t o) : (o.refused = true → t = []) ∧ Halts t := by
  rcases h with ⟨e, he⟩ | hsteady
  · rw [← runs_quiet_iff, he, runs_fail_iff] at hruns
    obtain ⟨rfl, rfl⟩ := hruns
    exact ⟨fun _ => rfl, .nil⟩
  · refine ⟨fun hrefused => ?_, hsteady.halts hruns⟩
    cases o with
    | done | unfinished => cases hrefused
    | failed e =>
      rw [Outcome.refused, hsteady.unrefused hfair hruns] at hrefused
      cases hrefused

theorem Orderly.forResource (h : Orderly p) (id : ResourceId) :
    Orderly (p.mapFailure (·.forResource id)) := by
  rcases h with ⟨e, he⟩ | hsteady
  · exact .inl ⟨e.forResource id, by rw [quiet_mapFailure, he]; rfl⟩
  · exact .inr (hsteady.forResource id)

end Closure
end AzureProvisioning
