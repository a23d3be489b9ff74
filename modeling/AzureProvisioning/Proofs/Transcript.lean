/-
# Transcripts of composed programs

A transcript of a program is made of transcripts of its parts: of a question and what goes on with
the answer (`runs_ask_iff`), of one program and the next (`runs_bind_iff`, `runs_bind_done_iff`), of
the programs that answer the questions of another one (`answerBy_bind`, `runs_answerBy_quiet`). The
log is no part of it (`runs_quiet_iff`).

Whoever takes a failure as a value mostly looks at one thing, whether an object is missing.
`EndsNotFound` says so of a transcript, and a program that makes do in that case ends well in two
ways (`runs_whenMissing_done_iff`): the first program does, or it ends with a missing object.
-/

import AzureProvisioning.Program.Transcript
import AzureProvisioning.Proofs.Program

namespace AzureProvisioning
namespace Program

variable {Query : Type} {Answer : Query → Type} {α β : Type} {p : Program Query Answer α}
  {t : List (Asked Query Answer)} {o : Outcome α}

section Parts

@[simp] theorem runs_done_iff {a : α} :
    Runs (done a : Program Query Answer α) t o ↔ t = [] ∧ o = .done a := by
  constructor
  · intro h
    cases h
    exact ⟨rfl, rfl⟩
  · rintro ⟨rfl, rfl⟩
    exact .done a

@[simp] theorem runs_fail_iff {e : Failure} :
    Runs (fail e : Program Query Answer α) t o ↔ t = [] ∧ o = .failed e := by
  constructor
  · intro h
    cases h
    exact ⟨rfl, rfl⟩
  · rintro ⟨rfl, rfl⟩
    exact .fail e

@[simp] theorem runs_unfinished_iff :
    Runs (unfinished : Program Query Answer α) t o ↔ t = [] ∧ o = .unfinished := by
  constructor
  · intro h
    cases h
    exact ⟨rfl, rfl⟩
  · rintro ⟨rfl, rfl⟩
    exact .unfinished

@[simp] theorem runs_log_iff {entry : LogEntry} : Runs (log entry p) t o ↔ Runs p t o := by
  constructor
  · intro h
    cases h
    assumption
  · exact .log

theorem runs_ask_iff {q : Query} {next : Answer q → Program Query Answer α} :
    Runs (ask q next) t o ↔ ∃ answer t', t = ⟨q, answer⟩ :: t' ∧ Runs (next answer) t' o := by
  constructor
  · intro h
    cases h with
    | ask answer h => exact ⟨answer, _, rfl, h⟩
  · rintro ⟨answer, t', rfl, h⟩
    exact .ask answer h

/-- Without its log a program has the same transcripts. -/
theorem runs_quiet_iff : Runs p.quiet t o ↔ Runs p t o := by
  induction p generalizing t with
  | done | fail | unfinished => rfl
  | log entry next ih => rw [runs_log_iff, ← ih, quiet_log]
  | ask q next ih => simp only [quiet_ask, runs_ask_iff, ih]

theorem runs_bind_done_iff {f : α → Program Query Answer β} {b : β} :
    Runs (p.bind f) t (.done b) ↔
      ∃ a t₁ t₂, t = t₁ ++ t₂ ∧ Runs p t₁ (.done a) ∧ Runs (f a) t₂ (.done b) := by
  simp [runs_bind_iff]

/-- A program that goes on to a value has the same transcripts. -/
theorem runs_bind_value_iff {f : α → β} {b : β} :
    Runs (p.bind fun a => .done (f a)) t (.done b) ↔ ∃ a, Runs p t (.done a) ∧ b = f a := by
  simp only [runs_bind_done_iff, runs_done_iff, Outcome.done.injEq]
  constructor
  · rintro ⟨a, t₁, _, rfl, hp, rfl, hb⟩
    exact ⟨a, by rwa [List.append_nil], hb⟩
  · rintro ⟨a, hp, hb⟩
    exact ⟨a, t, [], (List.append_nil t).symm, hp, rfl, hb⟩

/-- Whether the questions are asked by a program with or without a log makes no difference. -/
theorem runs_answerBy_quiet {Query' : Type} {Answer' : Query' → Type}
    {f : (q : Query) → Program Query' Answer' (Answer q)} {t' : List (Asked Query' Answer')} :
    Runs (p.quiet.answerBy f) t' o ↔ Runs (p.answerBy f) t' o := by
  induction p generalizing t' with
  | done | fail | unfinished => rfl
  | log entry next ih => rw [quiet_log, ih, answerBy_log, runs_log_iff]
  | ask q next ih => simp only [quiet_ask, answerBy_ask, runs_bind_iff, ih]

/-- Changing the failures of a program does not change how it succeeds. -/
theorem runs_answerBy_mapFailure_done_iff {Query' : Type} {Answer' : Query' → Type}
    {f : (q : Query) → Program Query' Answer' (Answer q)} {g : Failure → Failure}
    {t' : List (Asked Query' Answer')} {a : α} :
    Runs ((p.mapFailure g).answerBy f) t' (.done a) ↔ Runs (p.answerBy f) t' (.done a) := by
  induction p generalizing t' with
  | done | unfinished => rfl
  | fail e => simp
  | log entry next ih => simp only [mapFailure_log, answerBy_log, runs_log_iff, ih]
  | ask q next ih => simp only [mapFailure_ask, answerBy_ask, runs_bind_done_iff, ih]

theorem answerBy_bind {Query' : Type} {Answer' : Query' → Type}
    {f : (q : Query) → Program Query' Answer' (Answer q)} (p : Program Query Answer α)
    (next : α → Program Query Answer β) :
    (p.bind next).answerBy f = (p.answerBy f).bind fun a => (next a).answerBy f := by
  induction p with
  | done | fail | unfinished => rfl
  | log entry next ih => simp [ih]
  | ask q next ih => simp [ih, bind_assoc]

/-- A failure that is taken as a value, and given back at once, is the failure. -/
theorem attempt_bind_ofExcept (p : Program Query Answer α) (f : α → Program Query Answer β) :
    (p.attempt.bind fun r => (ofExcept r).bind f) = p.bind f := by
  induction p with
  | done | fail | unfinished => rfl
  | log entry next ih => simp [ih]
  | ask q next ih => simp [ih]

theorem runs_attempt_iff {o : Outcome (Except Failure α)} :
    Runs p.attempt t o ↔
      (∃ a, Runs p t (.done a) ∧ o = .done (.ok a)) ∨
      (∃ e, Runs p t (.failed e) ∧ o = .done (.error e)) ∨
      (Runs p t .unfinished ∧ o = .unfinished) := by
  induction p generalizing t with
  | done a => simp [and_assoc]
  | fail e => simp [and_assoc]
  | unfinished => simp
  | log entry next ih => simp only [attempt_log, runs_log_iff, ih]
  | ask q next ih =>
    simp only [attempt_ask, runs_ask_iff, ih]
    constructor
    · rintro ⟨answer, t', rfl, ⟨a, h, ho⟩ | ⟨e, h, ho⟩ | ⟨h, ho⟩⟩
      · exact .inl ⟨a, ⟨answer, t', rfl, h⟩, ho⟩
      · exact .inr (.inl ⟨e, ⟨answer, t', rfl, h⟩, ho⟩)
      · exact .inr (.inr ⟨⟨answer, t', rfl, h⟩, ho⟩)
    · rintro (⟨a, ⟨answer, t', rfl, h⟩, ho⟩ | ⟨e, ⟨answer, t', rfl, h⟩, ho⟩ |
        ⟨⟨answer, t', rfl, h⟩, ho⟩)
      · exact ⟨answer, t', rfl, .inl ⟨a, h, ho⟩⟩
      · exact ⟨answer, t', rfl, .inr (.inl ⟨e, h, ho⟩)⟩
      · exact ⟨answer, t', rfl, .inr (.inr ⟨h, ho⟩)⟩

/-- Changing the failures of a program does not change how it succeeds. -/
theorem runs_mapFailure_done_iff {g : Failure → Failure} {a : α} :
    Runs (p.mapFailure g) t (.done a) ↔ Runs p t (.done a) := by
  induction p generalizing t with
  | done | unfinished => rfl
  | fail e => simp
  | log entry next ih => simp only [mapFailure_log, runs_log_iff, ih]
  | ask q next ih => simp only [mapFailure_ask, runs_ask_iff, ih]

/-- A run with changed failures is one of the same program. -/
theorem exists_runs_of_mapFailure {g : Failure → Failure} (h : Runs (p.mapFailure g) t o) :
    ∃ o', Runs p t o' ∧ ∀ e, o = .failed e → ∃ e', o' = .failed e' ∧ e = g e' := by
  induction p generalizing t with
  | done a =>
    cases h
    exact ⟨_, .done a, fun _ he => nomatch he⟩
  | fail e' =>
    cases h
    exact ⟨_, .fail e', fun _ he => ⟨e', rfl, (Outcome.failed.inj he).symm⟩⟩
  | unfinished =>
    cases h
    exact ⟨_, .unfinished, fun _ he => nomatch he⟩
  | log entry next ih =>
    cases h with
    | log h =>
      obtain ⟨o', hruns, hfailed⟩ := ih h
      exact ⟨o', .log hruns, hfailed⟩
  | ask q next ih =>
    cases h with
    | ask answer h =>
      obtain ⟨o', hruns, hfailed⟩ := ih answer h
      exact ⟨o', .ask answer hruns, hfailed⟩

/-- What goes on with the value or with the failure of a program. -/
theorem runs_attempt_bind_done_iff {f : Except Failure α → Program Query Answer β} {b : β} :
    Runs (p.attempt.bind f) t (.done b) ↔
      (∃ a t₁ t₂, t = t₁ ++ t₂ ∧ Runs p t₁ (.done a) ∧ Runs (f (.ok a)) t₂ (.done b)) ∨
      ∃ e t₁ t₂, t = t₁ ++ t₂ ∧ Runs p t₁ (.failed e) ∧ Runs (f (.error e)) t₂ (.done b) := by
  simp only [runs_bind_done_iff, runs_attempt_iff]
  constructor
  · rintro ⟨r, t₁, t₂, ht, ⟨a, hp, hr⟩ | ⟨e, hp, hr⟩ | ⟨-, hr⟩, hrest⟩
    · cases hr
      exact .inl ⟨a, t₁, t₂, ht, hp, hrest⟩
    · cases hr
      exact .inr ⟨e, t₁, t₂, ht, hp, hrest⟩
    · cases hr
  · rintro (⟨a, t₁, t₂, ht, hp, hrest⟩ | ⟨e, t₁, t₂, ht, hp, hrest⟩)
    · exact ⟨.ok a, t₁, t₂, ht, .inl ⟨a, hp, rfl⟩, hrest⟩
    · exact ⟨.error e, t₁, t₂, ht, .inr (.inl ⟨e, hp, rfl⟩), hrest⟩

end Parts

/-- With these answers the program ends with a missing object. -/
def EndsNotFound (p : Program Query Answer α) (t : List (Asked Query Answer)) : Prop :=
  ∃ e, Runs p t (.failed e) ∧ e.isNotFound = true

/-- The program, with a value to end with when the object is missing. -/
def whenMissing (instead : α) (p : Program Query Answer α) : Program Query Answer α :=
  p.attempt.bind fun
    | .ok a => .done a
    | .error e => if e.isNotFound then .done instead else .fail e

/-- A run of a program that makes do is one of the program itself, with the same failure if there
still is one. -/
theorem exists_runs_of_whenMissing {instead : α} (h : Runs (p.whenMissing instead) t o) :
    ∃ o', Runs p t o' ∧ ∀ e, o = .failed e → o' = .failed e := by
  rcases runs_bind_iff.1 h with
    ⟨r, t₁, t₂, rfl, hattempt, hrest⟩ | ⟨e, hattempt, -⟩ | ⟨hattempt, rfl⟩
  · rcases runs_attempt_iff.1 hattempt with ⟨a, hp, hr⟩ | ⟨e, hp, hr⟩ | ⟨-, hr⟩
    · cases hr
      obtain ⟨rfl, rfl⟩ := runs_done_iff.1 hrest
      exact ⟨_, by rwa [List.append_nil], fun _ he => nomatch he⟩
    · cases hr
      by_cases hmissing : e.isNotFound = true
      · simp only [if_pos hmissing, runs_done_iff] at hrest
        obtain ⟨rfl, rfl⟩ := hrest
        exact ⟨_, by rwa [List.append_nil], fun _ he => nomatch he⟩
      · simp only [if_neg hmissing, runs_fail_iff] at hrest
        obtain ⟨rfl, rfl⟩ := hrest
        exact ⟨_, by rwa [List.append_nil], fun _ he => by rw [Outcome.failed.inj he]⟩
    · cases hr
  · rcases runs_attempt_iff.1 hattempt with ⟨a, -, hr⟩ | ⟨e', -, hr⟩ | ⟨-, hr⟩ <;> cases hr
  · rcases runs_attempt_iff.1 hattempt with ⟨a, -, hr⟩ | ⟨e, -, hr⟩ | ⟨hp, -⟩
    · cases hr
    · cases hr
    · exact ⟨_, hp, fun _ he => nomatch he⟩

/-- Without its log, a program that goes on like this with its value and its failure is one that makes
do when the object is missing. -/
theorem quiet_attempt_bind {f : Except Failure α → Program Query Answer α} {instead : α}
    (hok : ∀ a, (f (.ok a)).quiet = .done a)
    (herror : ∀ e, (f (.error e)).quiet = if e.isNotFound then .done instead else .fail e) :
    (p.attempt.bind f).quiet = p.quiet.whenMissing instead := by
  rw [quiet_bind, quiet_attempt, whenMissing]
  congr 1
  funext r
  cases r with
  | ok a => exact hok a
  | error e => exact herror e

section NotFound

@[simp] theorem not_endsNotFound_done {a : α} :
    ¬ EndsNotFound (done a : Program Query Answer α) t := by
  simp [EndsNotFound]

@[simp] theorem not_endsNotFound_unfinished :
    ¬ EndsNotFound (unfinished : Program Query Answer α) t := by
  simp [EndsNotFound]

@[simp] theorem endsNotFound_fail_iff {e : Failure} :
    EndsNotFound (fail e : Program Query Answer α) t ↔ t = [] ∧ e.isNotFound = true := by
  simp [EndsNotFound, and_assoc]

@[simp] theorem endsNotFound_log_iff {entry : LogEntry} :
    EndsNotFound (log entry p) t ↔ EndsNotFound p t := by
  simp [EndsNotFound]

theorem endsNotFound_bind_iff {f : α → Program Query Answer β} :
    EndsNotFound (p.bind f) t ↔
      EndsNotFound p t ∨ ∃ a t₁ t₂, t = t₁ ++ t₂ ∧ Runs p t₁ (.done a) ∧ EndsNotFound (f a) t₂ := by
  constructor
  · rintro ⟨e, h, hmissing⟩
    rcases runs_bind_iff.1 h with ⟨a, t₁, t₂, ht, hp, hf⟩ | ⟨e', hp, he⟩ | ⟨-, ho⟩
    · exact .inr ⟨a, t₁, t₂, ht, hp, e, hf, hmissing⟩
    · cases he
      exact .inl ⟨e, hp, hmissing⟩
    · cases ho
  · rintro (⟨e, hp, hmissing⟩ | ⟨a, t₁, t₂, ht, hp, e, hf, hmissing⟩)
    · exact ⟨e, runs_bind_iff.2 (.inr (.inl ⟨e, hp, rfl⟩)), hmissing⟩
    · exact ⟨e, runs_bind_iff.2 (.inl ⟨a, t₁, t₂, ht, hp, hf⟩), hmissing⟩

/-- A program that makes do with a value when the object is missing ends well in two ways. -/
theorem runs_whenMissing_done_iff {instead b : α} :
    Runs (p.whenMissing instead) t (.done b) ↔
      Runs p t (.done b) ∨ EndsNotFound p t ∧ b = instead := by
  rw [whenMissing, runs_attempt_bind_done_iff]
  refine or_congr ?_ ?_
  · simp only [runs_done_iff, Outcome.done.injEq]
    constructor
    · rintro ⟨a, t₁, _, rfl, hp, rfl, rfl⟩
      rwa [List.append_nil]
    · exact fun hp => ⟨b, t, [], (List.append_nil t).symm, hp, rfl, rfl⟩
  · constructor
    · rintro ⟨e, t₁, t₂, rfl, hp, hrest⟩
      by_cases hmissing : e.isNotFound = true
      · simp only [if_pos hmissing, runs_done_iff, Outcome.done.injEq] at hrest
        obtain ⟨rfl, hb⟩ := hrest
        exact ⟨⟨e, by rwa [List.append_nil], hmissing⟩, hb⟩
      · simp [if_neg hmissing] at hrest
    · rintro ⟨⟨e, hp, hmissing⟩, rfl⟩
      exact ⟨e, t, [], (List.append_nil t).symm, hp, by simp [if_pos hmissing]⟩

end NotFound
end Program

/-- The run with a value to end with when the object is missing. -/
def Ran.whenMissing {Query σ α : Type} (ran : Ran Query σ α) (instead : α) : Ran Query σ α :=
  { ran with
    outcome := match ran.outcome with
      | .failed e => if e.isNotFound then .done instead else .failed e
      | o => o }

/-- A program that makes do when the object is missing asks the same questions. -/
theorem Program.run_whenMissing {Query α σ : Type} {Answer : Query → Type}
    (answer : (q : Query) → σ → Answer q × σ) (instead : α) (p : Program Query Answer α) (s : σ) :
    run answer (p.whenMissing instead) s = (run answer p s).whenMissing instead := by
  rw [whenMissing, run_bind, run_attempt, Ran.andThen, Ran.whenMissing]
  cases (run answer p s).outcome with
  | done a => simp
  | failed e => by_cases hmissing : e.isNotFound = true <;> simp [hmissing]
  | unfinished => rfl

/-- It is cut off with the run that it is made of. -/
theorem Ran.whenMissing_outcome_eq_unfinished {Query σ α : Type} {instead : α} (ran : Ran Query σ α) :
    (ran.whenMissing instead).outcome = .unfinished ↔ ran.outcome = .unfinished := by
  unfold whenMissing
  cases ran.outcome with
  | done | unfinished => rfl
  | failed e => by_cases hmissing : e.isNotFound = true <;> simp [hmissing]

end AzureProvisioning
