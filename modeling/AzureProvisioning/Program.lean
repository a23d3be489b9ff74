/-
# Programs

An operation of the library is written as a program: it writes log entries, asks questions of a given
kind, goes on with each answer, and ends with a value or a failure. The same program runs against any
answers, so what an operation asks, and in which order, can be read off it.

A program may also be cut off before its end (`unfinished`): that is how a program whose length is
decided by the answers alone is written as finite data.
-/

import AzureProvisioning.Failure

namespace AzureProvisioning

/-- How much a log entry matters. -/
inductive LogLevel
  | debug
  | info
  | warn
  deriving DecidableEq, Inhabited, Repr

/-- An entry of the log. -/
structure LogEntry where
  level : LogLevel
  text : String
  deriving DecidableEq, Inhabited, Repr

/-- A program that asks questions of type `Query`; `Answer q` is the type of the answers to `q`. -/
inductive Program (Query : Type) (Answer : Query → Type) (α : Type) : Type
  | done (value : α)
  | fail (failure : Failure)
  | unfinished
  | log (entry : LogEntry) (next : Program Query Answer α)
  | ask (query : Query) (next : Answer query → Program Query Answer α)

/-- How a program ended. -/
inductive Outcome (α : Type)
  | done (value : α)
  | failed (failure : Failure)
  | unfinished
  deriving DecidableEq, Inhabited, Repr

/-- A run of a program. -/
structure Ran (Query σ α : Type) where
  /-- How it ended. -/
  outcome : Outcome α
  log : List LogEntry
  /-- The questions, in order. -/
  asked : List Query
  /-- The state of whoever answered. -/
  state : σ

namespace Program

variable {Query : Type} {Answer : Query → Type} {α β : Type}

/-- Goes on with the value that the first program ends with. -/
def bind : Program Query Answer α → (α → Program Query Answer β) → Program Query Answer β
  | done a, f => f a
  | fail e, _ => fail e
  | unfinished, _ => unfinished
  | log entry next, f => log entry (bind next f)
  | ask q next, f => ask q fun answer => bind (next answer) f

section Bind

variable (f : α → Program Query Answer β)

@[simp] theorem done_bind (a : α) : (done a : Program Query Answer α).bind f = f a := rfl

@[simp] theorem fail_bind (e : Failure) : (fail e : Program Query Answer α).bind f = fail e := rfl

@[simp] theorem log_bind (entry : LogEntry) (first : Program Query Answer α) :
    (log entry first).bind f = log entry (first.bind f) := rfl

@[simp] theorem ask_bind (q : Query) (next : Answer q → Program Query Answer α) :
    (ask q next).bind f = ask q fun answer => (next answer).bind f := rfl

end Bind

instance : Monad (Program Query Answer) where
  pure := done
  bind := bind

/-- Writes one log entry. -/
def note (level : LogLevel) (text : String) : Program Query Answer Unit :=
  log ⟨level, text⟩ (done ())

/-- Writes log entries in order. -/
def notes : List LogEntry → Program Query Answer Unit
  | [] => done ()
  | entry :: entries => log entry (notes entries)

/-- Ends with the value, or with the failure. -/
def ofExcept : Except Failure α → Program Query Answer α
  | .ok a => done a
  | .error e => fail e

/-- Ends with the value, or fails for the defect. -/
def ofCheck : Except ConfigurationError α → Program Query Answer α
  | .ok a => done a
  | .error e => fail (.ofConfiguration e)

/-- The program with each failure changed. -/
def mapFailure (f : Failure → Failure) : Program Query Answer α → Program Query Answer α
  | done a => done a
  | fail e => fail (f e)
  | unfinished => unfinished
  | log entry next => log entry (mapFailure f next)
  | ask q next => ask q fun answer => mapFailure f (next answer)

section MapFailure

variable (f : Failure → Failure)

@[simp] theorem mapFailure_fail (e : Failure) :
    (fail e : Program Query Answer α).mapFailure f = fail (f e) := rfl

@[simp] theorem mapFailure_log (entry : LogEntry) (first : Program Query Answer α) :
    (log entry first).mapFailure f = log entry (first.mapFailure f) := rfl

@[simp] theorem mapFailure_ask (q : Query) (next : Answer q → Program Query Answer α) :
    (ask q next).mapFailure f = ask q fun answer => (next answer).mapFailure f := rfl

end MapFailure

/-- The program that ends with its failure as a value. -/
def attempt : Program Query Answer α → Program Query Answer (Except Failure α)
  | done a => done (.ok a)
  | fail e => done (.error e)
  | unfinished => unfinished
  | log entry next => log entry (attempt next)
  | ask q next => ask q fun answer => attempt (next answer)

@[simp] theorem attempt_done (a : α) : (done a : Program Query Answer α).attempt = done (.ok a) := rfl

@[simp] theorem attempt_fail (e : Failure) :
    (fail e : Program Query Answer α).attempt = done (.error e) := rfl

@[simp] theorem attempt_unfinished : (unfinished : Program Query Answer α).attempt = unfinished := rfl

@[simp] theorem attempt_log (entry : LogEntry) (first : Program Query Answer α) :
    (log entry first).attempt = log entry first.attempt := rfl

@[simp] theorem attempt_ask (q : Query) (next : Answer q → Program Query Answer α) :
    (ask q next).attempt = ask q fun answer => (next answer).attempt := rfl

/-- The program in which each question is answered by a program that asks other questions. -/
def answerBy {Query' : Type} {Answer' : Query' → Type}
    (f : (q : Query) → Program Query' Answer' (Answer q)) :
    Program Query Answer α → Program Query' Answer' α
  | done a => done a
  | fail e => fail e
  | unfinished => unfinished
  | log entry next => log entry (answerBy f next)
  | ask q next => (f q).bind fun answer => answerBy f (next answer)

section AnswerBy

variable {Query' : Type} {Answer' : Query' → Type} (f : (q : Query) → Program Query' Answer' (Answer q))

@[simp] theorem answerBy_done (a : α) : (done a : Program Query Answer α).answerBy f = done a := rfl

@[simp] theorem answerBy_fail (e : Failure) :
    (fail e : Program Query Answer α).answerBy f = fail e := rfl

@[simp] theorem answerBy_log (entry : LogEntry) (first : Program Query Answer α) :
    (log entry first).answerBy f = log entry (first.answerBy f) := rfl

@[simp] theorem answerBy_ask (q : Query) (next : Answer q → Program Query Answer α) :
    (ask q next).answerBy f = (f q).bind fun answer => (next answer).answerBy f := rfl

end AnswerBy

/-- Runs a program against answers that depend on a state and change it. -/
def run {σ : Type} (answer : (q : Query) → σ → Answer q × σ) :
    Program Query Answer α → σ → Ran Query σ α
  | done a, s => ⟨.done a, [], [], s⟩
  | fail e, s => ⟨.failed e, [], [], s⟩
  | unfinished, s => ⟨.unfinished, [], [], s⟩
  | log entry next, s =>
    let ran := run answer next s
    { ran with log := entry :: ran.log }
  | ask q next, s =>
    let (a, s) := answer q s
    let ran := run answer (next a) s
    { ran with asked := q :: ran.asked }

section Run

variable {σ : Type} (answer : (q : Query) → σ → Answer q × σ) (s : σ)

@[simp] theorem run_done (a : α) : run answer (done a) s = ⟨.done a, [], [], s⟩ := rfl

@[simp] theorem run_fail (e : Failure) :
    run answer (fail e : Program Query Answer α) s = ⟨.failed e, [], [], s⟩ := rfl

@[simp] theorem run_unfinished :
    run answer (unfinished : Program Query Answer α) s = ⟨.unfinished, [], [], s⟩ := rfl

@[simp] theorem run_log (entry : LogEntry) (first : Program Query Answer α) :
    run answer (log entry first) s =
      { run answer first s with log := entry :: (run answer first s).log } := rfl

@[simp] theorem run_ask (q : Query) (next : Answer q → Program Query Answer α) :
    run answer (ask q next) s =
      { run answer (next (answer q s).1) (answer q s).2 with
        asked := q :: (run answer (next (answer q s).1) (answer q s).2).asked } := rfl

end Run

theorem bind_done (p : Program Query Answer α) : p.bind done = p := by
  induction p with
  | done | fail | unfinished => rfl
  | log entry next ih => simp [ih]
  | ask q next ih => simp [ih]

theorem bind_assoc {γ : Type} (p : Program Query Answer α) (f : α → Program Query Answer β)
    (g : β → Program Query Answer γ) : (p.bind f).bind g = p.bind fun a => (f a).bind g := by
  induction p with
  | done | fail | unfinished => rfl
  | log entry next ih => simp [ih]
  | ask q next ih => simp [ih]

instance : LawfulMonad (Program Query Answer) :=
  LawfulMonad.mk' (Program Query Answer) bind_done (fun _ _ => rfl) bind_assoc

end Program
end AzureProvisioning
