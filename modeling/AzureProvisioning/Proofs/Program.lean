/-
# What a run depends on

The log entries of a program change neither its questions nor its end. `Program.quiet` drops them,
so an operation is described once by its quiet form (`Account.quiet_update` and the like) and every
question about its runs is asked of that form: `run_outcome_quiet`, `run_asked_quiet` and
`run_state_quiet` carry the answer back.

`run_bind` splits the run of one program after another, and `Operation.inOrder` is the program of a
list of calls, each made only when the one before it has succeeded. A revision is taken apart step by
step (`Revision.quiet_step_bind`).
-/

import AzureProvisioning.Management

namespace AzureProvisioning

/-- Whether the run ended with a value that passes the test. -/
def Outcome.satisfies {α : Type} (test : α → Bool) : Outcome α → Bool
  | .done a => test a
  | _ => false

theorem Outcome.exists_of_satisfies {α : Type} {test : α → Bool} {o : Outcome α}
    (h : o.satisfies test = true) : ∃ a, o = .done a ∧ test a = true := by
  cases o with
  | done a => exact ⟨a, rfl, h⟩
  | failed | unfinished => cases h

/-- Whether the run failed. -/
def Outcome.hasFailed {α : Type} : Outcome α → Bool
  | .failed _ => true
  | _ => false

theorem Outcome.exists_of_hasFailed {α : Type} {o : Outcome α} (h : o.hasFailed = true) :
    ∃ e, o = .failed e := by
  cases o with
  | failed e => exact ⟨e, rfl⟩
  | done | unfinished => cases h

/-- The outcome with its value changed. -/
def Outcome.map {α β : Type} (f : α → β) : Outcome α → Outcome β
  | done a => done (f a)
  | failed e => failed e
  | unfinished => unfinished

/-- A run, followed by a run of what goes on with its value. -/
def Ran.andThen {Query σ α β : Type} (r : Ran Query σ α) (next : α → σ → Ran Query σ β) :
    Ran Query σ β :=
  match r.outcome with
  | .done a =>
    let r' := next a r.state
    ⟨r'.outcome, r.log ++ r'.log, r.asked ++ r'.asked, r'.state⟩
  | .failed e => ⟨.failed e, r.log, r.asked, r.state⟩
  | .unfinished => ⟨.unfinished, r.log, r.asked, r.state⟩

namespace Ran

variable {Query σ α β : Type} {r : Ran Query σ α} {next : α → σ → Ran Query σ β}

theorem andThen_of_done {a : α} (h : r.outcome = .done a) :
    r.andThen next = { next a r.state with
      log := r.log ++ (next a r.state).log
      asked := r.asked ++ (next a r.state).asked } := by
  rw [andThen, h]

theorem andThen_done_iff {b : β} :
    (r.andThen next).outcome = .done b ↔
      ∃ a, r.outcome = .done a ∧ (next a r.state).outcome = .done b := by
  cases ho : r.outcome with
  | done a =>
    rw [andThen_of_done ho]
    exact ⟨fun h => ⟨a, rfl, h⟩, fun ⟨a', ha, h⟩ => by rwa [Outcome.done.inj ha]⟩
  | failed e => simp [andThen, ho]
  | unfinished => simp [andThen, ho]

/-- What holds after the first run, and is kept by the second one, holds after both. -/
theorem state_andThen {P : σ → Prop} (h : P r.state)
    (hnext : ∀ a, r.outcome = .done a → P (next a r.state).state) : P (r.andThen next).state := by
  cases ho : r.outcome with
  | done a =>
    rw [andThen_of_done ho]
    exact hnext a ho
  | failed e => rwa [andThen, ho]
  | unfinished => rwa [andThen, ho]

end Ran

namespace Program

variable {Query : Type} {Answer : Query → Type} {α β σ : Type}

/-- The program without its log entries. -/
def quiet : Program Query Answer α → Program Query Answer α
  | done a => done a
  | fail e => fail e
  | unfinished => unfinished
  | log _ next => quiet next
  | ask q next => ask q fun answer => quiet (next answer)

@[simp] theorem quiet_done (a : α) : (done a : Program Query Answer α).quiet = done a := rfl

@[simp] theorem quiet_fail (e : Failure) : (fail e : Program Query Answer α).quiet = fail e := rfl

@[simp] theorem quiet_log (entry : LogEntry) (next : Program Query Answer α) :
    (log entry next).quiet = next.quiet := rfl

@[simp] theorem quiet_ask (q : Query) (next : Answer q → Program Query Answer α) :
    (ask q next).quiet = ask q fun answer => (next answer).quiet := rfl

/-- Sequencing in `do` blocks is `Program.bind`. -/
theorem bind_eq_bind (p : Program Query Answer α) (f : α → Program Query Answer β) :
    (p >>= f) = p.bind f := rfl

/-- Programs that go on alike with every answer are alike. -/
theorem ask_congr {q : Query} {next next' : Answer q → Program Query Answer α}
    (h : ∀ answer, next answer = next' answer) : ask q next = ask q next' :=
  congrArg (ask q) (funext h)

theorem pure_eq_done (a : α) : (pure a : Program Query Answer α) = done a := rfl

@[simp] theorem quiet_bind (p : Program Query Answer α) (f : α → Program Query Answer β) :
    (p.bind f).quiet = p.quiet.bind fun a => (f a).quiet := by
  induction p with
  | done | fail | unfinished => rfl
  | log entry next ih => simpa using ih
  | ask q next ih => simp [ih]

@[simp] theorem quiet_note (level : LogLevel) (text : String) :
    (note level text : Program Query Answer Unit).quiet = done () := rfl

@[simp] theorem quiet_notes (entries : List LogEntry) :
    (notes entries : Program Query Answer Unit).quiet = done () := by
  induction entries with
  | nil => rfl
  | cons entry entries ih => simpa [notes] using ih

@[simp] theorem quiet_ofCheck (check : Except ConfigurationError α) :
    (ofCheck check : Program Query Answer α).quiet = ofCheck check := by
  cases check <;> rfl

@[simp] theorem quiet_ofExcept (value : Except Failure α) :
    (ofExcept value : Program Query Answer α).quiet = ofExcept value := by
  cases value <;> rfl

theorem quiet_attempt (p : Program Query Answer α) : p.attempt.quiet = p.quiet.attempt := by
  induction p with
  | done | fail | unfinished => rfl
  | log entry next ih => simpa using ih
  | ask q next ih => simp [ih]

theorem quiet_mapFailure (f : Failure → Failure) (p : Program Query Answer α) :
    (p.mapFailure f).quiet = p.quiet.mapFailure f := by
  induction p with
  | done | fail | unfinished => rfl
  | log entry next ih => simpa using ih
  | ask q next ih => simp [ih]

section Run

variable (answer : (q : Query) → σ → Answer q × σ)

/-- Without log entries a run has no log, and is the same run otherwise. -/
theorem run_quiet (p : Program Query Answer α) (s : σ) :
    run answer p.quiet s = { run answer p s with log := [] } := by
  induction p generalizing s with
  | done | fail | unfinished => rfl
  | log entry next ih => simp [ih]
  | ask q next ih => simp [ih]

theorem run_outcome_quiet (p : Program Query Answer α) (s : σ) :
    (run answer p.quiet s).outcome = (run answer p s).outcome := by
  rw [run_quiet]

theorem run_asked_quiet (p : Program Query Answer α) (s : σ) :
    (run answer p.quiet s).asked = (run answer p s).asked := by
  rw [run_quiet]

theorem run_state_quiet (p : Program Query Answer α) (s : σ) :
    (run answer p.quiet s).state = (run answer p s).state := by
  rw [run_quiet]

/-- The run of one program after another one. -/
theorem run_bind (p : Program Query Answer α) (f : α → Program Query Answer β) (s : σ) :
    run answer (p.bind f) s = (run answer p s).andThen fun a => run answer (f a) := by
  induction p generalizing s with
  | done | fail | unfinished => rfl
  | log entry next ih =>
    simp only [log_bind, run_log, ih, Ran.andThen]
    cases (run answer next s).outcome <;> rfl
  | ask q next ih =>
    simp only [ask_bind, run_ask, ih, Ran.andThen]
    cases (run answer (next (answer q s).1) (answer q s).2).outcome <;> rfl

/-- Log entries that are written first are the first ones of the log. -/
theorem run_notes_bind (entries : List LogEntry) (f : Unit → Program Query Answer α) (s : σ) :
    run answer ((notes entries).bind f) s =
      { run answer (f ()) s with log := entries ++ (run answer (f ()) s).log } := by
  induction entries with
  | nil => rfl
  | cons entry entries ih => simp [notes, ih]

/-- A check that is followed by a success has passed, and the rest is the whole run. -/
theorem run_ofCheck_bind_done {check : Except ConfigurationError α} {f : α → Program Query Answer β}
    {s : σ} {b : β} (h : (run answer ((ofCheck check).bind f) s).outcome = .done b) :
    ∃ a, check = .ok a ∧ run answer ((ofCheck check).bind f) s = run answer (f a) s := by
  cases check with
  | ok a => exact ⟨a, rfl, rfl⟩
  | error e => cases h

/-- Changing the failures of a program changes only how its failed runs end. -/
theorem run_mapFailure (f : Failure → Failure) (p : Program Query Answer α) (s : σ) :
    run answer (p.mapFailure f) s =
      { run answer p s with
        outcome := match (run answer p s).outcome with
          | .failed e => .failed (f e)
          | o => o } := by
  induction p generalizing s with
  | done | fail | unfinished => rfl
  | log entry next ih => simp [ih]
  | ask q next ih => simp [ih]

/-- A program that takes its failure as a value asks the same questions. -/
theorem run_attempt (p : Program Query Answer α) (s : σ) :
    run answer p.attempt s =
      { run answer p s with
        outcome := match (run answer p s).outcome with
          | .done a => .done (.ok a)
          | .failed e => .done (.error e)
          | .unfinished => .unfinished } := by
  induction p generalizing s with
  | done | fail | unfinished => rfl
  | log entry next ih => simp [ih]
  | ask q next ih => simp [ih]

/-- A program that fails at its end asks the same questions, and never succeeds. -/
theorem run_bind_fail (p : Program Query Answer α) (e : Failure) (s : σ) :
    run answer (p.bind fun _ => (fail e : Program Query Answer β)) s =
      { run answer p s with
        outcome := match (run answer p s).outcome with
          | .done _ => .failed e
          | .failed e' => .failed e'
          | .unfinished => .unfinished } := by
  induction p generalizing s with
  | done | fail | unfinished => rfl
  | log entry next ih => simp [ih]
  | ask q next ih => simp [ih]

/-- A program whose value is changed at its end asks the same questions. -/
theorem run_bind_map (p : Program Query Answer α) (f : α → β) (s : σ) :
    run answer (p.bind fun a => done (f a)) s =
      { run answer p s with outcome := (run answer p s).outcome.map f } := by
  induction p generalizing s with
  | done | fail | unfinished => rfl
  | log entry next ih => simp [ih]
  | ask q next ih => simp [ih]

/-- **What a run keeps**: a property of the state that none of its questions breaks. -/
theorem run_state_keeps {P : σ → Prop} {p : Program Query Answer α} {s : σ}
    (hkeeps : ∀ q ∈ (run answer p s).asked, ∀ s, P s → P (answer q s).2) (h : P s) :
    P (run answer p s).state := by
  induction p generalizing s with
  | done | fail | unfinished => exact h
  | log entry next ih => exact ih hkeeps h
  | ask q next ih =>
    exact ih _ (fun q' hq' => hkeeps q' (List.mem_cons_of_mem q hq'))
      (hkeeps q List.mem_cons_self s h)

/-- Who is asked nothing does not change. -/
theorem run_state_of_asked_eq_nil {p : Program Query Answer α} {s : σ}
    (h : (run answer p s).asked = []) : (run answer p s).state = s := by
  induction p generalizing s with
  | done | fail | unfinished => rfl
  | log entry next ih => exact ih h
  | ask q next ih => cases h

end Run
end Program

namespace Operation

/-- The calls one after the other, each made only when the one before it has succeeded. -/
def inOrder : List Call → Operation Unit
  | [] => .done ()
  | c :: cs => (request c).bind fun _ => inOrder cs

theorem inOrder_append (cs ds : List Call) :
    inOrder (cs ++ ds) = (inOrder cs).bind fun _ => inOrder ds := by
  induction cs with
  | nil => rfl
  | cons c cs ih => simp [inOrder, ih, Program.bind_assoc]

@[simp] theorem quiet_request (c : Call) : (request c).quiet = request c := by
  simp [request]

theorem attempt_request (c : Call) : (request c).attempt = .ask c .done := by
  refine Program.ask_congr fun reply => ?_
  cases reply <;> rfl

section Run

variable {α σ : Type} {answer : (c : Call) → σ → c.Answer × σ} {c : Call} {s s' : σ}

/-- A call that succeeds is followed by what goes on with its reply. -/
theorem run_request_ok {reply : c.Reply} (h : answer c s = (.ok reply, s'))
    (next : c.Reply → Operation α) :
    ((request c).bind next).run answer s =
      { (next reply).run answer s' with asked := c :: ((next reply).run answer s').asked } := by
  simp only [request, Program.ask_bind, Program.run_ask, h, Program.ofExcept, Program.done_bind]

/-- A call that fails is the last one. -/
theorem run_request_error {e : Failure} (h : answer c s = (.error e, s'))
    (next : c.Reply → Operation α) :
    ((request c).bind next).run answer s = ⟨.failed e, [], [c], s'⟩ := by
  simp only [request, Program.ask_bind, Program.run_ask, h, Program.ofExcept, Program.fail_bind,
    Program.run_fail]

/-- A call on its own ends as it is answered. -/
theorem run_request (answer : (c : Call) → σ → c.Answer × σ) (c : Call) (s : σ) :
    (request c).run answer s =
      { outcome := match (answer c s).1 with
          | .ok reply => .done reply
          | .error e => .failed e
        log := []
        asked := [c]
        state := (answer c s).2 } := by
  cases hanswer : (answer c s).1 <;> simp only [request, Program.run_ask, hanswer, Program.ofExcept, Program.run_done, Program.run_fail]

/-- A call with nothing asked after it is the only one. -/
theorem asked_request_bind (answer : (c : Call) → σ → c.Answer × σ) (c : Call)
    {next : c.Reply → Operation α}
    (hnext : ∀ {reply s}, ((next reply).run answer s).asked = []) (s : σ) :
    (((request c).bind next).run answer s).asked = [c] := by
  rcases hanswer : answer c s with ⟨e | reply, s'⟩
  · rw [run_request_error hanswer]
  · rw [run_request_ok hanswer, hnext]

/-- The first of the calls is made, and the others are made when it succeeds. -/
theorem run_inOrder_cons (answer : (c : Call) → σ → c.Answer × σ) (c : Call) (cs : List Call)
    (s : σ) :
    (∃ e s', (inOrder (c :: cs)).run answer s = ⟨.failed e, [], [c], s'⟩) ∨
      ∃ s', (inOrder (c :: cs)).run answer s =
        { (inOrder cs).run answer s' with asked := c :: ((inOrder cs).run answer s').asked } := by
  rcases hanswer : answer c s with ⟨e | reply, s'⟩
  · exact .inl ⟨e, s', run_request_error hanswer _⟩
  · exact .inr ⟨s', run_request_ok hanswer _⟩

/-- Whatever is answered, the calls that are made are the first ones of the list. -/
theorem asked_inOrder_prefix (answer : (c : Call) → σ → c.Answer × σ) (cs : List Call) (s : σ) :
    ((inOrder cs).run answer s).asked <+: cs := by
  induction cs generalizing s with
  | nil => exact List.prefix_rfl
  | cons c cs ih =>
    rcases run_inOrder_cons answer c cs s with ⟨e, s', hrun⟩ | ⟨s', hrun⟩
    · rw [hrun]
      exact List.cons_prefix_cons.2 ⟨rfl, List.nil_prefix⟩
    · rw [hrun]
      exact List.cons_prefix_cons.2 ⟨rfl, ih s'⟩

/-- The first call is made in any case. -/
theorem asked_inOrder_ne_nil (answer : (c : Call) → σ → c.Answer × σ) {cs : List Call} (h : cs ≠ [])
    (s : σ) : ((inOrder cs).run answer s).asked ≠ [] := by
  obtain ⟨c, rest, rfl⟩ := List.exists_cons_of_ne_nil h
  rcases run_inOrder_cons answer c rest s with ⟨e, s', hrun⟩ | ⟨s', hrun⟩ <;> simp [hrun]

/-- A list of calls comes to an end: all of them are made, or one fails. -/
theorem outcome_inOrder (answer : (c : Call) → σ → c.Answer × σ) (cs : List Call) (s : σ) :
    ((inOrder cs).run answer s).outcome = .done () ∧ ((inOrder cs).run answer s).asked = cs ∨
      ∃ e, ((inOrder cs).run answer s).outcome = .failed e := by
  induction cs generalizing s with
  | nil => exact .inl ⟨rfl, rfl⟩
  | cons c cs ih =>
    rcases run_inOrder_cons answer c cs s with ⟨e, s', hrun⟩ | ⟨s', hrun⟩
    · exact .inr ⟨e, by rw [hrun]⟩
    · rw [hrun]
      rcases ih s' with ⟨hdone, hasked⟩ | ⟨e, hfailed⟩
      · exact .inl ⟨hdone, by rw [hasked]⟩
      · exact .inr ⟨e, hfailed⟩

theorem outcome_inOrder_ne_unfinished (answer : (c : Call) → σ → c.Answer × σ) (cs : List Call)
    (s : σ) : ((inOrder cs).run answer s).outcome ≠ .unfinished := by
  rcases outcome_inOrder answer cs s with ⟨hdone, -⟩ | ⟨e, hfailed⟩
  · exact fun h => nomatch h.symm.trans hdone
  · exact fun h => nomatch h.symm.trans hfailed

end Run

end Operation

namespace Revision

open Program

variable {ρ β γ : Type}

theorem record_bind (f : ρ → Revision ρ β) (before : ρ) :
    (record >>= f) before = f before before := rfl

/-- A step comes first, and leaves the record to the rest. -/
theorem quiet_step_bind (p : Operation β) (f : β → Revision ρ γ) (record : ρ) :
    ((step p >>= f) record).quiet =
      p.quiet.attempt.bind fun result => (next f (result, record)).quiet := by
  show ((p.attempt.bind fun result => .done (result, record)).bind (next f)).quiet = _
  rw [Program.bind_assoc, quiet_bind, quiet_attempt]
  rfl

theorem quiet_left (m : Revision ρ Unit) (before : ρ) :
    (m.left before).quiet =
      (m before).quiet.bind fun ended => ofExcept (ended.1.map fun () => ended.2) := by
  rw [left, bind_eq_bind, quiet_bind]
  exact congrArg _ (funext fun ended => quiet_ofExcept _)

theorem quiet_found (m : Revision ρ Bool) (before : ρ) :
    (m.found before).quiet = (m before).quiet.bind fun ended =>
      ofExcept (ended.1.map fun isFound => if isFound then some ended.2 else none) := by
  rw [found, bind_eq_bind, quiet_bind]
  exact congrArg _ (funext fun ended => quiet_ofExcept _)

end Revision
end AzureProvisioning
