/-
# Transcripts

A transcript is a list of questions with the answers they got. `Program.Runs p t o` says that the
program `p` asks exactly the questions of `t`, in order, and ends with `o` when it gets these answers.
Nothing is said of who answers, so a property of all transcripts of an operation holds against every
service, however it behaves.

Main statements: every run has a transcript with the questions of the run (`exists_runs_run`), a
transcript fixes the outcome (`Runs.unique`), and a transcript of one program after another is one of
the first followed by one of the second (`runs_bind_iff`).
-/

import AzureProvisioning.Program

namespace AzureProvisioning

/-- A question with its answer. -/
structure Asked (Query : Type) (Answer : Query → Type) where
  query : Query
  answer : Answer query

namespace Program

variable {Query : Type} {Answer : Query → Type} {α β : Type}

/-- The program asks these questions, gets these answers, and ends so. -/
inductive Runs : Program Query Answer α → List (Asked Query Answer) → Outcome α → Prop
  | done (a : α) : Runs (.done a) [] (.done a)
  | fail (e : Failure) : Runs (.fail e) [] (.failed e)
  | unfinished : Runs .unfinished [] .unfinished
  | log {entry : LogEntry} {next : Program Query Answer α} {t : List (Asked Query Answer)}
      {o : Outcome α} : Runs next t o → Runs (.log entry next) t o
  | ask {q : Query} {next : Answer q → Program Query Answer α} (answer : Answer q)
      {t : List (Asked Query Answer)} {o : Outcome α} :
      Runs (next answer) t o → Runs (.ask q next) (⟨q, answer⟩ :: t) o

/-- Every run has a transcript with the questions of the run. -/
theorem exists_runs_run {σ : Type} (answer : (q : Query) → σ → Answer q × σ)
    (p : Program Query Answer α) (s : σ) :
    ∃ t, Runs p t (run answer p s).outcome ∧ t.map Asked.query = (run answer p s).asked := by
  induction p generalizing s with
  | done a => exact ⟨[], .done a, rfl⟩
  | fail e => exact ⟨[], .fail e, rfl⟩
  | unfinished => exact ⟨[], .unfinished, rfl⟩
  | log entry next ih =>
    obtain ⟨t, ht, hq⟩ := ih s
    exact ⟨t, .log ht, hq⟩
  | ask q next ih =>
    obtain ⟨t, ht, hq⟩ := ih (answer q s).1 (answer q s).2
    exact ⟨⟨q, (answer q s).1⟩ :: t, .ask _ ht, by simp [hq]⟩

/-- The answers fix how a program ends. -/
theorem Runs.unique {p : Program Query Answer α} {t : List (Asked Query Answer)}
    {o o' : Outcome α} (h : Runs p t o) (h' : Runs p t o') : o = o' := by
  induction h with
  | done | fail | unfinished => cases h'; rfl
  | log _ ih => cases h' with | log h' => exact ih h'
  | ask answer _ ih => cases h' with | ask _ h' => exact ih h'

/-- A transcript of a program that goes on after another one. -/
theorem runs_bind_iff {p : Program Query Answer α} {f : α → Program Query Answer β}
    {t : List (Asked Query Answer)} {o : Outcome β} :
    Runs (p.bind f) t o ↔
      (∃ a t₁ t₂, t = t₁ ++ t₂ ∧ Runs p t₁ (.done a) ∧ Runs (f a) t₂ o) ∨
      (∃ e, Runs p t (.failed e) ∧ o = .failed e) ∨
      (Runs p t .unfinished ∧ o = .unfinished) := by
  induction p generalizing t with
  | done a =>
    constructor
    · exact fun h => .inl ⟨a, [], t, rfl, .done a, h⟩
    · rintro (⟨b, t₁, t₂, rfl, hp, hf⟩ | ⟨e, hp, -⟩ | ⟨hp, -⟩)
      · cases hp; exact hf
      · cases hp
      · cases hp
  | fail e =>
    constructor
    · intro h; cases h; exact .inr (.inl ⟨e, .fail e, rfl⟩)
    · rintro (⟨b, t₁, t₂, rfl, hp, hf⟩ | ⟨e', hp, ho⟩ | ⟨hp, -⟩)
      · cases hp
      · cases hp; exact ho ▸ .fail e
      · cases hp
  | unfinished =>
    constructor
    · intro h; cases h; exact .inr (.inr ⟨.unfinished, rfl⟩)
    · rintro (⟨b, t₁, t₂, rfl, hp, hf⟩ | ⟨e', hp, ho⟩ | ⟨hp, ho⟩)
      · cases hp
      · cases hp
      · cases hp; exact ho ▸ .unfinished
  | log entry next ih =>
    constructor
    · intro h
      cases h with
      | log h =>
        rcases ih.1 h with ⟨a, t₁, t₂, ht, hp, hf⟩ | ⟨e, hp, ho⟩ | ⟨hp, ho⟩
        · exact .inl ⟨a, t₁, t₂, ht, .log hp, hf⟩
        · exact .inr (.inl ⟨e, .log hp, ho⟩)
        · exact .inr (.inr ⟨.log hp, ho⟩)
    · rintro (⟨b, t₁, t₂, ht, hp, hf⟩ | ⟨e, hp, ho⟩ | ⟨hp, ho⟩)
      · cases hp with | log hp => exact .log (ih.2 (.inl ⟨b, t₁, t₂, ht, hp, hf⟩))
      · cases hp with | log hp => exact .log (ih.2 (.inr (.inl ⟨e, hp, ho⟩)))
      · cases hp with | log hp => exact .log (ih.2 (.inr (.inr ⟨hp, ho⟩)))
  | ask q next ih =>
    constructor
    · intro h
      cases h with
      | ask answer h =>
        rcases (ih answer).1 h with ⟨a, t₁, t₂, ht, hp, hf⟩ | ⟨e, hp, ho⟩ | ⟨hp, ho⟩
        · exact .inl ⟨a, _ :: t₁, t₂, by rw [ht]; rfl, .ask answer hp, hf⟩
        · exact .inr (.inl ⟨e, .ask answer hp, ho⟩)
        · exact .inr (.inr ⟨.ask answer hp, ho⟩)
    · rintro (⟨b, t₁, t₂, ht, hp, hf⟩ | ⟨e, hp, ho⟩ | ⟨hp, ho⟩)
      · cases hp with
        | ask answer hp => subst ht; exact .ask answer ((ih answer).2 (.inl ⟨b, _, t₂, rfl, hp, hf⟩))
      · cases hp with
        | ask answer hp => exact .ask answer ((ih answer).2 (.inr (.inl ⟨e, hp, ho⟩)))
      · cases hp with
        | ask answer hp => exact .ask answer ((ih answer).2 (.inr (.inr ⟨hp, ho⟩)))

end Program
end AzureProvisioning
