/-
# Operations side by side

Two operations that share a service take turns: at each turn one of them goes on by a step, a log entry
or a call (`Pair.next`). A list of turns is one order in which their calls can come (`Pair.after`), and
from any point on there are turns that lead both to their end (`Pair.exists_ended`).

A call on an object is decided by what is stored under its key, and changes nothing else
(`perform_on_key`). An operation that makes calls on one object alone (`Confined`) therefore leaves the
other ones as they are, and ends the same way whatever they are (`Confined.agrees`). Two such operations
on different objects take no notice of each other: at every turn each of them is on its way to the end
that it has alone (`Parted.after`), and they leave the objects that they leave one after the other
(`Confined.apart`).
-/

import AzureProvisioning.Proofs.Memory
import AzureProvisioning.Proofs.Rest.Directing

namespace AzureProvisioning

/-- The key in the store: the names in small letters. -/
def Key.stored : Key → Key
  | .account g n => .account (Text.lowercase g) (Text.lowercase n)
  | .group n => .group (Text.lowercase n)

/-- How the program has ended, if it has. -/
def Program.ended? {Query : Type} {Answer : Query → Type} {α : Type} :
    Program Query Answer α → Option (Outcome α)
  | done a => some (.done a)
  | fail e => some (.failed e)
  | unfinished => some .unfinished
  | log .. | ask .. => none

namespace Memory

/-- What the service stores: an account with the group as it was given, or a group. -/
abbrev Object : Type :=
  (String × DatabaseAccount) ⊕ ResourceGroup

/-- The object under a key of the store. -/
def object? (m : Memory) : Key → Option Object
  | .account g n => (m.accounts.get? (g, n)).map .inl
  | .group n => (m.groups.get? n).map .inr

/-- An operation after its next step, and the service then. One that has ended makes none. -/
def step {α : Type} : Operation α → Memory → Operation α × Memory
  | .log _ next, m => (next, m)
  | .ask c next, m => (next (answer c m).1, (answer c m).2)
  | p, m => (p, m)

section Calls

variable {m m' : Memory} {c : Call} {key : Key}

/-- Only the entry of an account is written. -/
theorem object?_setAccounts {d : Dictionary (String × String) (String × DatabaseAccount)}
    {group name : String} {e : Option (String × DatabaseAccount)}
    (h : ∀ k, d.get? k = if accountKey group name = k then e else m.accounts.get? k) :
    { m with accounts := d }.object? =
      Function.update m.object? (Key.account group name).stored (e.map .inl) := by
  funext k
  cases k with
  | account g n =>
    have hkey : Key.account g n = (Key.account group name).stored ↔
        accountKey group name = (g, n) := by
      simp [Key.stored, accountKey, eq_comm]
    simp only [object?, h, Function.update_apply, hkey]
    split <;> rfl
  | group n => rfl

/-- Only the entry of a group is written. -/
theorem object?_setGroups {d : Dictionary String ResourceGroup} {name : String}
    {e : Option ResourceGroup} (h : ∀ k, d.get? k = if groupKey name = k then e else m.groups.get? k) :
    { m with groups := d }.object? =
      Function.update m.object? (Key.group name).stored (e.map .inr) := by
  funext k
  cases k with
  | account => rfl
  | group n =>
    have hkey : Key.group n = (Key.group name).stored ↔ groupKey name = n := by
      simp [Key.stored, groupKey, eq_comm]
    simp only [object?, h, Function.update_apply, hkey]
    split <;> rfl

/-- The same object is written under the key of two services: `m` becomes `a`, and `m'` becomes `a'`. -/
def WritesSame (key : Key) (m m' a a' : Memory) : Prop :=
  ∃ o, a.object? = Function.update m.object? key.stored o ∧
    a'.object? = Function.update m'.object? key.stored o

theorem writesSame_self (h : m.object? key.stored = m'.object? key.stored) :
    WritesSame key m m' m m' :=
  ⟨_, (Function.update_eq_self _ _).symm, by rw [h, Function.update_eq_self]⟩

theorem writesSame_insertAccount (m m' : Memory) (group name : String) (v : String × DatabaseAccount) :
    WritesSame (.account group name) m m'
      { m with accounts := m.accounts.insert (accountKey group name) v }
      { m' with accounts := m'.accounts.insert (accountKey group name) v } :=
  ⟨_, object?_setAccounts fun _ => Dictionary.get?_insert ..,
    object?_setAccounts fun _ => Dictionary.get?_insert ..⟩

theorem writesSame_eraseAccount (m m' : Memory) (group name : String) :
    WritesSame (.account group name) m m'
      { m with accounts := m.accounts.erase (accountKey group name) }
      { m' with accounts := m'.accounts.erase (accountKey group name) } :=
  ⟨_, object?_setAccounts fun _ => Dictionary.get?_erase ..,
    object?_setAccounts fun _ => Dictionary.get?_erase ..⟩

theorem writesSame_setGroup (m m' : Memory) (name : String) (group : ResourceGroup) :
    WritesSame (.group name) m m' (m.setGroup name group) (m'.setGroup name group) :=
  ⟨_, object?_setGroups fun _ => Dictionary.get?_insert ..,
    object?_setGroups fun _ => Dictionary.get?_insert ..⟩

theorem writesSame_eraseGroup (m m' : Memory) (name : String) :
    WritesSame (.group name) m m' { m with groups := m.groups.erase (groupKey name) }
      { m' with groups := m'.groups.erase (groupKey name) } :=
  ⟨_, object?_setGroups fun _ => Dictionary.get?_erase ..,
    object?_setGroups fun _ => Dictionary.get?_erase ..⟩

/-- **A call on an object depends on what is stored under its key alone, and writes there only.** Two
services that have the same object there give the same answer, and store the same object. -/
theorem perform_on_key (hkey : c.key? = some key) (h : m.object? key.stored = m'.object? key.stored) :
    (perform c m).1 = (perform c m').1 ∧ WritesSame key m m' (perform c m).2 (perform c m').2 := by
  have hkept := writesSame_self h
  have haccount {group name : String} (hk : key = .account group name) :
      m.accounts.get? (accountKey group name) = m'.accounts.get? (accountKey group name) := by
    subst hk
    exact Option.map_injective Sum.inl_injective h
  have hgroup {name : String} (hk : key = .group name) : m.group? name = m'.group? name := by
    subst hk
    exact Option.map_injective Sum.inr_injective h
  cases c with
  | listAccounts | listAccountsIn | listGroups => cases hkey
  | getAccount group name =>
    cases hkey
    exact ⟨congrArg (fun o => Except.ok (Option.map Prod.snd o)) (haccount rfl), hkept⟩
  | putAccount =>
    cases hkey
    exact ⟨rfl, writesSame_insertAccount ..⟩
  | patchAccount group name update =>
    cases hkey
    simp only [perform, ← haccount rfl]
    cases m.accounts.get? (accountKey group name) with
    | none => exact ⟨rfl, hkept⟩
    | some found =>
      dsimp only
      split
      · exact ⟨rfl, writesSame_insertAccount ..⟩
      · exact ⟨rfl, hkept⟩
  | changePriorities group name policies =>
    cases hkey
    simp only [perform, ← haccount rfl]
    cases m.accounts.get? (accountKey group name) with
    | none => exact ⟨rfl, hkept⟩
    | some found =>
      dsimp only
      split
      · exact ⟨rfl, writesSame_insertAccount ..⟩
      · exact ⟨rfl, hkept⟩
  | deleteAccount group name =>
    cases hkey
    simp only [perform, ← haccount rfl]
    cases m.accounts.get? (accountKey group name) with
    | none => exact ⟨rfl, hkept⟩
    | some _ => exact ⟨rfl, writesSame_eraseAccount ..⟩
  | getGroup name =>
    cases hkey
    exact ⟨congrArg Except.ok (hgroup rfl), hkept⟩
  | putGroup =>
    cases hkey
    exact ⟨rfl, writesSame_setGroup ..⟩
  | setGroupTags name tags =>
    cases hkey
    simp only [perform, ← hgroup rfl]
    cases m.group? name with
    | none => exact ⟨rfl, hkept⟩
    | some _ => exact ⟨rfl, writesSame_setGroup ..⟩
  | deleteGroup name =>
    cases hkey
    simp only [perform, ← hgroup rfl]
    cases m.group? name with
    | none => exact ⟨rfl, hkept⟩
    | some _ => exact ⟨rfl, writesSame_eraseGroup ..⟩

/-- What a service without planned failures does at a call on an object. -/
theorem answer_on_key (hm : m.failing = []) (hm' : m'.failing = []) (hkey : c.key? = some key)
    (h : m.object? key.stored = m'.object? key.stored) :
    (answer c m).2.failing = [] ∧ (answer c m).1 = (answer c m').1 ∧
      WritesSame key m m' (answer c m).2 (answer c m').2 := by
  rw [answer_of_ready hm, answer_of_ready hm']
  exact ⟨(failing_perform c _).trans hm, perform_on_key (m := recorded c m) hkey h⟩

end Calls

section Confinement

variable {α β : Type} {p : Operation α} {f : α → Operation β} {key? key?' : Option Key} {m m' : Memory}

/-- Whatever services without planned failures answer, the operation makes calls on the object under
this key of the store alone; with no key it makes none. -/
def Confined (key? : Option Key) : Operation α → Prop
  | .done _ | .fail _ | .unfinished => True
  | .log _ next => Confined key? next
  | .ask c next => (∃ key, c.key? = some key ∧ key? = some key.stored) ∧
      ∀ m : Memory, m.failing = [] → Confined key? (next (answer c m).1)

theorem Confined.mono (h : Confined key? p) (hkeys : ∀ k, key? = some k → key?' = some k) :
    Confined key?' p := by
  induction p with
  | done | fail | unfinished => trivial
  | log entry next ih => exact ih h
  | ask c next ih =>
    obtain ⟨⟨key, hkey, hstored⟩, hnext⟩ := h
    exact ⟨⟨key, hkey, hkeys _ hstored⟩, fun m hm => ih _ (hnext m hm)⟩

theorem confined_of_asksOnly
    (h : p.AsksOnly fun c => ∃ key, key? = some key ∧ c.key? = some key) :
    Confined (key?.map Key.stored) p := by
  induction p with
  | done | fail | unfinished => trivial
  | log entry next ih => exact ih h
  | ask c next ih =>
    obtain ⟨⟨key, rfl, hkey⟩, hnext⟩ := h
    exact ⟨⟨key, hkey, rfl⟩, fun m _ => ih _ (hnext _)⟩

theorem confined_quiet_iff : Confined key? p.quiet ↔ Confined key? p := by
  induction p with
  | done | fail | unfinished => exact Iff.rfl
  | log entry next ih => exact ih
  | ask c next ih => exact and_congr_right' (forall₂_congr fun m _ => ih (answer c m).1)

theorem confined_mapFailure_iff (g : Failure → Failure) :
    Confined key? (p.mapFailure g) ↔ Confined key? p := by
  induction p with
  | done | fail | unfinished => exact Iff.rfl
  | log entry next ih => exact ih
  | ask c next ih => exact and_congr_right' (forall₂_congr fun m _ => ih (answer c m).1)

theorem Confined.bind (hp : Confined key? p) (hf : ∀ a, Confined key? (f a)) :
    Confined key? (p.bind f) := by
  induction p with
  | done a => exact hf a
  | fail | unfinished => trivial
  | log entry next ih => exact ih hp
  | ask c next ih => exact ⟨hp.1, fun m hm => ih _ (hp.2 m hm)⟩

/-- A call on the object, and what goes on with a reply of the service. -/
theorem confined_request_bind {c : Call} {key : Key} {f : c.Reply → Operation β}
    (hkey : c.key? = some key)
    (hf : ∀ m reply, (perform c m).1 = .ok reply → Confined (some key.stored) (f reply)) :
    Confined (some key.stored) ((Operation.request c).bind f) := by
  refine ⟨⟨key, hkey, rfl⟩, fun m hm => ?_⟩
  cases hanswer : (answer c m).1 with
  | error e => trivial
  | ok reply =>
    rw [answer_of_ready hm] at hanswer
    exact hf _ reply hanswer

/-- The two runs end the same way, and leave the same object under the key. -/
structure Agrees (key? : Option Key) (r r' : Ran Call Memory α) : Prop where
  outcome : r.outcome = r'.outcome
  object : ∀ k, key? = some k → r.state.object? k = r'.state.object? k

theorem Agrees.trans {r r' r'' : Ran Call Memory α} (h : Agrees key? r r') (h' : Agrees key? r' r'') :
    Agrees key? r r'' :=
  ⟨h.outcome.trans h'.outcome, fun k hk => (h.object k hk).trans (h'.object k hk)⟩

/-- The services have the same objects, apart from the one under the key. -/
def SameBut (key? : Option Key) (m m' : Memory) : Prop :=
  ∀ k, key? ≠ some k → m.object? k = m'.object? k

/-- A step of a confined operation is on the object, and leaves it confined. -/
theorem Confined.step (h : Confined key? p) (hm : m.failing = []) :
    Confined key? (step p m).1 ∧ (Memory.step p m).2.failing = [] ∧
      SameBut key? (Memory.step p m).2 m := by
  cases p with
  | done | fail | unfinished | log => exact ⟨h, hm, fun _ _ => rfl⟩
  | ask c next =>
    obtain ⟨⟨key, hkey, rfl⟩, hnext⟩ := h
    obtain ⟨hready, -, o, hobject, -⟩ := answer_on_key hm hm hkey rfl
    refine ⟨hnext m hm, hready, fun k hk => ?_⟩
    show (answer c m).2.object? k = m.object? k
    rw [hobject, Function.update_of_ne fun heq => hk (congrArg some heq.symm)]

/-- A run of a confined operation changes no other object. -/
theorem Confined.run (h : Confined key? p) (hm : m.failing = []) :
    (run p m).state.failing = [] ∧ SameBut key? (Memory.run p m).state m := by
  induction p generalizing m with
  | done | fail | unfinished => exact ⟨hm, fun _ _ => rfl⟩
  | log entry next ih => exact ih h hm
  | ask c next ih =>
    obtain ⟨hconfined, hready, hstep⟩ := Confined.step h hm
    obtain ⟨hlast, hrest⟩ := ih _ hconfined hready
    exact ⟨hlast, fun k hk => (hrest k hk).trans (hstep k hk)⟩

/-- **Other objects do not count** for a confined operation. -/
theorem Confined.agrees (h : Confined key? p) (hm : m.failing = []) (hm' : m'.failing = [])
    (hsame : ∀ k, key? = some k → m.object? k = m'.object? k) :
    Agrees key? (Memory.run p m) (Memory.run p m') := by
  induction p generalizing m m' with
  | done | fail | unfinished => exact ⟨rfl, hsame⟩
  | log entry next ih =>
    obtain ⟨houtcome, hobject⟩ := ih h hm hm' hsame
    exact ⟨houtcome, hobject⟩
  | ask c next ih =>
    obtain ⟨⟨key, hkey, rfl⟩, hnext⟩ := h
    obtain ⟨hready, hanswer, o, hobject, hobject'⟩ := answer_on_key hm hm' hkey (hsame _ rfl)
    obtain ⟨hready', -⟩ := answer_on_key hm' hm' hkey rfl
    have hafter : ∀ k, some key.stored = some k →
        (answer c m).2.object? k = (answer c m').2.object? k := by
      rintro k hk
      obtain rfl := Option.some.inj hk
      rw [hobject, hobject', Function.update_self, Function.update_self]
    have hrest : Agrees (some key.stored) (Memory.run (next (answer c m).1) (answer c m).2)
        (Memory.run (next (answer c m').1) (answer c m').2) := by
      rw [← hanswer]
      exact ih _ (hnext m hm) hready hready' hafter
    exact ⟨hrest.outcome, hrest.object⟩

end Confinement

/-- Two operations under way, and the service that they share. -/
structure Pair (α β : Type) where
  first : Operation α
  second : Operation β
  memory : Memory

/-- Which of the two operations goes on. -/
inductive Turn
  | first
  | second
  deriving DecidableEq, Inhabited, Repr

namespace Pair

variable {α β : Type}

/-- The two operations after a turn. -/
def next (s : Pair α β) : Turn → Pair α β
  | .first => ⟨(step s.first s.memory).1, s.second, (step s.first s.memory).2⟩
  | .second => ⟨s.first, (step s.second s.memory).1, (step s.second s.memory).2⟩

/-- The two operations after these turns. -/
def after (s : Pair α β) (turns : List Turn) : Pair α β :=
  turns.foldl next s

/-- Both operations have ended. -/
def Ended (s : Pair α β) : Prop :=
  s.first.ended?.isSome = true ∧ s.second.ended?.isSome = true

/-- **No order of the calls keeps the operations from their end.** -/
theorem exists_ended (s : Pair α β) : ∃ turns, (s.after turns).Ended := by
  obtain ⟨p, q, m⟩ := s
  -- First the one operation comes to its end, then the other one.
  induction p generalizing m with
  | log entry p ih =>
    obtain ⟨turns, hended⟩ := ih m
    exact ⟨.first :: turns, hended⟩
  | ask c p ih =>
    obtain ⟨turns, hended⟩ := ih (answer c m).1 (answer c m).2
    exact ⟨.first :: turns, hended⟩
  | done | fail | unfinished =>
    induction q generalizing m with
    | log entry q ih =>
      obtain ⟨turns, hended⟩ := ih m
      exact ⟨.second :: turns, hended⟩
    | ask c q ih =>
      obtain ⟨turns, hended⟩ := ih (answer c m).1 (answer c m).2
      exact ⟨.second :: turns, hended⟩
    | done | fail | unfinished => exact ⟨[], rfl, rfl⟩

end Pair

section Apart

variable {α β : Type} {p : Operation α} {q : Operation β} {key? key?' : Option Key} {m : Memory}

/-- A step is the beginning of the run. -/
theorem agrees_step (key? : Option Key) (p : Operation α) (m : Memory) :
    Agrees key? (run (step p m).1 (step p m).2) (run p m) := by
  cases p <;> exact ⟨rfl, fun _ _ => rfl⟩

/-- The keys are not the same. -/
def Differ (key? key?' : Option Key) : Prop :=
  ∀ k, key? = some k → key?' ≠ some k

theorem Differ.symm (h : Differ key? key?') : Differ key?' key? :=
  fun k hk' hk => h k hk hk'

/-- The operation is on its way to the end that it has alone. -/
structure Undisturbed (key? : Option Key) (p : Operation α) (m : Memory) (current : Operation α)
    (now : Memory) : Prop where
  confined : Confined key? current
  agrees : Agrees key? (run current now) (run p m)

/-- A step of the operation itself. -/
theorem Undisturbed.step {current : Operation α} {now : Memory}
    (h : Undisturbed key? p m current now) (hready : now.failing = []) :
    Undisturbed key? p m (step current now).1 (Memory.step current now).2 :=
  ⟨(h.confined.step hready).1, (agrees_step key? current now).trans h.agrees⟩

/-- A step on another object. -/
theorem Undisturbed.other {current : Operation α} {now later : Memory}
    (h : Undisturbed key? p m current now) (hready : now.failing = []) (hlater : later.failing = [])
    (hdiffer : Differ key? key?') (hsame : SameBut key?' later now) :
    Undisturbed key? p m current later :=
  ⟨h.confined, (h.confined.agrees hlater hready fun k hk => hsame k (hdiffer k hk)).trans h.agrees⟩

theorem Undisturbed.of_ended {current : Operation α} {now : Memory}
    (h : Undisturbed key? p m current now) (hended : current.ended?.isSome = true) :
    current.ended? = some (run p m).outcome ∧
      ∀ k, key? = some k → now.object? k = (run p m).state.object? k := by
  obtain ⟨-, houtcome, hobject⟩ := h
  rw [← houtcome]
  cases current with
  | done | fail | unfinished => exact ⟨rfl, hobject⟩
  | log | ask => cases hended

/-- The service has what one operation leaves under its key, what the other one leaves under its own, and
the former objects elsewhere. -/
structure Combines (key? key?' : Option Key) (mp mq m m' : Memory) : Prop where
  first : ∀ k, key? = some k → m'.object? k = mp.object? k
  second : ∀ k, key?' = some k → m'.object? k = mq.object? k
  rest : ∀ k, key? ≠ some k → key?' ≠ some k → m'.object? k = m.object? k

theorem Combines.symm {mp mq m' : Memory} (h : Combines key? key?' mp mq m m') :
    Combines key?' key? mq mp m m' :=
  ⟨h.second, h.first, fun k hk hk' => h.rest k hk' hk⟩

theorem Combines.object?_eq {mp mq m' m'' : Memory} (h : Combines key? key?' mp mq m m')
    (h' : Combines key? key?' mp mq m m'') : m'.object? = m''.object? := by
  funext k
  by_cases hk : key? = some k
  · exact (h.first k hk).trans (h'.first k hk).symm
  · by_cases hk' : key?' = some k
    · exact (h.second k hk').trans (h'.second k hk').symm
    · exact (h.rest k hk hk').trans (h'.rest k hk hk').symm

/-- **The invariant of the turns**: both operations are on their way to the end that they have alone, and
nothing has changed elsewhere. -/
structure Parted (key? key?' : Option Key) (p : Operation α) (q : Operation β) (m : Memory)
    (s : Pair α β) : Prop where
  ready : s.memory.failing = []
  first : Undisturbed key? p m s.first s.memory
  second : Undisturbed key?' q m s.second s.memory
  rest : ∀ k, key? ≠ some k → key?' ≠ some k → s.memory.object? k = m.object? k

theorem Parted.next {s : Pair α β} (h : Parted key? key?' p q m s) (hdiffer : Differ key? key?')
    (turn : Turn) : Parted key? key?' p q m (s.next turn) := by
  cases turn with
  | first =>
    obtain ⟨-, hready, hsame⟩ := h.first.confined.step h.ready
    exact ⟨hready, h.first.step h.ready, h.second.other h.ready hready hdiffer.symm hsame,
      fun k hk hk' => (hsame k hk).trans (h.rest k hk hk')⟩
  | second =>
    obtain ⟨-, hready, hsame⟩ := h.second.confined.step h.ready
    exact ⟨hready, h.first.other h.ready hready hdiffer hsame, h.second.step h.ready,
      fun k hk hk' => (hsame k hk').trans (h.rest k hk hk')⟩

theorem Parted.after {s : Pair α β} (h : Parted key? key?' p q m s) (hdiffer : Differ key? key?')
    (turns : List Turn) : Parted key? key?' p q m (s.after turns) := by
  induction turns generalizing s with
  | nil => exact h
  | cons turn turns ih => exact ih (h.next hdiffer turn)

variable (hp : Confined key? p) (hq : Confined key?' q) (hdiffer : Differ key? key?')
  (hm : m.failing = [])
include hp hq hdiffer hm

/-- One operation after the other one. -/
theorem combines_run_run :
    Combines key? key?' (run p m).state (run q m).state m (run q (run p m).state).state := by
  obtain ⟨hready, hsame⟩ := hp.run hm
  obtain ⟨-, hsame'⟩ := hq.run hready
  have hagrees := hq.agrees hready hm fun k hk => hsame k (hdiffer.symm k hk)
  exact ⟨fun k hk => hsame' k (hdiffer k hk), hagrees.object,
    fun k hk hk' => (hsame' k hk').trans (hsame k hk)⟩

/-- **Confined operations on different objects do not interfere**: in whatever order their calls come,
both end as they do alone, and leave the objects that they leave one after the other. -/
theorem Confined.apart {turns : List Turn} (hended : (Pair.after ⟨p, q, m⟩ turns).Ended) :
    let s := Pair.after ⟨p, q, m⟩ turns
    s.first.ended? = some (Memory.run p m).outcome ∧ s.second.ended? = some (Memory.run q m).outcome ∧
      s.memory.object? = (Memory.run q (Memory.run p m).state).state.object? ∧
      s.memory.object? = (Memory.run p (Memory.run q m).state).state.object? := by
  have hstart : Parted key? key?' p q m ⟨p, q, m⟩ :=
    ⟨hm, ⟨hp, rfl, fun _ _ => rfl⟩, ⟨hq, rfl, fun _ _ => rfl⟩, fun _ _ _ => rfl⟩
  obtain ⟨-, hfirst, hsecond, hrest⟩ := hstart.after hdiffer turns
  obtain ⟨houtcome, hobject⟩ := hfirst.of_ended hended.1
  obtain ⟨houtcome', hobject'⟩ := hsecond.of_ended hended.2
  have hcombines : Combines key? key?' (Memory.run p m).state (Memory.run q m).state m
      (Pair.after ⟨p, q, m⟩ turns).memory := ⟨hobject, hobject', hrest⟩
  exact ⟨houtcome, houtcome', hcombines.object?_eq (combines_run_run hp hq hdiffer hm),
    hcombines.symm.object?_eq (combines_run_run hq hp hdiffer.symm hm)⟩

end Apart
end Memory
end AzureProvisioning
