/-
# Runs on the service in memory, under faults

A fault hits one call: a failure of its operation is planned right before it, so the call fails and
changes nothing. A run is under a schedule of faults (`runUnder`), one entry for each of its calls;
without faults it is the run of before (`runUnder_nil`), and a failure that is planned before the
run is such a fault (`exists_runUnder_of_failNext`).

What a run does to the objects is said by `Holds`: the record of the calls grows in every run, and
does not matter to any other call.

A list of changes of an account stops at the first call that is hit. Whatever the schedule, the
account is then one of those that the changes lead through (`runUnder_changes`).
-/

import AzureProvisioning.Proofs.Account.Convergence
import AzureProvisioning.Proofs.Values

namespace AzureProvisioning
namespace Memory

/-- The service with a call in its record. -/
def recorded (c : Call) (m : Memory) : Memory :=
  { m with calls := m.calls ++ [operationName c ++ " " ++ callDetail c] }

/-- The objects of the service; no failure is planned for a later call. -/
structure Holds (m : Memory) (accounts : Dictionary (String × String) (String × DatabaseAccount))
    (groups : Dictionary String ResourceGroup) : Prop where
  accounts : m.accounts = accounts
  groups : m.groups = groups
  ready : m.failing = []

/-- Answers the next call of a schedule: with `true` at its head the call is hit. -/
def answerUnder (c : Call) (s : List Bool × Memory) : c.Answer × (List Bool × Memory) :=
  let (reply, m) := answer c (if s.1.headD false then s.2.failNext (operationName c) else s.2)
  (reply, (s.1.tail, m))

/-- Runs an operation on the service under a schedule of faults. -/
def runUnder {α : Type} (hits : List Bool) (operation : Operation α) (m : Memory) :
    Ran Call (List Bool × Memory) α :=
  operation.run answerUnder (hits, m)

variable {m : Memory} {accounts : Dictionary (String × String) (String × DatabaseAccount)}
  {groups : Dictionary String ResourceGroup}

theorem Holds.recorded (h : m.Holds accounts groups) (c : Call) :
    (recorded c m).Holds accounts groups :=
  ⟨h.accounts, h.groups, h.ready⟩

/-- A call that is not hit by a planned failure. -/
theorem answer_of_unplanned {c : Call} (h : operationName c ∉ m.failing) :
    answer c m = perform c (recorded c m) := by
  simp only [answer, List.contains_iff_mem, h, if_false]
  rfl

/-- A call that is hit by a planned failure changes no object. -/
theorem answer_of_planned {c : Call} (h : operationName c ∈ m.failing) :
    answer c m = (.error (.fault (operationName c ++ " failed (injected)")),
      { recorded c m with failing := m.failing.erase (operationName c) }) := by
  simp only [answer, List.contains_iff_mem, h, if_true]
  rfl

theorem answer_of_ready (h : m.failing = []) (c : Call) :
    answer c m = perform c (recorded c m) :=
  answer_of_unplanned (by simp [h])

theorem answer_failNext (h : m.failing = []) (c : Call) :
    answer c (m.failNext (operationName c)) =
      (.error (.fault (operationName c ++ " failed (injected)")), recorded c m) := by
  rw [answer_of_planned (by simp [failNext])]
  simp [failNext, recorded, h]

/-- In a schedule without faults the next call is not hit. -/
theorem headD_eq_false {hits : List Bool} (h : ∀ hit ∈ hits, hit = false) :
    hits.headD false = false := by
  cases hits with
  | nil => rfl
  | cons hit hits => exact h hit List.mem_cons_self

theorem answerUnder_of_hit (h : m.failing = []) (c : Call) {hits : List Bool}
    (hhits : hits.headD false = true) :
    answerUnder c (hits, m) =
      (.error (.fault (operationName c ++ " failed (injected)")), (hits.tail, recorded c m)) := by
  simp only [answerUnder, hhits, if_true, answer_failNext h]

theorem answerUnder_of_ready (h : m.failing = []) (c : Call) {hits : List Bool}
    (hhits : hits.headD false = false) :
    answerUnder c (hits, m) =
      ((perform c (recorded c m)).1, (hits.tail, (perform c (recorded c m)).2)) := by
  simp only [answerUnder, hhits, Bool.false_eq_true, if_false, answer_of_ready h]

/-- An operation that fails before any call changes nothing. -/
theorem run_of_quiet_eq_fail {α : Type} {operation : Operation α} {e : Failure} {m : Memory}
    (h : operation.quiet = .fail e) :
    (run operation m).outcome = .failed e ∧ (run operation m).state = m := by
  rw [run, ← Program.run_outcome_quiet, ← Program.run_state_quiet, h]
  exact ⟨rfl, rfl⟩

/-- Without faults nothing is different. -/
theorem runUnder_nil {α : Type} (operation : Operation α) (m : Memory) :
    runUnder [] operation m =
      { run operation m with state := ([], (run operation m).state) } := by
  unfold runUnder run
  induction operation generalizing m with
  | done | fail | unfinished => rfl
  | log entry next ih => simp [ih]
  | ask c next ih => simp [answerUnder, ih]

/-- A call does not look at the planned failures, and plans none. -/
theorem perform_failing (c : Call) (m : Memory) (failing : List String) :
    perform c { m with failing } =
      ((perform c m).1, { (perform c m).2 with failing }) := by
  cases c with
  | getAccount | listAccounts | listAccountsIn | putAccount | getGroup | listGroups | putGroup => rfl
  | patchAccount group name update =>
    simp only [perform]
    cases m.accounts.get? (accountKey group name) with
    | none => rfl
    | some found => cases hk : keepsWriteRegion found.2 update <;> simp [hk]
  | changePriorities group name policies =>
    simp only [perform]
    cases m.accounts.get? (accountKey group name) with
    | none => rfl
    | some found => cases hn : namesEveryRegion found.2 (policies.map (·.location)) <;> simp [hn]
  | deleteAccount group name =>
    simp only [perform]
    cases m.accounts.get? (accountKey group name) <;> rfl
  | setGroupTags name tags =>
    simp only [perform, group?]
    cases m.groups.get? (groupKey name) <;> rfl
  | deleteGroup name =>
    simp only [perform, group?]
    cases m.groups.get? (groupKey name) <;> rfl

theorem failing_perform (c : Call) (m : Memory) : (perform c m).2.failing = m.failing :=
  congrArg (fun r => r.2.failing) (perform_failing c m m.failing)

theorem answer_failNext_of_ne (h : m.failing = []) {c : Call} {name : String}
    (hne : operationName c ≠ name) :
    answer c (m.failNext name) =
      ((perform c (recorded c m)).1, (perform c (recorded c m)).2.failNext name) := by
  have hanswer : answer c (m.failNext name) =
      perform c { recorded c m with failing := (recorded c m).failing ++ [name] } :=
    answer_of_unplanned (by simp [failNext, h, hne])
  rw [hanswer, perform_failing, failNext, failing_perform]

/-- **A failure that is planned before a run is a fault of the run**: it hits the first call of its
operation, if there is one. -/
theorem exists_runUnder_of_failNext {α : Type} (operation : Operation α) (hm : m.failing = [])
    (name : String) :
    ∃ hits,
      let planned := run operation (m.failNext name)
      let ran := runUnder hits operation m
      planned.outcome = ran.outcome ∧ planned.asked = ran.asked ∧
        planned.state.accounts = ran.state.2.accounts ∧ planned.state.groups = ran.state.2.groups := by
  induction operation generalizing m with
  | done | fail | unfinished => exact ⟨[], rfl, rfl, rfl, rfl⟩
  | log entry next ih => exact ih hm
  | ask c next ih =>
    by_cases hname : operationName c = name
    · refine ⟨[true], ?_⟩
      subst hname
      have hrest := runUnder_nil (next (.error (.fault (operationName c ++ " failed (injected)"))))
        (recorded c m)
      unfold run runUnder at *
      have hhit : [true].headD false = true := rfl
      simp only [Program.run_ask, answer_failNext hm, answerUnder_of_hit hm c hhit, List.tail_cons, hrest,
        and_self]
    · have hready : (perform c (recorded c m)).2.failing = [] := (failing_perform c _).trans hm
      obtain ⟨hits, hsame⟩ := ih (perform c (recorded c m)).1 hready
      refine ⟨false :: hits, ?_⟩
      unfold run runUnder at *
      have hmiss : (false :: hits).headD false = false := rfl
      simp only [Program.run_ask, answer_failNext_of_ne hm hname, answerUnder_of_ready hm c hmiss,
        List.tail_cons]
      exact ⟨hsame.1, congrArg (c :: ·) hsame.2.1, hsame.2.2⟩

/-- The run of one operation after another one: the faults go on where they have stopped. -/
theorem runUnder_bind {α β : Type} (hits : List Bool) (operation : Operation α)
    (f : α → Operation β) (m : Memory) :
    runUnder hits (operation.bind f) m =
      (runUnder hits operation m).andThen fun a s => runUnder s.1 (f a) s.2 :=
  Program.run_bind answerUnder operation f (hits, m)

/-- The run of one operation after another one. -/
theorem run_bind {α β : Type} (operation : Operation α) (f : α → Operation β) (m : Memory) :
    run (operation.bind f) m = (run operation m).andThen fun a => run (f a) :=
  Program.run_bind answer operation f m

theorem run_bind_done_iff {α β : Type} {operation : Operation α} {f : α → Operation β} {m : Memory}
    {b : β} :
    (run (operation.bind f) m).outcome = .done b ↔
      ∃ a, (run operation m).outcome = .done a ∧
        (run (f a) (run operation m).state).outcome = .done b := by
  rw [run_bind]
  exact Ran.andThen_done_iff

/-- An operation that makes one call. Hit by a fault it changes nothing and does not succeed; else
it ends with what it makes of the reply. -/
theorem runUnder_call {β : Type} {operation : Operation β} {c : Call} {f : c.Reply → β}
    {reply : c.Reply} {accounts' : Dictionary (String × String) (String × DatabaseAccount)}
    {groups' : Dictionary String ResourceGroup} (hits : List Bool) (hm : m.Holds accounts groups)
    (hquiet : operation.quiet = (Operation.request c).bind fun r => .done (f r))
    (hperform : ∀ m : Memory, m.Holds accounts groups →
      ∃ m', perform c m = (.ok reply, m') ∧ m'.Holds accounts' groups') :
    let ran := runUnder hits operation m
    (hits.headD false = true → ran.state.2.Holds accounts groups ∧ ∀ b, ran.outcome ≠ .done b) ∧
      (hits.headD false = false → ran.state.2.Holds accounts' groups' ∧
        ran.outcome = .done (f reply) ∧ ran.asked = [c]) := by
  have hrun := Program.run_quiet answerUnder operation (hits, m)
  rw [hquiet] at hrun
  cases hhit : hits.headD false with
  | true =>
    rw [Operation.run_request_error (answerUnder_of_hit hm.ready c hhit)] at hrun
    obtain ⟨houtcome, -, -, hstate⟩ := Ran.mk.inj hrun
    dsimp only [runUnder]
    rw [← houtcome, ← hstate]
    exact ⟨fun _ => ⟨hm.recorded c, by simp⟩, nofun⟩
  | false =>
    obtain ⟨m', hm', hholds⟩ := hperform _ (hm.recorded c)
    have hanswer := answerUnder_of_ready hm.ready c hhit
    rw [hm'] at hanswer
    rw [Operation.run_request_ok hanswer] at hrun
    obtain ⟨houtcome, -, hasked, hstate⟩ := Ran.mk.inj hrun
    dsimp only [runUnder]
    rw [← houtcome, ← hasked, ← hstate]
    exact ⟨nofun, fun _ => ⟨hholds, rfl, rfl⟩⟩

/-- An operation that makes one call, and one that only reads, leaves the objects as they are. -/
theorem runUnder_get {β : Type} {operation : Operation β} {c : Call} {f : c.Reply → β}
    {reply : c.Reply} (hits : List Bool) (hm : m.Holds accounts groups)
    (hquiet : operation.quiet = (Operation.request c).bind fun r => .done (f r))
    (hreply : ∀ m : Memory, m.Holds accounts groups → perform c m = (.ok reply, m)) :
    let ran := runUnder hits operation m
    ran.state.2.Holds accounts groups ∧
      (hits.headD false = false → ran.outcome = .done (f reply) ∧ ran.asked = [c]) := by
  obtain ⟨hhit, hdone⟩ := runUnder_call hits hm hquiet fun m hm => ⟨m, hreply m hm, hm⟩
  cases h : hits.headD false with
  | true => exact ⟨(hhit h).1, nofun⟩
  | false => exact ⟨(hdone h).1, fun _ => (hdone h).2⟩

section Changes

variable {group name given : String} {a b : DatabaseAccount} {P : DatabaseAccount → Prop}
  {cs : List Account.Change}

/-- The service makes a change of the account that it has under the key. -/
theorem perform_change {c : Account.Change}
    (hget : m.accounts.get? (accountKey group name) = some (given, a)) (h : c.after? a = some b) :
    ∃ reply, perform (c.call group name) m =
      (.ok reply, { m with accounts := m.accounts.insert (accountKey group name) (given, b) }) := by
  cases c with
  | patch update =>
    obtain ⟨hkeeps, hb⟩ := Option.ite_none_right_eq_some.1 h
    obtain rfl := Option.some.inj hb
    refine ⟨patched a update, ?_⟩
    simp [Account.Change.call, perform, hget, hkeeps]
  | order policies =>
    obtain ⟨hnames, hb⟩ := Option.ite_none_right_eq_some.1 h
    obtain rfl := Option.some.inj hb
    refine ⟨(), ?_⟩
    simp [Account.Change.call, perform, hget, hnames]

/-- What a change does to the store: nothing, or the change of the account under its key. -/
theorem perform_change_cases (c : Account.Change) (group name : String) (m : Memory) :
    (perform (c.call group name) m).2 = m ∨
      ∃ given a b, m.accounts.get? (accountKey group name) = some (given, a) ∧ c.after? a = some b ∧
        (perform (c.call group name) m).2 =
          { m with accounts := m.accounts.insert (accountKey group name) (given, b) } := by
  cases hget : m.accounts.get? (accountKey group name) with
  | none => cases c <;> exact .inl (by simp only [Account.Change.call, perform, hget])
  | some found =>
    obtain ⟨given, a⟩ := found
    cases hafter : c.after? a with
    | some b =>
      obtain ⟨reply, hreply⟩ := perform_change hget hafter
      exact .inr ⟨given, a, b, rfl, hafter, by rw [hreply]⟩
    | none =>
      cases c with
      | patch u =>
        have hrefused : keepsWriteRegion a u = false := by simpa [Account.Change.after?] using hafter
        exact .inl (by simp [Account.Change.call, perform, hget, hrefused])
      | order policies =>
        have hrefused : namesEveryRegion a (policies.map (·.location)) = false := by
          simpa [Account.Change.after?] using hafter
        exact .inl (by simp [Account.Change.call, perform, hget, hrefused])

/-- **A list of changes under faults** leaves an account that the changes lead through, and only
that object is different. The run succeeds when no call is hit, and only a run that has made every
change succeeds. -/
theorem runUnder_changes (hits : List Bool) (hm : m.Holds accounts groups)
    (hget : accounts.get? (accountKey group name) = some (given, a))
    (h : Account.Change.Steps P cs a b) :
    let ran := runUnder hits (Operation.inOrder (cs.map (Account.Change.call group name))) m
    (∃ d, P d ∧ (ran.outcome = .done () → d = b) ∧
      ran.state.2.Holds (accounts.insert (accountKey group name) (given, d)) groups) ∧
    ((∀ hit ∈ hits, hit = false) → ran.outcome = .done () ∧
      ran.asked = cs.map (Account.Change.call group name)) := by
  induction h generalizing hits m accounts with
  | @nil a ha =>
    refine ⟨⟨a, ha, fun _ => rfl, ?_⟩, fun _ => ⟨rfl, rfl⟩⟩
    rw [Dictionary.insert_of_get? hget]
    exact hm
  | @cons c cs a b d ha hc rest ih =>
    rw [List.map_cons, Operation.inOrder]
    cases hhit : hits.headD false with
    | true =>
      rw [runUnder, Operation.run_request_error (answerUnder_of_hit hm.ready _ hhit)]
      refine ⟨⟨a, ha, by simp, ?_⟩, fun hno => ?_⟩
      · rw [Dictionary.insert_of_get? hget]
        exact hm.recorded _
      · rw [headD_eq_false hno] at hhit
        cases hhit
    | false =>
      have hrecorded := hm.recorded (c.call group name)
      obtain ⟨reply, hreply⟩ := perform_change (hrecorded.accounts ▸ hget) hc
      have hanswer := answerUnder_of_ready hm.ready (c.call group name) hhit
      rw [hreply] at hanswer
      have hchanged : ({ recorded (c.call group name) m with
          accounts := (recorded (c.call group name) m).accounts.insert (accountKey group name)
            (given, b) } : Memory).Holds
          (accounts.insert (accountKey group name) (given, b)) groups :=
        ⟨by rw [hrecorded.accounts], hrecorded.groups, hrecorded.ready⟩
      rw [runUnder, Operation.run_request_ok hanswer]
      obtain ⟨⟨e, he, hlast, hholds⟩, hdone⟩ :=
        ih hits.tail hchanged (Dictionary.get?_insert_self _ _ _)
      rw [Dictionary.insert_insert] at hholds
      refine ⟨⟨e, he, hlast, hholds⟩, fun hno => ?_⟩
      obtain ⟨hout, hasked⟩ := hdone fun hit hmem => hno hit (List.mem_of_mem_tail hmem)
      exact ⟨hout, congrArg (c.call group name :: ·) hasked⟩

end Changes
end Memory
end AzureProvisioning
