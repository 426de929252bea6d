import LineScript.Proofs.Alike
import LineScript.Proofs.Steps

/-!
**A sleep changes nothing but the time.**

A run that comes to a sleep stops there and is taken up again later, as often as the script sleeps.
This module compares such a chain of runs, with nobody else at work in between, to one loop that is
never interrupted and in which a delay merely moves the cursor on.  The loop keeps the indices of the
statements it has executed, and takes their number for the budget; it knows nothing of steps that are
counted, of suspensions or of warnings that a sleep was shortened.  Every chain is matched by the
loop and every stage of the loop by a chain, with the same statements executed in the same order.

Main definitions:

* `LineScript.Loop` — **the uninterrupted loop**;
* `LineScript.Invocation.trace`, `LineScript.Invocation.Chain` — the statements a run executes, and
  runs that are resumed after every sleep;
* `LineScript.Loop.Meets` — a stage of the loop and the outcome of a chain tell the same;
* `LineScript.Suspension.FromSleep` — where a suspension comes from.

Main results:

* `LineScript.Loop.At.step` — a step of the loop is a step of the run, asleep or not;
* `LineScript.Loop.At.chain`, `LineScript.Loop.At.loop` — chains are matched by the loop, and the loop
  by chains;
* `LineScript.Invocation.suspension_transparent` — **a script that is suspended and resumed does the
  same as one that is not**.
-/

set_option autoImplicit false

namespace LineScript

/-! ### The uninterrupted loop -/

/-- The state of the loop: a session, the index of the next statement, and the indices of the
statements executed so far. -/
structure Loop where
  session : Session
  cursor : Nat := 0
  executed : List Nat := []

namespace Loop

/-- The budget that is used up by the statements executed so far, if there is one. -/
def spentBudget? (l : Loop) : Option Nat :=
  l.session.context.settings.stepBudget.filter (· ≤ l.executed.length)

/-- Goes on as a statement said, or stops.  A delay moves the cursor on and that is all. -/
def follow (script : Script) (l : Loop) (s : Session) : Flow → Option Termination × Loop
  | .next => (none, { l with session := s, cursor := l.cursor + 1 })
  | .delay _ => (none, { l with session := s, cursor := l.cursor + 1 })
  | .exit => (some .ended, { l with session := s.flush.releaseLock })
  | .jump label =>
    match script.labels.get? label with
    | some index => (none, { l with session := s, cursor := index })
    | none =>
      (some (.missingLabel label),
        { l with session := (s.remark (.unknownLabel label)).releaseLock })
  | .breakdown => (some .brokeDown, { l with session := s.releaseLock })

/-- Executes one statement. -/
def step (script : Script) (l : Loop) : Option Termination × Loop :=
  match script.statements[l.cursor]? with
  | none =>
    (some .pastLast, { l with session := (l.session.remark (.pastLast l.cursor)).releaseLock })
  | some statement =>
    match l.spentBudget? with
    | some budget =>
      (some .overBudget, { l with session := (l.session.remark (.overBudget budget)).releaseLock })
    | none =>
      let (flow, s) := l.session.exec statement
      follow script { l with executed := l.executed ++ [l.cursor] } s flow

/-- Executes statements until the loop stops, or as many as it is given. -/
def run (script : Script) : Nat → Loop → Option Termination × Loop
  | 0, l => (none, l)
  | fuel + 1, l =>
    match l.step script with
    | (none, l) => run script fuel l
    | (some t, l) => (some t, l)

theorem run_one (script : Script) (l : Loop) : run script 1 l = l.step script := by
  simp only [run]
  rcases l.step script with ⟨_ | t, l'⟩ <;> rfl

theorem run_add {script : Script} {n : Nat} {l l' : Loop} (h : run script n l = (none, l'))
    (m : Nat) : run script (n + m) l = run script m l' := by
  induction n generalizing l with
  | zero =>
      simp only [run, Prod.mk.injEq, true_and] at h
      rw [h, Nat.zero_add]
  | succ n ih =>
      rw [Nat.add_right_comm]
      simp only [run] at h ⊢
      rcases hs : l.step script with ⟨_ | t, k⟩
      · rw [hs] at h
        exact ih h
      · simp [hs] at h

end Loop

/-! ### Warnings aside -/

/-- The second sequence is the first one with warnings in between that a sleep was shortened. -/
inductive Warned : List Emission → List Emission → Prop
  | refl (es : List Emission) : Warned es es
  | emit {es fs : List Emission} (before : Warned es fs) (e : Emission) :
      Warned (es ++ [e]) (fs ++ [e])
  | shortened {es fs : List Emission} (before : Warned es fs) (script : String) (seconds : Nat)
      (longest : Duration) :
      Warned es (fs ++ [.broadcast ⟨.warning, script, (Remark.shortened seconds longest).message⟩])

/-- The hosts are in one state, but that the second has shown such warnings as well. -/
structure Host.Warned (h g : Host) : Prop where
  rest : g = { h with emitted := g.emitted }
  emitted : LineScript.Warned h.emitted g.emitted

/-- Sessions that differ only in such warnings. -/
def Likeness.warned : Likeness where
  values := Eq
  emitted := Warned
  read_eq h _ := by rw [h]
  members_eq h _ := by rw [h]
  set h _ _ := by rw [h]
  touch h _ := by rw [h]
  drop h _ := by rw [h]
  emit h e := h.emit e

theorem Session.alike_warned_iff {s t : Session} :
    s.Alike .warned t ↔ t.context = s.context ∧ s.host.Warned t.host := by
  constructor
  · intro a
    obtain ⟨values, emitted, rfl, he, rfl⟩ := a.eq_revised
    exact ⟨rfl, rfl, he⟩
  · rintro ⟨hc, rest, emitted⟩
    obtain ⟨context, host⟩ := t
    obtain rfl : context = s.context := hc
    refine ⟨?_, rfl, emitted⟩
    simp only at rest
    rw [rest]
    rfl

/-! ### Chains of runs -/

namespace Invocation

/-- The index of the statement that the next step executes, if it executes one. -/
def executes (i : Invocation) : List Nat := if i.ready?.isSome then [i.cursor] else []

/-- The indices of the statements that a run executes, in order. -/
def trace : Nat → Invocation → Host → List Nat
  | 0, _, _ => []
  | fuel + 1, i, h =>
    i.executes ++
      match i.step h with
      | (.goesOn j, g) => trace fuel j g
      | (.stops _, _) => []

/-- **A run, and what comes after it**: whenever it is suspended it may be resumed, on the host as it
was left.  With the outcome and the state of the host go the statements executed since the start. -/
inductive Chain (i : Invocation) (h : Host) : List Nat → Outcome → Host → Prop
  | run (fuel : Nat) : Chain i h (i.trace fuel h) (i.run fuel h).1 (i.run fuel h).2
  | resume {tr : List Nat} {s : Suspension} {g : Host} (before : Chain i h tr (.suspended s) g)
      (fuel : Nat) :
      Chain i h (tr ++ s.invocation.trace fuel g) (s.resume fuel g).1 (s.resume fuel g).2

theorem executes_of_ready {i : Invocation} {st : Statement} (ready : i.ready? = some st) :
    i.executes = [i.cursor] := by
  simp [executes, ready]

theorem executes_of_not_ready {i : Invocation} (ready : i.ready? = none) : i.executes = [] := by
  simp [executes, ready]

/-- A step that goes on may be put in front of a chain. -/
theorem Chain.head_goesOn {i j : Invocation} {h g f : Host} {tr : List Nat} {o : Outcome}
    (step : i.step h = (.goesOn j, g)) (c : Chain j g tr o f) : Chain i h (i.executes ++ tr) o f := by
  induction c with
  | run fuel =>
      have := Chain.run (i := i) (h := h) (fuel + 1)
      simpa only [trace, Invocation.run, step] using this
  | resume _ fuel ih =>
      rw [← List.append_assoc]
      exact ih.resume fuel

/-- So may a step that is suspended, if the chain resumes it. -/
theorem Chain.head_suspended {i : Invocation} {s : Suspension} {h g f : Host} {tr : List Nat}
    {o : Outcome} (step : i.step h = (.stops (.suspended s), g)) (c : Chain s.invocation g tr o f) :
    Chain i h (i.executes ++ tr) o f := by
  -- a run of a single step comes to the sleep
  have asleep : Chain i h i.executes (.suspended s) g := by
    have := Chain.run (i := i) (h := h) 1
    simpa only [trace, Invocation.run, step, List.append_nil] using this
  induction c with
  | run fuel => exact asleep.resume fuel
  | resume _ fuel ih =>
      rw [← List.append_assoc]
      exact ih.resume fuel

end Invocation

/-! ### The loop and the run -/

namespace Loop

/-- The loop has come as far as the run: it is at the same statement in the same state, and the run
has counted the statements that the loop has executed. -/
structure At (script : Script) (l : Loop) (i : Invocation) (h : Host) : Prop where
  script : i.script = script
  cursor : i.cursor = l.cursor
  steps : i.steps = l.executed.length
  context : i.context = l.session.context
  host : l.session.host.Warned h

/-- **The loop and the outcome of a run tell the same**: the loop has stopped for the same reason with
the same values, or is where the run was suspended or left. -/
inductive Meets (script : Script) (h : Host) : Option Termination × Loop → Outcome → Prop
  | completed {l : Loop} (t : Termination) (host : l.session.host.Warned h) :
      Meets script h (some t, l) (.completed t l.session.values)
  | suspended {l : Loop} {s : Suspension} (hat : l.At script s.invocation h) :
      Meets script h (none, l) (.suspended s)
  | unfinished {l : Loop} {i : Invocation} (hat : l.At script i h) :
      Meets script h (none, l) (.unfinished i)

end Loop

/-- The outcome of a run that stops after a step. -/
def Progress.outcome : Progress → Outcome
  | goesOn i => .unfinished i
  | stops o => o

theorem Session.releaseLock_values (s : Session) : s.releaseLock.values = s.values := by
  unfold releaseLock
  split
  · rfl
  · split
    · rfl
    · split <;> rfl

namespace Loop

variable {script : Script} {l : Loop} {i : Invocation} {h : Host}

theorem At.alike (a : l.At script i h) : l.session.Alike .warned (i.session h) :=
  Session.alike_warned_iff.2 ⟨a.context, a.host⟩

/-- A statement that was executed takes the loop and the run to the same place. -/
theorem At.continueAt (a : l.At script i h) {s t : Session} (b : s.Alike .warned t) (cursor : Nat) :
    At script ⟨s, cursor, l.executed ++ [l.cursor]⟩ (i.continueAt cursor t) t.host := by
  obtain ⟨context, host⟩ := Session.alike_warned_iff.1 b
  refine ⟨a.script, rfl, ?_, context, host⟩
  simp [Invocation.continueAt, a.steps]

/-- A run that completes meets the loop that stops for the same reason. -/
theorem meets_finish {cursor : Nat} {executed : List Nat} (τ : Termination) {s t : Session}
    (b : s.Alike .warned t) :
    Meets script t.releaseLock.host (some τ, ⟨s.releaseLock, cursor, executed⟩)
      (.completed τ t.values) := by
  have host := (Session.alike_warned_iff.1 b.releaseLock).2
  have values : t.values = s.releaseLock.values := by
    rw [Session.releaseLock_values]
    exact (b.values : s.values = t.values).symm
  rw [values]
  exact Meets.completed τ host

/-- A sleep that is too long is remarked on, and no more than that. -/
theorem warned_hostAsleep {s t : Session} (b : s.Alike .warned t) (n : Nat) :
    s.host.Warned (Invocation.hostAsleep n t) := by
  obtain ⟨values, emitted, rfl, he, rfl⟩ := b.eq_revised
  unfold Invocation.hostAsleep
  split
  · exact ⟨rfl, he.shortened _ _ _⟩
  · exact ⟨rfl, he⟩

/-- What the loop executes when a statement is ready, seen from the run. -/
theorem At.step_of_ready (a : l.At script i h) {st : Statement} {flow : Flow} {t : Session}
    (ready : i.ready? = some st) (exec : (i.session h).exec st = (flow, t)) :
    ∃ s, s.Alike .warned t ∧ l.step script =
      follow script { l with executed := l.executed ++ [l.cursor] } s flow := by
  obtain ⟨budget, hat⟩ := Invocation.ready?_eq_some.1 ready
  obtain ⟨r, s, t', hs, ht, b⟩ := (a.alike.exec st).cases
  obtain ⟨rfl, rfl⟩ : flow = r ∧ t = t' := by simpa using exec.symm.trans ht
  have here : script.statements[l.cursor]? = some st := by rw [← a.script, ← a.cursor, hat]
  have spent : l.spentBudget? = none := by
    rw [spentBudget?, ← a.context, ← a.steps]
    exact budget
  exact ⟨s, b, by simp only [step, here, spent, hs]⟩

/-- **A step of the loop is a step of the run, asleep or not.** -/
theorem At.step (a : l.At script i h) :
    Meets script (i.step h).2 (l.step script) (i.step h).1.outcome ∧
      (l.step script).2.executed = l.executed ++ i.executes := by
  have move := i.moves_step h
  generalize (i.step h).1 = p at move ⊢
  generalize (i.step h).2 = g at move ⊢
  cases move with
  | pastLast out =>
      have here : script.statements[l.cursor]? = none := by rw [← a.script, ← a.cursor, out]
      have idle : i.ready? = none := by simp [Invocation.ready?, out]
      rw [Invocation.executes_of_not_ready idle, List.append_nil, a.cursor]
      simp only [Loop.step, here]
      exact ⟨meets_finish .pastLast (a.alike.remark _), trivial⟩
  | @overBudget st budget hat spent =>
      have here : script.statements[l.cursor]? = some st := by rw [← a.script, ← a.cursor, hat]
      have exceeded : l.spentBudget? = some budget := by
        rw [spentBudget?, ← a.context, ← a.steps]
        exact spent
      have idle : i.ready? = none := by simp [Invocation.ready?, spent]
      rw [Invocation.executes_of_not_ready idle, List.append_nil]
      simp only [Loop.step, here, exceeded]
      exact ⟨meets_finish .overBudget (a.alike.remark _), trivial⟩
  | next ready exec =>
      obtain ⟨s, b, step⟩ := a.step_of_ready ready exec
      rw [Invocation.executes_of_ready ready, step, a.cursor]
      exact ⟨Meets.unfinished (a.continueAt b _), rfl⟩
  | ended ready exec =>
      obtain ⟨s, b, step⟩ := a.step_of_ready ready exec
      rw [Invocation.executes_of_ready ready, step, a.cursor]
      exact ⟨meets_finish .ended b.flush, rfl⟩
  | jumps ready exec found =>
      obtain ⟨s, b, step⟩ := a.step_of_ready ready exec
      rw [a.script] at found
      rw [Invocation.executes_of_ready ready, step, a.cursor]
      simp only [follow, found]
      exact ⟨Meets.unfinished (a.continueAt b _), trivial⟩
  | missingLabel ready exec missing =>
      obtain ⟨s, b, step⟩ := a.step_of_ready ready exec
      rw [a.script] at missing
      rw [Invocation.executes_of_ready ready, step, a.cursor]
      simp only [follow, missing]
      exact ⟨meets_finish _ (b.remark _), trivial⟩
  | sleeps ready exec pos =>
      obtain ⟨s, b, step⟩ := a.step_of_ready ready exec
      rw [Invocation.executes_of_ready ready, step, a.cursor]
      exact ⟨Meets.suspended { a.continueAt b _ with host := warned_hostAsleep b _ }, rfl⟩
  | breaks ready exec =>
      obtain ⟨s, b, step⟩ := a.step_of_ready ready exec
      rw [Invocation.executes_of_ready ready, step, a.cursor]
      exact ⟨meets_finish .brokeDown b, rfl⟩

/-- A run is matched by the loop, up to where the run stops. -/
theorem At.run (a : l.At script i h) (fuel : Nat) :
    ∃ n, (run script n l).2.executed = l.executed ++ i.trace fuel h ∧
      Meets script (i.run fuel h).2 (run script n l) (i.run fuel h).1 := by
  induction fuel generalizing l i h with
  | zero => exact ⟨0, (List.append_nil _).symm, Meets.unfinished a⟩
  | succ fuel ih =>
      obtain ⟨meets, executed⟩ := a.step
      simp only [Invocation.run, Invocation.trace]
      rcases hi : i.step h with ⟨p, g⟩
      rw [hi] at meets
      cases p with
      | stops o =>
          -- asleep or complete, the run is one statement further, and so is the loop
          refine ⟨1, ?_, ?_⟩
          · rw [run_one, executed, List.append_nil]
          · rw [run_one]
            exact meets
      | goesOn j =>
          rcases hl : l.step script with ⟨r, k⟩
          rw [hl] at meets executed
          cases meets with
          | unfinished hat =>
              obtain ⟨n, trace, meets⟩ := ih hat
              refine ⟨n + 1, ?_, ?_⟩
              · simp only [Loop.run, hl]
                rw [trace, executed, List.append_assoc]
              · simp only [Loop.run, hl]
                exact meets

/-- **Every chain is matched by the loop.** -/
theorem At.chain (a : l.At script i h) {tr : List Nat} {o : Outcome} {g : Host}
    (c : Invocation.Chain i h tr o g) :
    ∃ n, (Loop.run script n l).2.executed = l.executed ++ tr ∧
      Meets script g (Loop.run script n l) o := by
  induction c with
  | run fuel => exact a.run fuel
  | resume _ fuel ih =>
      obtain ⟨n, executed, meets⟩ := ih
      rcases hl : Loop.run script n l with ⟨r, k⟩
      rw [hl] at executed meets
      cases meets with
      | suspended hat =>
          -- the loop has noticed nothing and goes on from where the run is resumed
          obtain ⟨m, executed', meets'⟩ := hat.run fuel
          refine ⟨n + m, ?_, ?_⟩
          · rw [run_add hl, executed', executed, List.append_assoc]
          · rw [run_add hl]
            exact meets'

/-- **Every stage of the loop is matched by a chain.** -/
theorem At.loop (a : l.At script i h) (n : Nat) :
    ∃ tr o g, Invocation.Chain i h tr o g ∧
      (Loop.run script n l).2.executed = l.executed ++ tr ∧ Meets script g (Loop.run script n l) o := by
  induction n generalizing l i h with
  | zero =>
      exact ⟨[], .unfinished i, h, Invocation.Chain.run 0, (List.append_nil _).symm,
        Meets.unfinished a⟩
  | succ n ih =>
      obtain ⟨meets, executed⟩ := a.step
      rcases hi : i.step h with ⟨p, g⟩
      rcases hl : l.step script with ⟨r, k⟩
      rw [hi, hl] at meets
      rw [hl] at executed
      simp only [Loop.run, hl]
      cases p with
      | goesOn j =>
          cases meets with
          | unfinished hat =>
              obtain ⟨tr, o, f, c, executed', meets'⟩ := ih hat
              refine ⟨i.executes ++ tr, o, f, c.head_goesOn hi, ?_, meets'⟩
              rw [executed', executed, List.append_assoc]
      | stops o =>
          cases meets with
          | completed t host =>
              have c := Invocation.Chain.run (i := i) (h := h) 1
              simp only [Invocation.trace, Invocation.run, hi, List.append_nil] at c
              exact ⟨i.executes, _, g, c, executed, Meets.completed t host⟩
          | suspended hat =>
              obtain ⟨tr, o, f, c, executed', meets'⟩ := ih hat
              refine ⟨i.executes ++ tr, o, f, c.head_suspended hi, ?_, meets'⟩
              rw [executed', executed, List.append_assoc]
          | unfinished hat =>
              -- no step stops without an outcome
              have move := Invocation.Moves.of_step hi
              cases move

end Loop

/-! ### Where suspensions come from -/

/-- The suspension comes from the sleep at an index: the last statement executed, whose operand has a
positive number.  It is for so many seconds, or as long as the settings allow, the run goes on right
behind the sleep, and the steps it has counted are all the statements executed. -/
structure Suspension.FromSleep (script : Script) (executed : List Nat) (s : Suspension) (index : Nat)
    (o : Operand) : Prop where
  last : executed.getLast? = some index
  sleep : script.statements[index]? = some (.sleep o)
  pos : 0 < (o.value s.invocation.context.values).number.toInt
  cursor : s.invocation.cursor = index + 1
  delay : s.delay = min (Duration.ofSeconds (o.value s.invocation.context.values).number.toInt.toNat)
    s.invocation.context.settings.maxSleep
  steps : s.invocation.steps = executed.length

/-- An operand that was read has the value it had. -/
theorem Operand.value_touch (o : Operand) (values : ValueMap) :
    o.value (o.touch values) = o.value values := by
  cases o with
  | constant v => rfl
  | named name =>
      simp only [value, touch]
      split
      · rfl
      · exact ValueMap.read_touch values name.key name.key

namespace Invocation

/-- A run that is suspended was so by its last step, which executed a statement. -/
theorem run_suspended {fuel : Nat} {i : Invocation} {h g : Host} {s : Suspension}
    (hr : i.run fuel h = (.suspended s, g)) :
    ∃ (j : Invocation) (f : Host), j.script = i.script ∧ j.Moves f (.stops (.suspended s)) g ∧
      (i.trace fuel h).getLast? = some j.cursor := by
  induction fuel generalizing i h with
  | zero => simp [run] at hr
  | succ fuel ih =>
      simp only [run] at hr
      simp only [trace]
      rcases hs : i.step h with ⟨p, k⟩
      rw [hs] at hr
      cases p with
      | goesOn j =>
          obtain ⟨j', f, script, move, last⟩ := ih hr
          refine ⟨j', f, script.trans (Moves.of_step hs).script_eq, move, ?_⟩
          rw [List.getLast?_append, last, Option.some_or]
      | stops o =>
          obtain ⟨rfl, rfl⟩ : o = .suspended s ∧ k = g := by simpa using hr
          have move := Moves.of_step hs
          refine ⟨i, h, rfl, move, ?_⟩
          cases move with
          | sleeps ready _ _ => simp [executes_of_ready ready]

/-- A chain that is suspended was so by its last step, which executed a statement. -/
theorem Chain.suspended {i : Invocation} {h g : Host} {tr : List Nat} {o : Outcome} {s : Suspension}
    (c : Chain i h tr o g) (ho : o = .suspended s) :
    ∃ (j : Invocation) (f : Host), j.script = i.script ∧ j.Moves f (.stops (.suspended s)) g ∧
      tr.getLast? = some j.cursor := by
  induction c generalizing s with
  | run fuel => exact run_suspended (Prod.ext ho rfl)
  | @resume tr s' g before fuel ih =>
      obtain ⟨j', f', script', move', _⟩ := ih rfl
      obtain ⟨j, f, script, move, last⟩ := run_suspended (i := s'.invocation) (Prod.ext ho rfl)
      refine ⟨j, f, ?_, move, ?_⟩
      · rw [script, move'.script_eq_of_suspended, script']
      · rw [List.getLast?_append, last, Option.some_or]

/-- A step that is suspended executed a sleep, and behind it the run goes on. -/
theorem Moves.exists_sleep {i : Invocation} {h g : Host} {s : Suspension}
    (move : i.Moves h (.stops (.suspended s)) g) :
    ∃ o, i.script.statements[i.cursor]? = some (.sleep o) ∧
      0 < (o.value s.invocation.context.values).number.toInt ∧
      s.invocation.cursor = i.cursor + 1 ∧
      s.delay = min (Duration.ofSeconds (o.value s.invocation.context.values).number.toInt.toNat)
        s.invocation.context.settings.maxSleep := by
  cases move with
  | @sleeps st t n ready exec pos =>
      obtain ⟨o, rfl, number, _, rfl⟩ := Session.exec_eq_delay exec
      have value : o.value ((i.session h).touch o).context.values = (i.session h).value o :=
        o.value_touch i.context.values
      refine ⟨o, (ready?_eq_some.1 ready).2, ?_, rfl, ?_⟩
      · simp only [continueAt, value, number]
        omega
      · simp only [continueAt, value, number, Int.toNat_natCast]

/-- A sleep suspends a run if its operand has a positive number, and only then. -/
theorem step_sleep {i : Invocation} {o : Operand} (ready : i.ready? = some (.sleep o)) (h : Host) :
    (∃ s g, i.step h = (.stops (.suspended s), g)) ↔
      0 < (o.value i.context.values).number.toInt := by
  have exec : (i.session h).exec (.sleep o) = (i.session h).execSleep o := rfl
  have value : o.value i.context.values = (i.session h).value o := rfl
  rw [step_of_ready ready, exec, value]
  simp only [Session.execSleep]
  by_cases pos : ((i.session h).value o).number.toInt > 0
  · obtain ⟨n, hn⟩ : ∃ n, ((i.session h).value o).number.toInt.toNat = n + 1 :=
      ⟨((i.session h).value o).number.toInt.toNat - 1, by omega⟩
    rw [if_pos pos, hn]
    simp only [follow, suspend_eq]
    exact ⟨fun _ => pos, fun _ => ⟨_, _, rfl⟩⟩
  · rw [if_neg pos]
    refine ⟨?_, fun h => absurd h pos⟩
    rintro ⟨s, g, hs⟩
    simp [follow] at hs

/-- The loop at its start is where the run is at its start. -/
theorem at_start (script : Script) (context : Context) (h : Host) :
    Loop.At script { session := ⟨context, h⟩ } { script, context } h :=
  ⟨rfl, rfl, rfl, rfl, rfl, Warned.refl _⟩

/-- **A script that is suspended and resumed does the same as one that is not.**  Every chain of runs is
matched by the uninterrupted loop and the other way round: same statements, reason and values, and the
same host but for warnings of shortened sleeps.  Just a sleep whose operand has a positive number
suspends. -/
theorem suspension_transparent (script : Script) (context : Context) (h : Host) :
    (∀ {tr : List Nat} {o : Outcome} {g : Host}, Chain { script, context } h tr o g →
      ∃ n, (Loop.run script n { session := ⟨context, h⟩ }).2.executed = tr ∧
        Loop.Meets script g (Loop.run script n { session := ⟨context, h⟩ }) o) ∧
    (∀ n, ∃ o g, Chain { script, context } h
        (Loop.run script n { session := ⟨context, h⟩ }).2.executed o g ∧
      Loop.Meets script g (Loop.run script n { session := ⟨context, h⟩ }) o) ∧
    (∀ {tr : List Nat} {s : Suspension} {g : Host}, Chain { script, context } h tr (.suspended s) g →
      ∃ index o, s.FromSleep script tr index o) ∧
    ∀ {i : Invocation} {o : Operand}, i.ready? = some (.sleep o) → ∀ f : Host,
      (∃ s g, i.step f = (.stops (.suspended s), g)) ↔
        0 < (o.value i.context.values).number.toInt := by
  have start := at_start script context h
  refine ⟨fun c => start.chain c, fun n => ?_, fun {tr s g} c => ?_, fun ready f => step_sleep ready f⟩
  · obtain ⟨tr, o, g, c, executed, meets⟩ := start.loop n
    have same : (Loop.run script n { session := ⟨context, h⟩ }).2.executed = tr := executed
    rw [same]
    exact ⟨o, g, c, meets⟩
  · obtain ⟨i, f, same, move, last⟩ := c.suspended rfl
    obtain ⟨o, sleep, pos, cursor, delay⟩ := move.exists_sleep
    rw [same] at sleep
    obtain ⟨n, executed, meets⟩ := start.chain c
    rcases hl : Loop.run script n { session := ⟨context, h⟩ } with ⟨r, l⟩
    rw [hl] at executed meets
    cases meets with
    | suspended hat =>
        have steps : s.invocation.steps = tr.length := by
          rw [hat.steps, executed, List.nil_append]
        exact ⟨i.cursor, o, last, sleep, pos, cursor, delay, steps⟩

/-- A script that sleeps once, and goes on. -/
def napping : Script :=
  { statements := #[.sleep (.constant (.ofNumber 2)), .write "awake", .flush, .finish] }

/-- The context it starts in. -/
def nap : Context := Context.ofInputs "nap" {}

theorem suspension_transparent_nap :
    ∃ (s : Suspension) (g : Host), ({ script := napping, context := nap } : Invocation).run 9 {} =
        (.suspended s, g) ∧
      (∃ index o, s.FromSleep napping [0] index o) ∧
      ∃ n, (Loop.run napping n { session := ⟨nap, {}⟩ }).2.executed = [0, 1, 2, 3] ∧
        Loop.Meets napping (s.resume 9 g).2 (Loop.run napping n { session := ⟨nap, {}⟩ })
          (s.resume 9 g).1 := by
  have first := Chain.run (i := { script := napping, context := nap }) (h := {}) 9
  obtain ⟨chains, _, asleep, _⟩ := suspension_transparent napping nap {}
  refine ⟨_, _, rfl, asleep first, chains (first.resume 9)⟩

end Invocation

end LineScript
