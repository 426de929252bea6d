import LineScript.Invocation

/-!
**What a single step can do.**

`Invocation.step` looks at the cursor, then at the budget, then executes a statement and goes on as
the statement says.  This module states all that a step can do once, as a relation with one rule for
each way, so that what holds along a run is proved by a look at these rules and never by opening the
step again.  It also lifts single steps to runs, and to chains of runs in which every suspension is
resumed.

Main definitions:

* `LineScript.Invocation.ready?` — the statement that the next step executes;
* `LineScript.Invocation.Moves` — **all that a step can do**, one rule for each way;
* `LineScript.Invocation.Passes` — one run comes to another by steps that go on;
* `LineScript.Invocation.ResumedFrom` — the runs at which the host can resume a script.

Main results:

* `LineScript.Invocation.moves_step` — a step does one of the things listed;
* `LineScript.Session.exec_eq_delay` — only a sleep asks for a delay;
* `LineScript.Invocation.run_cases` — **a run goes on for a while and then stops**, or is out of
  steps.
-/

set_option autoImplicit false

namespace LineScript

namespace Session

/-- Only a sleep asks for a delay, of as many seconds as its operand says, and does nothing else than
read that operand. -/
theorem exec_eq_delay {s t : Session} {st : Statement} {n : Nat} (h : s.exec st = (.delay n, t)) :
    ∃ o, st = .sleep o ∧ (s.value o).number.toInt = n ∧ 0 < n ∧ t = s.touch o := by
  cases st with
  | jump label condition =>
      cases condition with
      | none => simp [exec, execJump] at h
      | some o =>
          simp only [exec, execJump, Prod.mk.injEq] at h
          split at h <;> simp at h
  | leap labels =>
      simp only [exec, execLeap] at h
      split at h
      · simp at h
      · split at h <;> simp at h
  | sleep o =>
      simp only [exec, execSleep, Prod.mk.injEq] at h
      obtain ⟨flow, rfl⟩ := h
      split at flow
      · rename_i hpos
        have hn : (s.value o).number.toInt.toNat = n := by simpa using flow
        exact ⟨o, rfl, by omega, by omega, rfl⟩
      · simp at flow
  | list st =>
      simp only [exec, Prod.mk.injEq] at h
      split at h <;> simp at h
  | _ => simp [exec] at h

/-- Only a positive delay is ever asked for. -/
theorem exec_delay_pos {s t : Session} {st : Statement} {n : Nat} (h : s.exec st = (.delay n, t)) :
    0 < n := by
  obtain ⟨_, _, _, pos, _⟩ := exec_eq_delay h
  exact pos

end Session

namespace Invocation

/-! ### Single steps -/

/-- The statement that the next step executes: the one at the cursor, unless the budget is spent. -/
def ready? (i : Invocation) : Option Statement :=
  if i.spentBudget?.isNone then i.script.statements[i.cursor]? else none

/-- The session in which the next step is taken. -/
abbrev session (i : Invocation) (h : Host) : Session := ⟨i.context, h⟩

/-- The host after a sleep was asked for: one that is too long is remarked on. -/
def hostAsleep (seconds : Nat) (s : Session) : Host :=
  if s.context.settings.maxSleep < Duration.ofSeconds seconds then
    (s.remark (.shortened seconds s.context.settings.maxSleep)).host
  else s.host

/-- **All that a step can do.** -/
inductive Moves (i : Invocation) (h : Host) : Progress → Host → Prop
  | pastLast (out : i.script.statements[i.cursor]? = none) :
      Moves i h (.stops (.completed .pastLast i.context.values))
        ((i.session h).remark (.pastLast i.cursor)).releaseLock.host
  | overBudget {st : Statement} {budget : Nat} (hat : i.script.statements[i.cursor]? = some st)
      (spent : i.spentBudget? = some budget) :
      Moves i h (.stops (.completed .overBudget i.context.values))
        ((i.session h).remark (.overBudget budget)).releaseLock.host
  | next {st : Statement} {s : Session} (ready : i.ready? = some st)
      (exec : (i.session h).exec st = (.next, s)) :
      Moves i h (.goesOn (i.continueAt (i.cursor + 1) s)) s.host
  | ended {st : Statement} {s : Session} (ready : i.ready? = some st)
      (exec : (i.session h).exec st = (.exit, s)) :
      Moves i h (.stops (.completed .ended s.flush.values)) s.flush.releaseLock.host
  | jumps {st : Statement} {s : Session} {label : String} {index : Nat} (ready : i.ready? = some st)
      (exec : (i.session h).exec st = (.jump label, s))
      (found : i.script.labels.get? label = some index) :
      Moves i h (.goesOn (i.continueAt index s)) s.host
  | missingLabel {st : Statement} {s : Session} {label : String} (ready : i.ready? = some st)
      (exec : (i.session h).exec st = (.jump label, s))
      (missing : i.script.labels.get? label = none) :
      Moves i h (.stops (.completed (.missingLabel label) s.values))
        (s.remark (.unknownLabel label)).releaseLock.host
  | sleeps {st : Statement} {s : Session} {n : Nat} (ready : i.ready? = some st)
      (exec : (i.session h).exec st = (.delay n, s)) (pos : 0 < n) :
      Moves i h
        (.stops (.suspended ⟨i.continueAt (i.cursor + 1) s,
          min (Duration.ofSeconds n) s.context.settings.maxSleep⟩))
        (hostAsleep n s)
  | breaks {st : Statement} {s : Session} (ready : i.ready? = some st)
      (exec : (i.session h).exec st = (.breakdown, s)) :
      Moves i h (.stops (.completed .brokeDown s.values)) s.releaseLock.host

theorem ready?_eq_some {i : Invocation} {st : Statement} :
    i.ready? = some st ↔ i.spentBudget? = none ∧ i.script.statements[i.cursor]? = some st := by
  unfold ready?
  cases i.spentBudget? <;> simp

/-- A step at which a statement is ready executes it. -/
theorem step_of_ready {i : Invocation} {st : Statement} (ready : i.ready? = some st) (h : Host) :
    i.step h = i.follow ((i.session h).exec st).2 ((i.session h).exec st).1 := by
  obtain ⟨budget, hat⟩ := ready?_eq_some.1 ready
  simp only [step, hat, budget]

theorem suspend_eq (i : Invocation) (n : Nat) (s : Session) :
    i.suspend n s =
      (.stops (.suspended ⟨i.continueAt (i.cursor + 1) s,
        min (Duration.ofSeconds n) s.context.settings.maxSleep⟩), hostAsleep n s) := by
  unfold suspend hostAsleep
  by_cases hlt : s.context.settings.maxSleep < Duration.ofSeconds n
  · have hle : ¬ Duration.ofSeconds n ≤ s.context.settings.maxSleep := Nat.not_le.2 hlt
    simp [hlt, hle, min]
  · have hle : Duration.ofSeconds n ≤ s.context.settings.maxSleep := Nat.not_lt.1 hlt
    simp [hlt, hle, min]

/-- **A step does one of the things listed.** -/
theorem moves_step (i : Invocation) (h : Host) : i.Moves h (i.step h).1 (i.step h).2 := by
  cases hat : i.script.statements[i.cursor]? with
  | none =>
      have hs : i.step h = finish .pastLast ((i.session h).remark (.pastLast i.cursor)) := by
        simp only [step, hat]
      rw [hs]
      exact Moves.pastLast hat
  | some st =>
      cases hb : i.spentBudget? with
      | some budget =>
          have hs : i.step h = finish .overBudget ((i.session h).remark (.overBudget budget)) := by
            simp only [step, hat, hb]
          rw [hs]
          exact Moves.overBudget hat hb
      | none =>
          have ready : i.ready? = some st := ready?_eq_some.2 ⟨hb, hat⟩
          rw [step_of_ready ready]
          rcases hexec : (i.session h).exec st with ⟨flow, s⟩
          cases flow with
          | next => exact Moves.next ready hexec
          | exit => exact Moves.ended ready hexec
          | jump label =>
              simp only [follow]
              cases hl : i.script.labels.get? label with
              | some index => exact Moves.jumps ready hexec hl
              | none => exact Moves.missingLabel ready hexec hl
          | delay n =>
              -- so the way on without a pause, which `follow` has for a delay of 0, is never taken
              have pos : 0 < n := Session.exec_delay_pos hexec
              obtain ⟨m, rfl⟩ : ∃ m, n = m + 1 := ⟨n - 1, by omega⟩
              simp only [follow, suspend_eq]
              exact Moves.sleeps ready hexec pos
          | breakdown => exact Moves.breaks ready hexec

theorem Moves.of_step {i : Invocation} {h h' : Host} {p : Progress} (hs : i.step h = (p, h')) :
    i.Moves h p h' := by
  have := i.moves_step h
  rwa [hs] at this

/-! ### Runs -/

/-- One run comes to another by so many steps, all of which go on. -/
inductive Passes : Nat → Invocation → Host → Invocation → Host → Prop
  | refl (i : Invocation) (h : Host) : Passes 0 i h i h
  | head {n : Nat} {i j k : Invocation} {h g f : Host} (step : i.step h = (.goesOn j, g))
      (rest : Passes n j g k f) : Passes (n + 1) i h k f

/-- **A run goes on for a while and then stops, or is out of steps.** -/
theorem run_cases {fuel : Nat} {i : Invocation} {h h' : Host} {o : Outcome}
    (hr : i.run fuel h = (o, h')) :
    (∃ j, o = .unfinished j ∧ Passes fuel i h j h') ∨
      ∃ n j g, n < fuel ∧ Passes n i h j g ∧ j.step g = (.stops o, h') := by
  induction fuel generalizing i h with
  | zero =>
      simp only [run, Prod.mk.injEq] at hr
      obtain ⟨rfl, rfl⟩ := hr
      exact Or.inl ⟨i, rfl, Passes.refl i h⟩
  | succ fuel ih =>
      simp only [run] at hr
      rcases hs : i.step h with ⟨p, g⟩
      rw [hs] at hr
      cases p with
      | goesOn j =>
          rcases ih hr with ⟨k, rfl, hp⟩ | ⟨n, k, f, hn, hp, hstop⟩
          · exact Or.inl ⟨k, rfl, Passes.head hs hp⟩
          · exact Or.inr ⟨n + 1, k, f, by omega, Passes.head hs hp, hstop⟩
      | stops o' =>
          simp only [Prod.mk.injEq] at hr
          obtain ⟨rfl, rfl⟩ := hr
          exact Or.inr ⟨0, i, h, by omega, Passes.refl i h, hs⟩

/-- A run that has come to an outcome has come to it by a last step. -/
theorem run_stopped {fuel : Nat} {i : Invocation} {h h' : Host} {o : Outcome}
    (hr : i.run fuel h = (o, h')) (ho : ∀ j, o ≠ .unfinished j) :
    ∃ n j g, n < fuel ∧ Passes n i h j g ∧ j.Moves g (.stops o) h' := by
  rcases run_cases hr with ⟨j, hj, _⟩ | ⟨n, j, g, hn, p, hstop⟩
  · exact absurd hj (ho j)
  · exact ⟨n, j, g, hn, p, Moves.of_step hstop⟩

/-- The script never changes. -/
theorem Moves.script_eq {i j : Invocation} {h h' : Host} (m : i.Moves h (.goesOn j) h') :
    j.script = i.script := by
  cases m <;> rfl

theorem Moves.script_eq_of_suspended {i : Invocation} {s : Suspension} {h h' : Host}
    (m : i.Moves h (.stops (.suspended s)) h') : s.invocation.script = i.script := by
  cases m
  rfl

theorem Passes.script_eq {n : Nat} {i j : Invocation} {h g : Host} (p : Passes n i h j g) :
    j.script = i.script := by
  induction p with
  | refl => rfl
  | head step _ ih => rw [ih, (Moves.of_step step).script_eq]

theorem run_script_of_suspended {fuel : Nat} {i : Invocation} {s : Suspension} {h g : Host}
    (hr : i.run fuel h = (.suspended s, g)) : s.invocation.script = i.script := by
  obtain ⟨_, _, _, _, passes, m⟩ := run_stopped hr (by simp)
  exact m.script_eq_of_suspended.trans passes.script_eq

/-- The runs at which the host can resume a script that it started: the start itself, and what is
left of a run from there on after a sleep.  Whatever the host did to the context meanwhile, and
whatever state the host is in when the run is taken up, is left open. -/
inductive ResumedFrom (start : Invocation) : Invocation → Prop
  | start : ResumedFrom start start
  | resume {fuel : Nat} {i : Invocation} {s : Suspension} {h h' : Host} (before : ResumedFrom start i)
      (run : i.run fuel h = (.suspended s, h')) (context : Context) :
      ResumedFrom start { s.invocation with context }

end Invocation

end LineScript
