import LineScript.Proofs.SettingsFrame
import LineScript.Proofs.Transparent
import LineScript.Proofs.Unobserved

/-!
**A budget bounds a run and does nothing else to it.**

The settings may give a run a budget: so many statements, over all its sleeps.  The budget is looked
at before every statement, after it is known that there is one.  This module compares a run under a
budget with the same run under none, with the host doing the same in every sleep.  Up to the last
statement that the budget allows the two cannot be told apart, since no statement looks at the
settings; so either the free run completes by then, and the other one does the same at every stage, or
the run under the budget is stopped right there.

Main definitions:

* `LineScript.Invocation.withBudget` — the run under another budget;
* `LineScript.Invocation.itinerary` — the statements executed by a run that is resumed after every
  sleep;
* `LineScript.Invocation.after` — where such a run is after so many statements.

Main results:

* `LineScript.Invocation.step_withBudget` — a step with some of the budget left is the step of the free
  run;
* `LineScript.Invocation.itinerary_budget`, `LineScript.Invocation.stages_completed` — no more
  statements are executed than the budget allows, and the run comes to completion;
* `LineScript.Invocation.stages_within`, `LineScript.Invocation.stages_beyond` — **the free run
  completes within the budget or is cut off at it**;
* `LineScript.Invocation.budget_bounds` — all of it together.
-/

set_option autoImplicit false

namespace LineScript

/-! ### Other budgets -/

/-- The session under another budget. -/
def Session.withBudget (s : Session) (budget : Option Nat) : Session :=
  s.withSettings { s.context.settings with stepBudget := budget }

/-- The run under another budget. -/
def Invocation.withBudget (i : Invocation) (budget : Option Nat) : Invocation :=
  { i with context.settings.stepBudget := budget }

/-- What is left of a run, under another budget. -/
def Outcome.withBudget (budget : Option Nat) : Outcome → Outcome
  | completed t values => .completed t values
  | suspended s => .suspended { s with invocation := s.invocation.withBudget budget }
  | unfinished i => .unfinished (i.withBudget budget)

/-- Where a step leads, under another budget. -/
def Progress.withBudget (budget : Option Nat) : Progress → Progress
  | goesOn i => .goesOn (i.withBudget budget)
  | stops o => .stops (o.withBudget budget)

namespace Session

/-- A statement leaves the settings as they are. -/
theorem exec_settings (s : Session) (st : Statement) :
    (s.exec st).2.context.settings = s.context.settings :=
  congrArg (·.2.context.settings) (exec_withSettings s s.context.settings st)

theorem exec_withBudget (s : Session) (budget : Option Nat) (st : Statement) :
    (s.withBudget budget).exec st = ((s.exec st).1, (s.exec st).2.withBudget budget) := by
  rw [withBudget, exec_withSettings, withBudget, exec_settings]

theorem releaseLock_withBudget_host (s : Session) (budget : Option Nat) :
    (s.withBudget budget).releaseLock.host = s.releaseLock.host := by
  rw [withBudget, releaseLock_withSettings, withSettings_host]

theorem releaseLock_emitted (s : Session) : s.releaseLock.host.emitted = s.host.emitted := by
  unfold releaseLock
  split
  · rfl
  · split
    · rfl
    · split <;> rfl

/-- Whoever has given the lock back does not hold it. -/
theorem releaseLock_holder {s : Session} {token : LockToken} {storage : Storage}
    (held : s.context.lock = some token) (left : s.releaseLock.host.storage = some storage) :
    storage.holder ≠ some token := by
  unfold releaseLock at left
  rw [held] at left
  simp only at left
  cases hs : s.host.storage with
  | none =>
      simp only [hs] at left
      cases left
  | some before =>
      rw [hs] at left
      simp only [Storage.release, Storage.guard] at left
      by_cases own : before.holder = some token
      · simp only [own, if_true, bind, Except.bind, pure, Except.pure, setStorage,
          Option.some.injEq] at left
        simp [← left]
      · simp only [own, if_false, bind, Except.bind, hs, Option.some.injEq] at left
        exact left ▸ own

end Session

namespace Invocation

theorem finish_withBudget (t : Termination) (s : Session) (budget : Option Nat) :
    finish t (s.withBudget budget) = ((finish t s).1.withBudget budget, (finish t s).2) := by
  simp only [finish, Session.releaseLock_withBudget_host]
  rfl

theorem follow_withBudget (i : Invocation) (s : Session) (budget : Option Nat) (flow : Flow) :
    (i.withBudget budget).follow (s.withBudget budget) flow =
      ((i.follow s flow).1.withBudget budget, (i.follow s flow).2) := by
  cases flow with
  | next => rfl
  | exit =>
      have flushed : (s.withBudget budget).flush = s.flush.withBudget budget := by
        rw [Session.withBudget, Session.flush_withSettings, Session.withBudget]
        congr 2
        unfold Session.flush
        dsimp only
        split <;> rfl
      simp only [follow, flushed]
      exact finish_withBudget .ended s.flush budget
  | jump label =>
      simp only [follow]
      have script : (i.withBudget budget).script = i.script := rfl
      rw [script]
      cases i.script.labels.get? label with
      | some index => rfl
      | none => exact finish_withBudget _ (s.remark (.unknownLabel label)) budget
  | delay seconds =>
      cases seconds with
      | zero => rfl
      | succ n =>
          simp only [follow, suspend_eq]
          rfl
  | breakdown => exact finish_withBudget .brokeDown s budget

/-! ### Steps -/

/-- **A step with some of the budget left is the step of the free run.**  So is a step at which there is
no statement, since that is found out first. -/
theorem step_withBudget {i : Invocation} {b : Nat} (free : i.context.settings.stepBudget = none)
    (room : i.steps < b ∨ i.script.statements[i.cursor]? = none) (h : Host) :
    (i.withBudget (some b)).step h = ((i.step h).1.withBudget (some b), (i.step h).2) := by
  have same : (i.withBudget (some b)).script.statements[(i.withBudget (some b)).cursor]? =
      i.script.statements[i.cursor]? := rfl
  simp only [step, same]
  cases hat : i.script.statements[i.cursor]? with
  | none => exact finish_withBudget .pastLast ((i.session h).remark (.pastLast i.cursor)) (some b)
  | some st =>
      have left : i.steps < b := room.resolve_right (by simp [hat])
      have unspent : (i.withBudget (some b)).spentBudget? = none := by
        simp [spentBudget?, withBudget, Nat.not_le.2 left]
      have unbounded : i.spentBudget? = none := by simp [spentBudget?, free]
      simp only [unspent, unbounded]
      have exec := Session.exec_withBudget (i.session h) (some b) st
      rw [show (⟨(i.withBudget (some b)).context, h⟩ : Session) = (i.session h).withBudget (some b)
        from rfl, exec]
      exact follow_withBudget i _ (some b) _

/-- A step with nothing left of the budget stops the run. -/
theorem step_spent {i : Invocation} {b : Nat} {st : Statement} (spent : i.steps = b)
    (hat : i.script.statements[i.cursor]? = some st) (h : Host) :
    (i.withBudget (some b)).step h =
      (.stops (.completed .overBudget i.context.values),
        ((i.session h).remark (.overBudget b)).releaseLock.host) := by
  have same : (i.withBudget (some b)).script.statements[(i.withBudget (some b)).cursor]? =
      some st := hat
  have exceeded : (i.withBudget (some b)).spentBudget? = some b := by
    simp [spentBudget?, withBudget, spent]
  simp only [step, same, exceeded]
  exact Prod.ext rfl
    (Session.releaseLock_withBudget_host ((i.session h).remark (.overBudget b)) (some b))

/-- A step that goes on has executed a statement, and counts it. -/
theorem Moves.counts {i j : Invocation} {h g : Host} (m : i.Moves h (.goesOn j) g) :
    i.executes = [i.cursor] ∧ j.steps = i.steps + 1 ∧
      j.context.settings.stepBudget = i.context.settings.stepBudget := by
  cases m with
  | @next st s ready exec =>
      have settings := Session.exec_settings (i.session h) st
      rw [exec] at settings
      exact ⟨executes_of_ready ready, rfl, congrArg Settings.stepBudget settings⟩
  | @jumps st s label index ready exec found =>
      have settings := Session.exec_settings (i.session h) st
      rw [exec] at settings
      exact ⟨executes_of_ready ready, rfl, congrArg Settings.stepBudget settings⟩

/-- So has a step that suspends the run. -/
theorem Moves.counts_of_suspended {i : Invocation} {s : Suspension} {h g : Host}
    (m : i.Moves h (.stops (.suspended s)) g) :
    i.executes = [i.cursor] ∧ s.invocation.steps = i.steps + 1 ∧
      s.invocation.context.settings.stepBudget = i.context.settings.stepBudget := by
  cases m with
  | @sleeps st s n ready exec pos =>
      have settings := Session.exec_settings (i.session h) st
      rw [exec] at settings
      exact ⟨executes_of_ready ready, rfl, congrArg Settings.stepBudget settings⟩

/-! ### Single runs -/

theorem run_of_goesOn {i j : Invocation} {h g : Host} (hs : i.step h = (.goesOn j, g)) (fuel : Nat) :
    i.run (fuel + 1) h = j.run fuel g := by
  simp only [run, hs]

theorem run_of_stops {i : Invocation} {o : Outcome} {h g : Host} (hs : i.step h = (.stops o, g))
    (fuel : Nat) : i.run (fuel + 1) h = (o, g) := by
  simp only [run, hs]

theorem trace_of_goesOn {i j : Invocation} {h g : Host} (hs : i.step h = (.goesOn j, g))
    (fuel : Nat) : i.trace (fuel + 1) h = i.cursor :: j.trace fuel g := by
  simp only [trace, hs, (Moves.of_step hs).counts.1]
  rfl

theorem trace_of_stops {i : Invocation} {o : Outcome} {h g : Host} (hs : i.step h = (.stops o, g))
    (fuel : Nat) : i.trace (fuel + 1) h = i.executes := by
  simp only [trace, hs, List.append_nil]

/-- A run that is suspended has counted the statements it executed, of which there is one at least, and
has kept its budget. -/
theorem run_counts_of_suspended {fuel : Nat} {i : Invocation} {h g : Host} {s : Suspension}
    (hr : i.run fuel h = (.suspended s, g)) :
    s.invocation.steps = i.steps + (i.trace fuel h).length ∧ 0 < (i.trace fuel h).length ∧
      s.invocation.context.settings.stepBudget = i.context.settings.stepBudget := by
  induction fuel generalizing i h with
  | zero => simp [run] at hr
  | succ fuel ih =>
      rcases hs : i.step h with ⟨p, f⟩
      cases p with
      | goesOn j =>
          rw [run_of_goesOn hs] at hr
          obtain ⟨_, counted, kept⟩ := (Moves.of_step hs).counts
          obtain ⟨steps, _, budget⟩ := ih hr
          rw [trace_of_goesOn hs, List.length_cons]
          exact ⟨by omega, by omega, budget.trans kept⟩
      | stops o =>
          rw [run_of_stops hs] at hr
          obtain ⟨rfl, rfl⟩ : o = .suspended s ∧ f = g := by simpa using hr
          obtain ⟨executes, counted, kept⟩ := (Moves.of_step hs).counts_of_suspended
          rw [trace_of_stops hs, executes]
          exact ⟨counted, Nat.one_pos, kept⟩

/-- A run that is out of steps has executed a statement in each of them. -/
theorem trace_length_of_unfinished {fuel : Nat} {i j : Invocation} {h g : Host}
    (hr : i.run fuel h = (.unfinished j, g)) : (i.trace fuel h).length = fuel := by
  induction fuel generalizing i h with
  | zero => rfl
  | succ fuel ih =>
      rcases hs : i.step h with ⟨p, f⟩
      cases p with
      | goesOn k =>
          rw [run_of_goesOn hs] at hr
          rw [trace_of_goesOn hs, List.length_cons, ih hr]
      | stops o =>
          rw [run_of_stops hs] at hr
          obtain ⟨rfl, rfl⟩ : o = .unfinished j ∧ f = g := by simpa using hr
          cases Moves.of_step hs

/-- **A run executes no more statements than are left of its budget.** -/
theorem trace_budget {i : Invocation} {b : Nat} (budget : i.context.settings.stepBudget = some b)
    (room : i.steps ≤ b) (fuel : Nat) (h : Host) : i.steps + (i.trace fuel h).length ≤ b := by
  -- a statement is executed only with some of the budget left
  have here : ∀ {j : Invocation}, j.context.settings.stepBudget = some b → j.steps ≤ b →
      j.steps + j.executes.length ≤ b := by
    intro j hb hle
    cases hr : j.ready? with
    | none =>
        rw [executes_of_not_ready hr]
        exact hle
    | some st =>
        have left : ¬ b ≤ j.steps := by simpa [spentBudget?, hb] using (ready?_eq_some.1 hr).1
        rw [executes_of_ready hr, List.length_singleton]
        omega
  induction fuel generalizing i h with
  | zero => exact room
  | succ fuel ih =>
      have first := here budget room
      rcases hs : i.step h with ⟨p, f⟩
      cases p with
      | stops o =>
          rw [trace_of_stops hs]
          exact first
      | goesOn j =>
          obtain ⟨executes, counted, kept⟩ := (Moves.of_step hs).counts
          rw [executes, List.length_singleton] at first
          have rest := ih (i := j) (kept.trans budget) (by omega) f
          rw [trace_of_goesOn hs, List.length_cons]
          omega

/-- A free run executes the statement at the cursor, if there is one. -/
theorem executes_of_free {i : Invocation} (free : i.context.settings.stepBudget = none) :
    i.executes = if i.script.statements[i.cursor]?.isSome then [i.cursor] else [] := by
  simp [executes, ready?, spentBudget?, free]

/-- So does a run with some of its budget left. -/
theorem executes_withBudget {i : Invocation} {b : Nat} (free : i.context.settings.stepBudget = none)
    (room : i.steps < b ∨ i.script.statements[i.cursor]? = none) :
    (i.withBudget (some b)).executes = i.executes := by
  rw [executes_of_free free]
  rcases room with left | hnone
  · simp [executes, ready?, spentBudget?, withBudget, Nat.not_le.2 left]
  · simp [executes, ready?, withBudget, hnone]

/-- **A run of which the free one stays within the budget does the same as the free one.** -/
theorem run_within {i : Invocation} {b : Nat} (free : i.context.settings.stepBudget = none)
    (fuel : Nat) (h : Host) (short : i.steps + (i.trace fuel h).length ≤ b) :
    (i.withBudget (some b)).trace fuel h = i.trace fuel h ∧
      (i.withBudget (some b)).run fuel h =
        ((i.run fuel h).1.withBudget (some b), (i.run fuel h).2) := by
  induction fuel generalizing i h with
  | zero => exact ⟨rfl, rfl⟩
  | succ fuel ih =>
      rcases hs : i.step h with ⟨p, f⟩
      cases p with
      | stops o =>
          rw [trace_of_stops hs] at short ⊢
          have room : i.steps < b ∨ i.script.statements[i.cursor]? = none := by
            cases hat : i.script.statements[i.cursor]? with
            | none => exact Or.inr rfl
            | some st =>
                simp only [executes_of_free free, hat, Option.isSome_some, if_true,
                  List.length_singleton] at short
                exact Or.inl (by omega)
          have step := step_withBudget free room h
          rw [hs] at step
          rw [trace_of_stops step, executes_withBudget free room, run_of_stops hs, run_of_stops step]
          exact ⟨rfl, rfl⟩
      | goesOn j =>
          obtain ⟨_, counted, kept⟩ := (Moves.of_step hs).counts
          rw [trace_of_goesOn hs, List.length_cons] at short
          have left : i.steps < b := by omega
          have step := step_withBudget free (Or.inl left) h
          rw [hs] at step
          obtain ⟨traces, runs⟩ := ih (i := j) (kept.trans free) f (by omega)
          rw [trace_of_goesOn hs, trace_of_goesOn step, run_of_goesOn hs, run_of_goesOn step, traces,
            runs]
          exact ⟨rfl, rfl⟩

/-! ### Where a run is after so many statements -/

/-- **Where a run is after so many statements**, if it executes so many and is resumed after every
sleep among them: the run and the host, at the point where the next statement would be executed. -/
def after : Nat → List Turn → Invocation → Host → Option (Invocation × Host)
  | 0, _, i, h => some (i, h)
  | n + 1, turns, i, h =>
    match i.step h, turns with
    | (.goesOn j, g), turns => after n turns j g
    | (.stops (.suspended s), g), turn :: turns => after n turns s.invocation (turn.meanwhile g)
    | (.stops _, _), _ => none

theorem after_of_goesOn {i j : Invocation} {h g : Host} (hs : i.step h = (.goesOn j, g)) (n : Nat)
    (turns : List Turn) : i.after (n + 1) turns h = j.after n turns g := by
  simp only [after, hs]

theorem after_of_suspended {i : Invocation} {s : Suspension} {h g : Host}
    (hs : i.step h = (.stops (.suspended s), g)) (n : Nat) (turn : Turn) (turns : List Turn) :
    i.after (n + 1) (turn :: turns) h = s.invocation.after n turns (turn.meanwhile g) := by
  simp only [after, hs]

/-- After all the statements of a run that was suspended, it is where it is resumed. -/
theorem after_run_suspended {fuel : Nat} {i : Invocation} {s : Suspension} {h g : Host}
    (hr : i.run fuel h = (.suspended s, g)) (n : Nat) (turn : Turn) (turns : List Turn) :
    i.after ((i.trace fuel h).length + n) (turn :: turns) h =
      s.invocation.after n turns (turn.meanwhile g) := by
  induction fuel generalizing i h with
  | zero => simp [run] at hr
  | succ fuel ih =>
      rcases hs : i.step h with ⟨p, f⟩
      cases p with
      | goesOn j =>
          rw [run_of_goesOn hs] at hr
          rw [trace_of_goesOn hs, List.length_cons, Nat.add_right_comm, after_of_goesOn hs]
          exact ih hr
      | stops o =>
          rw [run_of_stops hs] at hr
          obtain ⟨rfl, rfl⟩ : o = .suspended s ∧ f = g := by simpa using hr
          rw [trace_of_stops hs, (Moves.of_step hs).counts_of_suspended.1, List.length_singleton,
            Nat.add_comm, after_of_suspended hs]

/-- **A run of which the free one goes beyond the budget is cut off at it**: it executes as many
statements as are left, and where the free run is after those, it is stopped. -/
theorem run_beyond {i : Invocation} {b left fuel : Nat} {h : Host}
    (free : i.context.settings.stepBudget = none) (sum : i.steps + left = b)
    (long : left < (i.trace fuel h).length) (turns : List Turn) :
    ∃ j g, i.after left turns h = some (j, g) ∧
      (i.withBudget (some b)).trace fuel h = (i.trace fuel h).take left ∧
      (i.withBudget (some b)).run fuel h = (.completed .overBudget j.context.values,
        ((j.session g).remark (.overBudget b)).releaseLock.host) := by
  induction fuel generalizing i h left with
  | zero => simp [trace] at long
  | succ fuel ih =>
      cases left with
      | zero =>
          -- the free run executes a statement here, for which nothing is left
          have some_at : ∃ st, i.script.statements[i.cursor]? = some st := by
            refine Option.isSome_iff_exists.1 (Classical.byContradiction fun hnone => ?_)
            rcases hs : i.step h with ⟨p, f⟩
            have executes := executes_of_free free
            rw [if_neg hnone] at executes
            cases p with
            | goesOn j => simp [(Moves.of_step hs).counts.1] at executes
            | stops o => simp [trace_of_stops hs, executes] at long
          obtain ⟨st, hat⟩ := some_at
          have step := step_spent (b := b) sum hat h
          have idle : (i.withBudget (some b)).executes = [] := by
            simp [executes, ready?, spentBudget?, withBudget, ← sum]
          refine ⟨i, h, rfl, ?_, run_of_stops step fuel⟩
          rw [trace_of_stops step, idle, List.take_zero]
      | succ left =>
          have room : i.steps < b := by omega
          have step := step_withBudget free (Or.inl room) h
          rcases hs : i.step h with ⟨p, f⟩
          rw [hs] at step
          cases p with
          | goesOn j =>
              obtain ⟨_, counted, kept⟩ := (Moves.of_step hs).counts
              rw [trace_of_goesOn hs, List.length_cons] at long
              obtain ⟨k, g, place, traces, runs⟩ :=
                ih (i := j) (h := f) (kept.trans free) (show j.steps + left = b by omega) (by omega)
              refine ⟨k, g, ?_, ?_, ?_⟩
              · rw [after_of_goesOn hs, place]
              · rw [trace_of_goesOn step, traces, trace_of_goesOn hs, List.take_succ_cons]
                rfl
              · rw [run_of_goesOn step, runs]
          | stops o =>
              -- a run that stops here has executed one statement at most
              rw [trace_of_stops hs, executes_of_free free] at long
              split at long
              · simp at long
              · simp at long

/-! ### Runs that are resumed -/

/-- **The statements executed by a run that is resumed after every sleep**, as long as there are
turns. -/
def itinerary : List Turn → Nat → Invocation → Host → List Nat
  | [], fuel, i, h => i.trace fuel h
  | turn :: turns, fuel, i, h =>
    i.trace fuel h ++
      match i.run fuel h with
      | (.suspended s, g) => itinerary turns turn.fuel s.invocation (turn.meanwhile g)
      | _ => []

theorem itinerary_of_suspended {fuel : Nat} {i : Invocation} {s : Suspension} {h g : Host}
    (hr : i.run fuel h = (.suspended s, g)) (turn : Turn) (turns : List Turn) :
    i.itinerary (turn :: turns) fuel h =
      i.trace fuel h ++ s.invocation.itinerary turns turn.fuel (turn.meanwhile g) := by
  simp only [itinerary, hr]

/-- A run that is not resumed is all there is: there are no turns, or it is not suspended. -/
theorem chain_last (turns : List Turn) (fuel : Nat) (i : Invocation) (h : Host)
    (last : turns = [] ∨ ∀ s, (i.run fuel h).1 ≠ .suspended s) :
    i.itinerary turns fuel h = i.trace fuel h ∧
      Outcome.stages turns (i.run fuel h) = [i.run fuel h] := by
  rcases hr : i.run fuel h with ⟨o, g⟩
  rw [hr] at last
  cases turns with
  | nil => cases o <;> exact ⟨rfl, rfl⟩
  | cons turn turns =>
      cases o with
      | suspended s => exact absurd rfl (last.resolve_left (by simp) s)
      | completed t values => exact ⟨by simp [itinerary, hr], rfl⟩
      | unfinished j => exact ⟨by simp [itinerary, hr], rfl⟩

theorem stages_of_suspended {fuel : Nat} {i : Invocation} {s : Suspension} {h g : Host}
    (hr : i.run fuel h = (.suspended s, g)) (turn : Turn) (turns : List Turn) :
    Outcome.stages (turn :: turns) (i.run fuel h) =
      (.suspended s, g) :: Outcome.stages turns (s.invocation.run turn.fuel (turn.meanwhile g)) := by
  rw [hr]
  rfl

/-- What holds of a run that is not resumed, and of one that is resumed when it holds from there on,
holds of every run that is resumed after its sleeps. -/
theorem chain_induction {P : List Turn → Nat → Invocation → Host → Prop}
    (last : ∀ turns fuel i h, (turns = [] ∨ ∀ s, (run fuel i h).1 ≠ .suspended s) →
      P turns fuel i h)
    (resumed : ∀ turn turns fuel i h s g, run fuel i h = (.suspended s, g) →
      P turns turn.fuel s.invocation (turn.meanwhile g) → P (turn :: turns) fuel i h)
    (turns : List Turn) (fuel : Nat) (i : Invocation) (h : Host) : P turns fuel i h := by
  induction turns generalizing fuel i h with
  | nil => exact last [] fuel i h (Or.inl rfl)
  | cons turn turns ih =>
      rcases hr : i.run fuel h with ⟨o, g⟩
      cases o with
      | suspended s => exact resumed turn turns fuel i h s g hr (ih _ _ _)
      | completed t values => exact last _ fuel i h (Or.inr (by simp [hr]))
      | unfinished j => exact last _ fuel i h (Or.inr (by simp [hr]))

/-- **No more statements are executed than the budget allows**, over all sleeps, and there are no more
resumes than that. -/
theorem itinerary_budget {i : Invocation} {b : Nat} (budget : i.context.settings.stepBudget = some b)
    (room : i.steps ≤ b) (turns : List Turn) (fuel : Nat) (h : Host) :
    i.steps + (i.itinerary turns fuel h).length ≤ b ∧
      i.steps + (Outcome.stages turns (i.run fuel h)).length ≤ b + 1 := by
  induction turns, fuel, i, h using chain_induction with
  | last turns fuel i h last =>
      obtain ⟨itinerary, stages⟩ := chain_last turns fuel i h last
      have bounded := trace_budget budget room fuel h
      rw [itinerary, stages, List.length_singleton]
      exact ⟨bounded, by omega⟩
  | resumed turn turns fuel i h s g hr ih =>
      obtain ⟨counted, executed, kept⟩ := run_counts_of_suspended hr
      have bounded := trace_budget budget room fuel h
      obtain ⟨statements, resumes⟩ := ih (kept.trans budget) (by omega)
      rw [itinerary_of_suspended hr, stages_of_suspended hr, List.length_append, List.length_cons]
      exact ⟨by omega, by omega⟩

/-- **With as many turns as the budget allows statements, the run comes to completion.** -/
theorem stages_completed {i : Invocation} {b : Nat} (budget : i.context.settings.stepBudget = some b)
    (room : i.steps ≤ b) {turns : List Turn} {fuel : Nat} (enough : b < i.steps + fuel)
    (each : ∀ turn ∈ turns, b < turn.fuel) (turned : b ≤ i.steps + turns.length) (h : Host) :
    ∃ t values g,
      (Outcome.stages turns (i.run fuel h)).getLast? = some (.completed t values, g) := by
  induction turns, fuel, i, h using chain_induction with
  | last turns fuel i h last =>
      rw [(chain_last turns fuel i h last).2, List.getLast?_singleton]
      have bounded := trace_budget budget room fuel h
      rcases hr : i.run fuel h with ⟨o, g⟩
      cases o with
      | completed t values => exact ⟨t, values, g, rfl⟩
      | unfinished j =>
          have all := trace_length_of_unfinished hr
          omega
      | suspended s =>
          -- it was suspended by a statement, for which without a turn nothing was left
          obtain ⟨_, executed, _⟩ := run_counts_of_suspended hr
          rcases last with rfl | awake
          · rw [List.length_nil] at turned
            omega
          · exact absurd (by rw [hr]) (awake s)
  | resumed turn turns fuel i h s g hr ih =>
      obtain ⟨counted, executed, kept⟩ := run_counts_of_suspended hr
      have bounded := trace_budget budget room fuel h
      have next := each turn List.mem_cons_self
      rw [List.length_cons] at turned
      obtain ⟨t, values, f, completed⟩ := ih (kept.trans budget) (by omega) (by omega)
        (fun turn mem => each turn (List.mem_cons_of_mem _ mem)) (by omega)
      refine ⟨t, values, f, ?_⟩
      rw [stages_of_suspended hr, List.getLast?_cons, completed]
      rfl

/-- **If the free run stays within the budget, the other one does the same at every stage.** -/
theorem stages_within {i : Invocation} {b : Nat} (free : i.context.settings.stepBudget = none)
    {turns : List Turn} {fuel : Nat} {h : Host}
    (short : i.steps + (i.itinerary turns fuel h).length ≤ b) :
    (i.withBudget (some b)).itinerary turns fuel h = i.itinerary turns fuel h ∧
      Outcome.stages turns ((i.withBudget (some b)).run fuel h) =
        (Outcome.stages turns (i.run fuel h)).map fun x => (x.1.withBudget (some b), x.2) := by
  induction turns, fuel, i, h using chain_induction with
  | last turns fuel i h last =>
      obtain ⟨itinerary, stages⟩ := chain_last turns fuel i h last
      rw [itinerary] at short
      obtain ⟨traces, runs⟩ := run_within free fuel h short
      have last' : turns = [] ∨ ∀ s, ((i.withBudget (some b)).run fuel h).1 ≠ .suspended s := by
        refine last.imp_right fun awake s => ?_
        rw [runs]
        cases ho : (i.run fuel h).1 with
        | suspended s => exact absurd ho (awake s)
        | completed t values => simp [Outcome.withBudget]
        | unfinished j => simp [Outcome.withBudget]
      obtain ⟨itinerary', stages'⟩ := chain_last turns fuel (i.withBudget (some b)) h last'
      rw [itinerary', itinerary, stages', stages, traces, runs]
      exact ⟨rfl, rfl⟩
  | resumed turn turns fuel i h s g hr ih =>
      obtain ⟨counted, _, kept⟩ := run_counts_of_suspended hr
      rw [itinerary_of_suspended hr, List.length_append] at short
      obtain ⟨traces, runs⟩ := run_within (b := b) free fuel h (by omega)
      rw [hr] at runs
      obtain ⟨itinerary, stages⟩ := ih (kept.trans free) (by omega)
      rw [itinerary_of_suspended runs, stages_of_suspended runs, itinerary_of_suspended hr,
        stages_of_suspended hr, traces]
      exact ⟨congrArg _ itinerary, congrArg _ stages⟩

/-- **If the free run goes beyond the budget, the other one is cut off at it**: the stages before that
are the same, it executes the first statements of the free run, as many as the budget allows, and
where the free run is after those, it is stopped. -/
theorem stages_beyond {i : Invocation} {b left : Nat} (free : i.context.settings.stepBudget = none)
    (sum : i.steps + left = b) {turns : List Turn} {fuel : Nat} {h : Host}
    (long : left < (i.itinerary turns fuel h).length) :
    ∃ j g earlier later, i.after left turns h = some (j, g) ∧
      (i.withBudget (some b)).itinerary turns fuel h = (i.itinerary turns fuel h).take left ∧
      Outcome.stages turns (i.run fuel h) = earlier ++ later ∧
      Outcome.stages turns ((i.withBudget (some b)).run fuel h) =
        (earlier.map fun x => (x.1.withBudget (some b), x.2)) ++
          [(.completed .overBudget j.context.values,
            ((j.session g).remark (.overBudget b)).releaseLock.host)] := by
  -- a run that is cut off is not resumed
  have cut : ∀ {i : Invocation} {left : Nat} (turns : List Turn) {fuel : Nat} {h : Host},
      i.context.settings.stepBudget = none → i.steps + left = b → left < (i.trace fuel h).length →
      ∃ j g, i.after left turns h = some (j, g) ∧
        (i.withBudget (some b)).itinerary turns fuel h = (i.trace fuel h).take left ∧
        Outcome.stages turns ((i.withBudget (some b)).run fuel h) =
          [(.completed .overBudget j.context.values,
            ((j.session g).remark (.overBudget b)).releaseLock.host)] := by
    intro i left turns fuel h free sum long
    obtain ⟨j, g, place, traces, runs⟩ := run_beyond free sum long turns
    obtain ⟨itinerary, stages⟩ := chain_last turns fuel (i.withBudget (some b)) h
      (Or.inr (by simp [runs]))
    exact ⟨j, g, place, itinerary.trans traces, stages.trans (by rw [runs])⟩
  induction turns, fuel, i, h using chain_induction generalizing left with
  | last turns fuel i h last =>
      obtain ⟨itinerary, _⟩ := chain_last turns fuel i h last
      rw [itinerary] at long ⊢
      obtain ⟨j, g, place, itinerary', stages'⟩ := cut turns free sum long
      exact ⟨j, g, [], _, place, itinerary', rfl, stages'⟩
  | resumed turn turns fuel i h s g hr ih =>
      rw [itinerary_of_suspended hr] at long ⊢
      by_cases here : left < (i.trace fuel h).length
      · obtain ⟨j, f, place, itinerary', stages'⟩ := cut (turn :: turns) free sum here
        refine ⟨j, f, [], _, place, ?_, rfl, stages'⟩
        rw [itinerary', List.take_append_of_le_length (Nat.le_of_lt here)]
      · obtain ⟨counted, _, kept⟩ := run_counts_of_suspended hr
        obtain ⟨traces, runs⟩ := run_within (b := b) free fuel h (by omega)
        rw [hr] at runs
        obtain ⟨rest, sum'⟩ : ∃ rest, (i.trace fuel h).length + rest = left :=
          ⟨left - (i.trace fuel h).length, by omega⟩
        rw [List.length_append] at long
        obtain ⟨j, f, earlier, later, place, itinerary, stages, stages'⟩ :=
          ih (kept.trans free) (show s.invocation.steps + rest = b by omega) (by omega)
        refine ⟨j, f, (.suspended s, g) :: earlier, later, ?_, ?_, ?_, ?_⟩
        · rw [← sum', after_run_suspended hr, place]
        · rw [itinerary_of_suspended runs, traces, ← sum', List.take_length_add_append]
          exact congrArg _ itinerary
        · rw [stages_of_suspended hr, stages]
          rfl
        · rw [stages_of_suspended runs]
          exact congrArg _ stages'

/-- **A budget bounds a run and does nothing else to it.**  At most `b` statements are executed over all
sleeps, and the run comes to completion.  If the free run has at most `b`, all stages are the same.
Otherwise they are the same for the first `b`; then an error is emitted, the lock is given back, and
the run is complete with its values. -/
theorem budget_bounds (script : Script) (context : Context) (b : Nat) (turns : List Turn) (fuel : Nat)
    (h : Host) :
    let free : Invocation := Invocation.withBudget { script, context } none
    let bound : Invocation := Invocation.withBudget { script, context } (some b)
    (bound.itinerary turns fuel h).length ≤ b ∧
    (Outcome.stages turns (bound.run fuel h)).length ≤ b + 1 ∧
    (b < fuel → (∀ turn ∈ turns, b < turn.fuel) → b ≤ turns.length →
      ∃ t values g,
        (Outcome.stages turns (bound.run fuel h)).getLast? = some (.completed t values, g)) ∧
    ((free.itinerary turns fuel h).length ≤ b →
      bound.itinerary turns fuel h = free.itinerary turns fuel h ∧
      Outcome.stages turns (bound.run fuel h) =
        (Outcome.stages turns (free.run fuel h)).map fun x => (x.1.withBudget (some b), x.2)) ∧
    (b < (free.itinerary turns fuel h).length →
      ∃ j g f earlier later, free.after b turns h = some (j, g) ∧
        bound.itinerary turns fuel h = (free.itinerary turns fuel h).take b ∧
        Outcome.stages turns (free.run fuel h) = earlier ++ later ∧
        Outcome.stages turns (bound.run fuel h) =
          (earlier.map fun x => (x.1.withBudget (some b), x.2)) ++
            [(.completed .overBudget j.context.values, f)] ∧
        f = ((j.session g).remark (.overBudget b)).releaseLock.host ∧
        f.emitted =
          g.emitted ++ [.broadcast ⟨.error, j.context.script, s!"stopped after {b} statements"⟩] ∧
        ∀ token storage, j.context.lock = some token → f.storage = some storage →
          storage.holder ≠ some token) := by
  intro free bound
  have budget : bound.context.settings.stepBudget = some b := rfl
  have unbounded : free.context.settings.stepBudget = none := rfl
  have same : free.withBudget (some b) = bound := rfl
  obtain ⟨statements, resumes⟩ := itinerary_budget budget (Nat.zero_le b) turns fuel h
  have start : bound.steps = 0 := rfl
  have start' : free.steps = 0 := rfl
  refine ⟨by omega, by omega, ?_, ?_, ?_⟩
  · intro enough each turned
    exact stages_completed budget (Nat.zero_le b) (by omega) each (by omega) h
  · intro short
    exact stages_within unbounded (by omega)
  · intro long
    obtain ⟨j, g, earlier, later, place, itinerary, stages, stages'⟩ :=
      stages_beyond (b := b) unbounded (by omega) long
    refine ⟨j, g, _, earlier, later, place, itinerary, stages, stages', rfl, ?_, ?_⟩
    · rw [Session.releaseLock_emitted]
      rfl
    · intro token storage held left
      exact Session.releaseLock_holder (s := (j.session g).remark (.overBudget b)) held left

/-- A script that sleeps and starts again, for ever. -/
def restless : Script :=
  { statements := #[.sleep (.constant (.ofNumber 1)), .jump "@again" none, .finish]
    labels := KeyMap.empty.insert "@again" 0 }

/-- With a budget of three statements it is resumed twice, and stopped before it sleeps a third time;
a script that has four statements to execute does not notice a budget of four. -/
theorem budget_bounds_restless :
    let bound : Invocation :=
      Invocation.withBudget { script := restless, context := .ofInputs "restless" {} } (some 3)
    let brief : Invocation := Invocation.withBudget { script := napping, context := nap } (some 4)
    let turns : List Turn := [⟨id, 5⟩, ⟨id, 5⟩, ⟨id, 5⟩, ⟨id, 5⟩]
    bound.itinerary turns 5 {} = [0, 1, 0] ∧
      (∃ values g, (Outcome.stages turns (bound.run 5 {})).getLast? =
        some (.completed .overBudget values, g)) ∧
      brief.itinerary turns 5 {} = [0, 1, 2, 3] ∧
      ∃ t values g, (Outcome.stages turns (brief.run 5 {})).getLast? =
        some (.completed t values, g) := by
  intro bound brief turns
  obtain ⟨_, _, _, _, beyond⟩ := budget_bounds restless (.ofInputs "restless" {}) 3 turns 5 {}
  obtain ⟨_, _, completes, within, _⟩ := budget_bounds napping nap 4 turns 5 {}
  have long : 3 < (itinerary turns 5
      (Invocation.withBudget { script := restless, context := .ofInputs "restless" {} } none)
      {}).length := by decide +kernel
  have short : (itinerary turns 5 (Invocation.withBudget { script := napping, context := nap } none)
      {}).length ≤ 4 := by decide +kernel
  obtain ⟨j, g, f, earlier, later, _, itinerary, _, stages, _⟩ := beyond long
  refine ⟨?_, ⟨j.context.values, f, ?_⟩, ?_, completes (by decide) ?_ (by decide)⟩
  · rw [itinerary]
    decide +kernel
  · rw [stages, List.getLast?_append]
    rfl
  · rw [(within short).1]
    decide +kernel
  · simp [turns]

end Invocation

end LineScript
