import LineScript.Proofs.Filing
import LineScript.Proofs.Steps

/-!
**The statements that are executed.**

What a run comes to says little about how it came there: two runs may end alike and have executed quite
different statements.  This module lists the statements that are executed, each with the session it is
executed in, for a single run and for a call that executes all that is due.  The lists are not bookkeeping
of their own: a statement is on the list of a run just if the steps of that run lead to it, and on the list
of a call just if it is on that of a run that the call executes.

Main definitions:

* `LineScript.Execution` — a statement, and the session it is executed in;
* `LineScript.Invocation.executed`, `LineScript.Scheduler.executed` — the statements that a run and a call
  execute.

Main results:

* `LineScript.Invocation.mem_executed_iff` — **a run executes the statements that its steps come to**;
* `LineScript.Scheduler.mem_executed_iff` — a call executes those of the jobs that are due, each on the host as
  the jobs before it have left it.
-/

set_option autoImplicit false

namespace LineScript

/-- A statement, and the session in which it is executed. -/
structure Execution where
  session : Session
  statement : Statement

/-! ### Runs -/

namespace Invocation

/-- What the next step executes, if it executes a statement. -/
def execution? (i : Invocation) (h : Host) : Option Execution := i.ready?.map (⟨i.session h, ·⟩)

/-- **The statements that a run executes**, in order. -/
def executed : Nat → Invocation → Host → List Execution
  | 0, _, _ => []
  | fuel + 1, i, h =>
    (i.execution? h).toList ++
      match i.step h with
      | (.goesOn j, g) => executed fuel j g
      | (.stops _, _) => []

theorem execution?_eq_some {i : Invocation} {h : Host} {x : Execution} :
    i.execution? h = some x ↔ i.ready? = some x.statement ∧ x.session = i.session h := by
  unfold execution?
  rw [Option.map_eq_some_iff]
  constructor
  · rintro ⟨st, ready, rfl⟩
    exact ⟨ready, rfl⟩
  · rintro ⟨ready, same⟩
    exact ⟨x.statement, ready, by rw [← same]⟩

theorem executed_of_goesOn {i j : Invocation} {h g : Host} (step : i.step h = (.goesOn j, g))
    (fuel : Nat) : i.executed (fuel + 1) h = (i.execution? h).toList ++ j.executed fuel g := by
  simp only [executed, step]

theorem executed_of_stops {i : Invocation} {o : Outcome} {h g : Host} (step : i.step h = (.stops o, g))
    (fuel : Nat) : i.executed (fuel + 1) h = (i.execution? h).toList := by
  simp only [executed, step, List.append_nil]

/-- **A run executes the statements that its steps come to**, and no others. -/
theorem mem_executed_iff {fuel : Nat} {i : Invocation} {h : Host} {x : Execution} :
    x ∈ i.executed fuel h ↔ ∃ n j g, n < fuel ∧ Passes n i h j g ∧ j.execution? g = some x := by
  constructor
  · intro mem
    induction fuel generalizing i h with
    | zero => cases mem
    | succ fuel ih =>
        rcases hs : i.step h with ⟨p, g⟩
        cases p with
        | goesOn j =>
            rw [executed_of_goesOn hs, List.mem_append, Option.mem_toList] at mem
            rcases mem with here | later
            · exact ⟨0, i, h, by omega, .refl i h, here⟩
            · obtain ⟨n, k, f, less, passes, there⟩ := ih later
              exact ⟨n + 1, k, f, by omega, .head hs passes, there⟩
        | stops o =>
            rw [executed_of_stops hs, Option.mem_toList] at mem
            exact ⟨0, i, h, by omega, .refl i h, mem⟩
  · rintro ⟨n, j, g, less, passes, there⟩
    induction passes generalizing fuel with
    | refl i h =>
        obtain ⟨fuel, rfl⟩ : ∃ m, fuel = m + 1 := ⟨fuel - 1, by omega⟩
        exact List.mem_append_left _ (Option.mem_toList.2 there)
    | head step _ ih =>
        obtain ⟨fuel, rfl⟩ : ∃ m, fuel = m + 1 := ⟨fuel - 1, by omega⟩
        rw [executed_of_goesOn step]
        exact List.mem_append_right _ (ih (by omega) there)

end Invocation

/-! ### Calls -/

namespace Scheduler

/-- **The statements that a call executes** which executes all that is due. -/
def executed (fuel : Nat) (c : Scheduler) (h : Host) (now : Instant) : List Execution :=
  (c.runs fuel h now).flatMap fun r => r.1.executed fuel r.2

/-- **A call executes the statements of the jobs that are due**: of each the run that it stands for, on the host
as the jobs before it have left it, as long as none of these breaks down. -/
theorem mem_executed_iff {fuel : Nat} {c : Scheduler} {h : Host} {now : Instant} {x : Execution} :
    x ∈ c.executed fuel h now ↔
      ∃ before e after done d g i f, (c.takeReady now).1 = before ++ e :: after ∧
        (c.takeReady now).2.runEntries fuel now h before = (some done, d, g) ∧
        e.run? now g = some (i, f) ∧ x ∈ i.executed fuel f := by
  unfold executed
  rw [List.mem_flatMap]
  constructor
  · rintro ⟨⟨i, f⟩, run, mem⟩
    obtain ⟨before, e, after, done, d, g, ready, ran, begins⟩ := mem_runs_iff.1 run
    exact ⟨before, e, after, done, d, g, i, f, ready, ran, begins, mem⟩
  · rintro ⟨before, e, after, done, d, g, i, f, ready, ran, begins, mem⟩
    exact ⟨(i, f), mem_runs_iff.2 ⟨before, e, after, done, d, g, ready, ran, begins⟩, mem⟩

end Scheduler

end LineScript
