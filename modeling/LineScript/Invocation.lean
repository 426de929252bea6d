import LineScript.Exec
import LineScript.Script

/-!
**Invocations.**

An invocation is one run of a script: its context, the index of the next statement, and the number of
statements executed so far.  It goes on step by step until it completes or comes to a sleep, where it
is suspended; whoever holds the suspension may resume it later or cancel it.  Either way the lock of
the storage is given back in the end.

Main definitions:

* `LineScript.Invocation`, `LineScript.Suspension`, `LineScript.Outcome` — runs, paused runs, and how
  a run stops;
* `LineScript.Invocation.start` — **binds the arguments of a call**;
* `LineScript.Invocation.step` — executes one statement;
* `LineScript.Invocation.run` — **executes statements until the run stops**;
* `LineScript.Suspension.resume`, `LineScript.Suspension.cancel` — goes on, or gives up.
-/

set_option autoImplicit false

namespace LineScript

/-- One run of a script. -/
structure Invocation where
  script : Script
  context : Context
  /-- the index of the next statement -/
  cursor : Nat := 0
  /-- how many statements were executed -/
  steps : Nat := 0

/-- A run that is paused by a sleep. -/
structure Suspension where
  invocation : Invocation
  delay : Duration

/-- Why a run is complete. -/
inductive Termination where
  /-- it came to an `end` -/
  | ended
  /-- there was no statement at the cursor -/
  | pastLast
  | missingLabel (label : String)
  | overBudget
  /-- a statement broke down -/
  | brokeDown
deriving DecidableEq

/-- How a run stops. -/
inductive Outcome where
  | completed (t : Termination) (values : ValueMap)
  | suspended (s : Suspension)
  /-- it did not stop within the number of steps it was given -/
  | unfinished (i : Invocation)

/-- The run broke down, and so does whoever executes it. -/
def Outcome.isBreakdown : Outcome → Bool
  | completed .brokeDown _ => true
  | _ => false

/-- Where a single step leads. -/
inductive Progress where
  | goesOn (i : Invocation)
  | stops (o : Outcome)

namespace Invocation

/-- **Binds the arguments of a call.**  What cannot be bound, or is left over, is remarked on. -/
def start (script : Script) (inputs : Inputs) (arguments : String) (h : Host) :
    Except BindError Invocation × Host :=
  let context := Context.ofInputs script.name inputs
  let (result, values) := Parameter.bind script.parameters arguments context.values
  let s : Session := ⟨{ context with values }, h⟩
  match result with
  | .ok [] => (.ok { script, context := s.context }, h)
  | .ok extra => (.ok { script, context := s.context }, (s.remark (.extraArguments extra)).host)
  | .error e =>
    (.error e, (s.remark (.unbound e (script.usage inputs.settings.commandSign))).host)

/-- Completes a run: the lock is given back. -/
def finish (t : Termination) (s : Session) : Progress × Host :=
  (.stops (.completed t s.values), s.releaseLock.host)

/-- The run after a statement, at a statement of its own. -/
def continueAt (i : Invocation) (cursor : Nat) (s : Session) : Invocation :=
  { i with context := s.context, cursor, steps := i.steps + 1 }

/-- Suspends a run, for no longer than the settings allow. -/
def suspend (i : Invocation) (seconds : Nat) (s : Session) : Progress × Host :=
  let wanted := Duration.ofSeconds seconds
  let longest := s.context.settings.maxSleep
  let paused := i.continueAt (i.cursor + 1) s
  if longest < wanted then
    (.stops (.suspended ⟨paused, longest⟩), (s.remark (.shortened seconds longest)).host)
  else (.stops (.suspended ⟨paused, wanted⟩), s.host)

/-- Goes on as a statement said. -/
def follow (i : Invocation) (s : Session) : Flow → Progress × Host
  | .next => (.goesOn (i.continueAt (i.cursor + 1) s), s.host)
  | .exit => finish .ended s.flush
  | .jump label =>
    match i.script.labels.get? label with
    | some index => (.goesOn (i.continueAt index s), s.host)
    | none => finish (.missingLabel label) (s.remark (.unknownLabel label))
  | .delay 0 => (.goesOn (i.continueAt (i.cursor + 1) s), s.host)
  | .delay seconds => i.suspend seconds s
  | .breakdown => finish .brokeDown s

/-- The budget that is used up, if there is one. -/
def spentBudget? (i : Invocation) : Option Nat :=
  i.context.settings.stepBudget.filter (· ≤ i.steps)

/-- Executes one statement. -/
def step (i : Invocation) (h : Host) : Progress × Host :=
  let s : Session := ⟨i.context, h⟩
  match i.script.statements[i.cursor]? with
  | none => finish .pastLast (s.remark (.pastLast i.cursor))
  | some statement =>
    match i.spentBudget? with
    | some budget => finish .overBudget (s.remark (.overBudget budget))
    | none =>
      let (flow, s) := s.exec statement
      i.follow s flow

/-- **Executes statements until the run stops**, or as many as it is given. -/
def run : Nat → Invocation → Host → Outcome × Host
  | 0, i, h => (.unfinished i, h)
  | fuel + 1, i, h =>
    match i.step h with
    | (.goesOn i, h) => run fuel i h
    | (.stops o, h) => (o, h)

/-- Sets how long the run waits for the lock. -/
def setLockWait (i : Invocation) (wait : Duration) : Invocation :=
  { i with context.lockWait := wait }

/-- Gives a run up: the lock is given back. -/
def cancel (i : Invocation) (h : Host) : Host := (Session.releaseLock ⟨i.context, h⟩).host

end Invocation

namespace Suspension

/-- Goes on after the sleep. -/
def resume (fuel : Nat) (s : Suspension) (h : Host) : Outcome × Host := s.invocation.run fuel h

/-- Gives the run up: the lock is given back. -/
def cancel (s : Suspension) (h : Host) : Host := s.invocation.cancel h

/-- Sets how long the run waits for the lock. -/
def setLockWait (s : Suspension) (wait : Duration) : Suspension :=
  { s with invocation := s.invocation.setLockWait wait }

/-- The name of the script. -/
def scriptName (s : Suspension) : String := s.invocation.script.name

end Suspension

end LineScript
