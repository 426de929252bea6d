import LineScript.Proofs.Filing

/-!
**A host and all its runs.**

A host has runs that sleep: some it keeps itself, others are parked in the scheduler.  Whatever it
does with them it does one thing at a time: it starts a script and runs it until it stops, resumes a
run or gives it up, hands a run to the scheduler, lets the scheduler execute or give up what it
holds.  Between two such steps no statement is half executed.  This module has these steps as a
relation on the state of the host and its runs, so that what holds in every state the host can come
to is proved step by step.

A step is made only of runs that come to an outcome: a run that never stops is a step that is never
finished.  An operation of the scheduler that breaks down is a step too, and the host goes on with what it
has left.

Main definitions:

* `LineScript.World` — the host, the runs that it keeps itself, and the scheduler;
* `LineScript.World.live` — the contexts of all runs that sleep;
* `LineScript.World.Step` — **one thing that a host does**;
* `LineScript.World.Reachable` — where it comes by any number of steps.

Main result:

* `LineScript.World.Reachable.invariant` — what the start has and every step keeps, every state has.
-/

set_option autoImplicit false

namespace LineScript

/-! ### Outcomes -/

/-- The run has come to an outcome. -/
def Outcome.Finished : Outcome → Prop
  | unfinished _ => False
  | _ => True

instance (o : Outcome) : Decidable o.Finished :=
  match o with
  | .unfinished _ => inferInstanceAs (Decidable False)
  | .completed _ _ => inferInstanceAs (Decidable True)
  | .suspended _ => inferInstanceAs (Decidable True)

/-- What is left of a run that sleeps. -/
def Outcome.sleeping : Outcome → List Suspension
  | suspended s => [s]
  | _ => []

/-! ### Runs that sleep -/

/-- The contexts that a job keeps alive: the one of a run that sleeps. -/
def Job.contexts : Job → List Context
  | resume s => [s.invocation.context]
  | periodic _ _ _ _ => []

/-- The contexts that jobs keep alive. -/
def contextsOf (es : List Entry) : List Context := es.flatMap fun e => e.job.contexts

@[simp] theorem contextsOf_nil : contextsOf [] = [] := rfl

@[simp] theorem contextsOf_cons (e : Entry) (es : List Entry) :
    contextsOf (e :: es) = e.job.contexts ++ contextsOf es := rfl

@[simp] theorem contextsOf_append (es fs : List Entry) :
    contextsOf (es ++ fs) = contextsOf es ++ contextsOf fs := List.flatMap_append

/-- The contexts that the scheduler keeps alive. -/
def Scheduler.contexts (c : Scheduler) : List Context := contextsOf c.entries

/-- A host and all its runs. -/
structure World where
  host : Host
  /-- the runs that the host keeps itself -/
  kept : List Suspension := []
  scheduler : Scheduler := .empty

namespace World

/-- The contexts of all runs that sleep. -/
def live (w : World) : List Context :=
  w.kept.map (fun s => s.invocation.context) ++ w.scheduler.contexts

/-! ### Steps -/

/-- **One thing that a host does.** -/
inductive Step (w : World) : World → Prop
  /-- starts a script and runs it until it stops; how long it waits for the lock is up to the host -/
  | start {script : Script} {inputs : Inputs} {arguments : String} {i : Invocation} {h h' : Host}
      {wait : Duration} {fuel : Nat} {o : Outcome}
      (bound : Invocation.start script inputs arguments w.host = (.ok i, h))
      (run : (i.setLockWait wait).run fuel h = (o, h')) (finished : o.Finished) :
      Step w { w with host := h', kept := o.sleeping ++ w.kept }
  /-- tries to start a script whose arguments cannot be bound -/
  | refuse {script : Script} {inputs : Inputs} {arguments : String} {e : BindError} {h : Host}
      (unbound : Invocation.start script inputs arguments w.host = (.error e, h)) :
      Step w { w with host := h }
  /-- resumes a run until it stops -/
  | resume {before after : List Suspension} {s : Suspension} {wait : Duration} {h : Host}
      {fuel : Nat} {o : Outcome} (kept : w.kept = before ++ s :: after)
      (run : (s.setLockWait wait).resume fuel w.host = (o, h)) (finished : o.Finished) :
      Step w { w with host := h, kept := before ++ o.sleeping ++ after }
  /-- gives a run up, by cancelling or by dropping it -/
  | cancel {before after : List Suspension} {s : Suspension} (kept : w.kept = before ++ s :: after) :
      Step w { w with host := s.cancel w.host, kept := before ++ after }
  /-- hands a run to the scheduler -/
  | park {before after : List Suspension} {s : Suspension} {now : Instant} {id : Nat} {c : Scheduler}
      (kept : w.kept = before ++ s :: after) (added : w.scheduler.addSuspension s now = (some id, c)) :
      Step w { w with kept := before ++ after, scheduler := c }
  /-- tries to, and the run is given up since it is to sleep until after the last instant -/
  | parkBreaks {before after : List Suspension} {s : Suspension} {now : Instant} {c : Scheduler}
      (kept : w.kept = before ++ s :: after) (broke : w.scheduler.addSuspension s now = (none, c)) :
      Step w { host := s.cancel w.host, kept := before ++ after, scheduler := c }
  /-- has the scheduler run a script at intervals, or tries to -/
  | addPeriodic {script : Script} {inputs : Inputs} {now : Instant} {r : Scheduler.Registration} {c : Scheduler}
      (added : w.scheduler.addPeriodic script inputs now = (r, c)) : Step w { w with scheduler := c }
  /-- gives up one job of the scheduler -/
  | cancelJob {id : Nat} {c : Scheduler} {h : Host}
      (cancelled : w.scheduler.cancel id w.host = some (c, h)) :
      Step w { w with host := h, scheduler := c }
  /-- gives up all jobs of the scheduler -/
  | cancelAll :
      Step w { w with
        host := (w.scheduler.cancelAll w.host).2
        scheduler := (w.scheduler.cancelAll w.host).1 }
  /-- takes out what is due and drops it -/
  | dropReady (now : Instant) :
      Step w { w with
        host := Scheduler.giveUp (w.scheduler.takeReady now).1 w.host
        scheduler := (w.scheduler.takeReady now).2 }
  /-- has the scheduler execute what is due -/
  | runReady {now : Instant} {fuel : Nat} {done : Option (List (Nat × Outcome))} {c : Scheduler} {h : Host}
      (run : w.scheduler.runReady fuel w.host now = (done, c, h))
      (finished : ∀ r ∈ w.scheduler.runs fuel w.host now, (r.1.run fuel r.2).1.Finished) :
      Step w { w with host := h, scheduler := c }
  /-- time passes, and whatever else the host does that does not touch the storage -/
  | meanwhile {h : Host} (storage : h.storage = w.host.storage) : Step w { w with host := h }

/-- Where a host comes by any number of steps. -/
inductive Reachable (start : World) : World → Prop
  | start : Reachable start start
  | step {w w' : World} (before : Reachable start w) (step : w.Step w') : Reachable start w'

/-- What the start has and every step keeps, every state has. -/
theorem Reachable.invariant {P : World → Prop} {start w : World} (init : P start)
    (kept : ∀ {w w'}, Step w w' → P w → P w') (reached : Reachable start w) : P w := by
  induction reached with
  | start => exact init
  | step _ step ih => exact kept step ih

end World

end LineScript
