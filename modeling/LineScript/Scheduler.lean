import LineScript.Invocation

/-!
**Scheduling.**

The scheduler holds runs that sleep and scripts that are to be run at intervals.  At any time the
host can have all that is due executed.  Since all of it is executed in turn, a sleeping run could
never give the lock back to one that waits for it; so no run that the scheduler executes waits for
the lock.

Nothing can be due after the last instant.  An operation that would have to hold such a job breaks
down: it ends where it is, and gives up what it has in hand.

Main definitions:

* `LineScript.Job`, `LineScript.Entry`, `LineScript.Scheduler` — what is held, and when it is due;
* `LineScript.Scheduler.addSuspension`, `LineScript.Scheduler.addPeriodic` — adds to it;
* `LineScript.Scheduler.cancel`, `LineScript.Scheduler.cancelAll` — gives up;
* `LineScript.nextTick?` — when an interval is next complete;
* `LineScript.Job.begin` — **the run that a job stands for**;
* `LineScript.Scheduler.runReady` — **executes all that is due**.
-/

set_option autoImplicit false

namespace LineScript

/-- What is to be executed. -/
inductive Job where
  /-- a run that sleeps -/
  | resume (s : Suspension)
  /-- a script that is run at intervals -/
  | periodic (script : Script) (inputs : Inputs) (interval : Duration) (pos : 0 < interval.nanos)

namespace Job

/-- The name of the script. -/
def scriptName : Job → String
  | resume s => s.scriptName
  | periodic script _ _ _ => script.name

/-- Gives the job up. -/
def cancel (j : Job) (h : Host) : Host :=
  match j with
  | resume s => s.cancel h
  | periodic _ _ _ _ => h

/-- **The run that a job stands for**: the one that sleeps, or a new one of the script, if it can be
started without arguments.  It does not wait for the lock. -/
def begin (j : Job) (h : Host) : Option Invocation × Host :=
  match j with
  | resume s => (some s.invocation, h)
  | periodic script inputs _ _ =>
    match Invocation.start script inputs "" h with
    | (.ok i, h) => (some (i.setLockWait .zero), h)
    | (.error _, h) => (none, h)

end Job

/-- A job and when it is due. -/
structure Entry where
  id : Nat
  job : Job
  due : Instant

/-- The jobs that are held, in the order in which they came. -/
structure Scheduler where
  entries : List Entry := []
  nextId : Nat := 1

/-- The first time after `now` at which an interval is complete, counted from a time at which one
was, if the clock comes to it. -/
def nextTick? (interval : Duration) (pos : 0 < interval.nanos) (now time : Instant) : Option Instant :=
  if time ≤ now then
    match _h : time.after? interval with
    | some later => nextTick? interval pos now later
    | none => none
  else some time
termination_by now.nanos + 1 - time.nanos
decreasing_by
  have hle : time.nanos ≤ now.nanos := by assumption
  have hlater := Instant.after?_eq_some_iff.1 _h
  omega

/-- What is still held of a job once it is executed: a script that is run at intervals is due again
when the next one is complete, if the clock comes to that. -/
def Entry.again? (e : Entry) (now : Instant) : Option (List Entry) :=
  match e.job with
  | .resume _ => some []
  | .periodic _ _ interval pos =>
    ((e.due.after? interval).bind (nextTick? interval pos now)).map fun due => [{ e with due }]

namespace Scheduler

/-- No jobs. -/
def empty : Scheduler := {}

/-! ### Adding -/

/-- Holds a run that sleeps under an id, unless its sleep is to end after the last instant. -/
def park (c : Scheduler) (id : Nat) (s : Suspension) (now : Instant) : Option Scheduler :=
  (now.after? s.delay).map fun due =>
    { c with entries := c.entries ++ [⟨id, .resume (s.setLockWait .zero), due⟩] }

/-- Holds a run that sleeps under a new id.  If it cannot be held the id is used up. -/
def addSuspension (c : Scheduler) (s : Suspension) (now : Instant) : Option Nat × Scheduler :=
  let numbered := { c with nextId := c.nextId + 1 }
  match numbered.park c.nextId s now with
  | some parked => (some c.nextId, parked)
  | none => (none, numbered)

/-- What comes of a script that is to be run at intervals. -/
inductive Registration where
  | held (id : Nat)
  /-- the script has no interval -/
  | noInterval
  /-- the first interval is complete after the last instant -/
  | brokeDown
deriving DecidableEq

/-- Holds a script that is run at intervals, if it has any. -/
def addPeriodic (c : Scheduler) (script : Script) (inputs : Inputs) (now : Instant) :
    Registration × Scheduler :=
  if h : script.triggers.interval = 0 then (.noInterval, c)
  else
    let interval := Duration.ofSeconds script.triggers.interval
    let numbered := { c with nextId := c.nextId + 1 }
    match now.after? interval with
    | some due =>
      let job : Job := .periodic script inputs interval (Duration.nanos_ofSeconds_pos h)
      (.held c.nextId, { numbered with entries := c.entries ++ [⟨c.nextId, job, due⟩] })
    | none => (.brokeDown, numbered)

/-! ### Giving up -/

/-- Gives up the job of an id, if there is one. -/
def cancel (c : Scheduler) (id : Nat) (h : Host) : Option (Scheduler × Host) :=
  match c.entries.find? (·.id == id) with
  | none => none
  | some e => some ({ c with entries := c.entries.eraseP (·.id == id) }, e.job.cancel h)

/-- Gives up entries that are held no more. -/
def giveUp (es : List Entry) (h : Host) : Host := es.foldl (fun h e => e.job.cancel h) h

/-- Gives up all jobs. -/
def cancelAll (c : Scheduler) (h : Host) : Scheduler × Host := ({ c with entries := [] }, giveUp c.entries h)

/-! ### What is due -/

/-- When the next job is due. -/
def nextDue? (c : Scheduler) : Option Instant :=
  match c.entries.map Entry.due with
  | [] => none
  | t :: ts => some (ts.foldl min t)

/-- Takes out the jobs that are due. -/
def takeReady (c : Scheduler) (now : Instant) : List Entry × Scheduler :=
  let (ready, pending) := c.entries.partition fun e => e.due ≤ now
  (ready, { c with entries := pending })

/-- Holds the run of an entry, which sleeps: under the id of the entry if the run slept before, and
under a new one if it is that of a script that is run at intervals. -/
def shelve (c : Scheduler) (e : Entry) (s : Suspension) (now : Instant) : Bool × Scheduler :=
  match e.job with
  | .resume _ =>
    match c.park e.id s now with
    | some c => (true, c)
    | none => (false, c)
  | .periodic _ _ _ _ =>
    let (id, c) := c.addSuspension s now
    (id.isSome, c)

/-- What is reported of an operation, if it did not break down, and then the jobs and the host. -/
abbrev Result := Option (List (Nat × Outcome)) × Scheduler × Host

/-- Executes a job.  A run that sleeps is held, and so is a script that is run at intervals, whatever
comes of its run; what comes to completion is reported.  If any of this breaks down, the job is held
no more. -/
def runEntry (fuel : Nat) (now : Instant) (c : Scheduler) (h : Host) (e : Entry) : Result :=
  match e.again? now with
  | none => (none, c, h)
  | some again =>
    let hold (c : Scheduler) : Scheduler := { c with entries := c.entries ++ again }
    match e.job.begin h with
    | (none, h) => (some [], hold c, h)
    | (some i, h) =>
      match i.run fuel h with
      | (.suspended s, h) =>
        match c.shelve e s now with
        | (true, c) => (some [], hold c, h)
        | (false, c) => (none, c, s.cancel h)
      | (o, h) => if o.isBreakdown then (none, c, h) else (some [(e.id, o)], hold c, h)

/-- Executes jobs one after the other.  If one breaks down, those after it are given up. -/
def runEntries (fuel : Nat) (now : Instant) (c : Scheduler) (h : Host) : List Entry → Result
  | [] => (some [], c, h)
  | e :: es =>
    match c.runEntry fuel now h e with
    | (none, c, h) => (none, c, giveUp es h)
    | (some done, c, h) =>
      let (more, c, h) := c.runEntries fuel now h es
      (more.map (done ++ ·), c, h)

/-- **Executes all that is due**, in the order in which it is held; what came to completion, by
id. -/
def runReady (fuel : Nat) (c : Scheduler) (h : Host) (now : Instant) : Result :=
  let (ready, c) := c.takeReady now
  c.runEntries fuel now h ready

end Scheduler

end LineScript
