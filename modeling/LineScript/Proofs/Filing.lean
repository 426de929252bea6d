import LineScript.Scheduler

/-!
**Executing and filing.**

The scheduler executes what is due one job after the other and files what is left of each before it
turns to the next.  This module takes the two apart.  Executing a job says nothing of the table: the run
that the job stands for is run.  Filing says nothing of the host: what is held afterwards depends on the
jobs and on what came of each.  So a call is a log of the jobs that were due, each with what came of it,
and the table is read off the log.  If it breaks down at a job, the log ends before that job, and what
comes after it is given up.

Main definitions:

* `LineScript.Job.execute` — executes a job once;
* `LineScript.Upshot` — what comes of it;
* `LineScript.Executes` — jobs executed one after the other;
* `LineScript.filed?`, `LineScript.minted` — what is held afterwards, and how many ids that takes;
* `LineScript.Scheduler.Serves` — **all that executing a job for the scheduler can come to**;
* `LineScript.Scheduler.runs` — the runs that a call executes.

Main results:

* `LineScript.Scheduler.serves_runEntry` — it comes to one of the things listed;
* `LineScript.Scheduler.runReady_log` — **each job that is due is executed once and no other, and what is
  held afterwards is what was not due and what is filed**, unless the call breaks down at one of them;
* `LineScript.Scheduler.mem_runs_iff` — a run is executed just if the jobs before it did not break down.
-/

set_option autoImplicit false

namespace LineScript

/-! ### Executing -/

/-- Is it a run that sleeps? -/
def Job.isRun : Job → Bool
  | resume _ => true
  | periodic _ _ _ _ => false

/-- What comes of a job that is executed. -/
inductive Upshot where
  /-- the run has stopped, which is reported -/
  | reported (o : Outcome)
  /-- the run sleeps -/
  | sleeps (s : Suspension)
  /-- there is no run, since the script could not be started -/
  | unbound

namespace Upshot

/-- Does the run sleep? -/
def isSleep : Upshot → Bool
  | sleeps _ => true
  | _ => false

/-- What is reported of a job. -/
def report (id : Nat) : Upshot → List (Nat × Outcome)
  | reported o => [(id, o)]
  | _ => []

/-- Gives up what is left of the run. -/
def drop (u : Upshot) (h : Host) : Host :=
  match u with
  | sleeps s => s.cancel h
  | _ => h

end Upshot

/-- What an outcome is to the scheduler. -/
def Outcome.upshot : Outcome → Upshot
  | suspended s => .sleeps s
  | o => .reported o

/-- **Executes a job once**: the run that it stands for, if there is one. -/
def Job.execute (fuel : Nat) (h : Host) (j : Job) : Upshot × Host :=
  match j.begin h with
  | (none, h) => (.unbound, h)
  | (some i, h) => ((i.run fuel h).1.upshot, (i.run fuel h).2)

/-- Jobs are executed one after the other, each once, and nothing else happens to the host. -/
inductive Executes (fuel : Nat) : Host → List (Entry × Upshot) → Host → Prop
  | nil (h : Host) : Executes fuel h [] h
  | cons {h g f : Host} {e : Entry} {u : Upshot} {log : List (Entry × Upshot)}
      (first : e.job.execute fuel h = (u, g)) (rest : Executes fuel g log f) :
      Executes fuel h ((e, u) :: log) f

/-- A run that is resumed was started before. -/
theorem Job.ne_unbound_of_isRun {j : Job} (run : j.isRun = true) {fuel : Nat} {h g : Host} {u : Upshot}
    (executed : j.execute fuel h = (u, g)) : u ≠ .unbound := by
  cases j with
  | periodic _ _ _ _ => cases run
  | resume s =>
      rintro rfl
      have upshot : (s.invocation.run fuel h).1.upshot = .unbound := congrArg Prod.fst executed
      cases ho : (s.invocation.run fuel h).1 <;> simp [ho, Outcome.upshot] at upshot

/-! ### Filing -/

/-- A run that sleeps, as it is held until some time. -/
def Suspension.entry (s : Suspension) (id : Nat) (due : Instant) : Entry :=
  ⟨id, .resume (s.setLockWait .zero), due⟩

namespace Entry

/-- The id under which a run of the job is held that sleeps, if the next new id is `n`. -/
def runId (e : Entry) (n : Nat) : Nat := if e.job.isRun then e.id else n

/-- What is filed of a job that was executed, if the next new id is `n` and it does not break down. -/
def files? (e : Entry) (now : Instant) (n : Nat) : Upshot → Option (List Entry)
  | .reported o => if o.isBreakdown then none else e.again? now
  | .sleeps s => do
    let due ← now.after? s.delay
    let again ← e.again? now
    return s.entry (e.runId n) due :: again
  | .unbound => e.again? now

/-- How many new ids that takes. -/
def mints (e : Entry) : Upshot → Nat
  | .sleeps _ => if e.job.isRun then 0 else 1
  | _ => 0

end Entry

/-- What is filed of jobs that were executed one after the other. -/
def filed? (now : Instant) : Nat → List (Entry × Upshot) → Option (List Entry)
  | _, [] => some []
  | n, (e, u) :: log => do
    let first ← e.files? now n u
    let rest ← filed? now (n + e.mints u) log
    return first ++ rest

/-- How many new ids that takes. -/
def minted : List (Entry × Upshot) → Nat
  | [] => 0
  | (e, u) :: log => e.mints u + minted log

/-- What is reported of them. -/
def reports (log : List (Entry × Upshot)) : List (Nat × Outcome) :=
  log.flatMap fun x => x.2.report x.1.id

@[simp] theorem minted_nil : minted [] = 0 := rfl

@[simp] theorem minted_cons (e : Entry) (u : Upshot) (log : List (Entry × Upshot)) :
    minted ((e, u) :: log) = e.mints u + minted log := rfl

@[simp] theorem reports_cons (e : Entry) (u : Upshot) (log : List (Entry × Upshot)) :
    reports ((e, u) :: log) = u.report e.id ++ reports log := rfl

theorem filed?_cons {now : Instant} {n : Nat} {e : Entry} {u : Upshot} {log : List (Entry × Upshot)}
    {new : List Entry} (h : filed? now n ((e, u) :: log) = some new) :
    ∃ first rest, e.files? now n u = some first ∧ filed? now (n + e.mints u) log = some rest ∧
      new = first ++ rest := by
  obtain ⟨first, hfirst, h⟩ := Option.bind_eq_some_iff.1 h
  obtain ⟨rest, hrest, h⟩ := Option.bind_eq_some_iff.1 h
  exact ⟨first, rest, hfirst, hrest, (Option.some.inj h).symm⟩

/-- A script is run again later. -/
theorem lt_of_nextTick? {interval : Duration} {pos : 0 < interval.nanos} {now time tick : Instant}
    (next : nextTick? interval pos now time = some tick) : now < tick := by
  fun_induction nextTick? interval pos now time with
  | case1 time due later _ ih => exact ih next
  | case2 time due none => cases next
  | case3 time later =>
      cases next
      exact Nat.lt_of_not_le later

namespace Entry

variable {e : Entry} {now : Instant} {n : Nat} {u : Upshot} {new again : List Entry}

/-- **What is still held of a job once it is executed**: of a run nothing, and a script is due again
later. -/
theorem again?_eq_some (h : e.again? now = some again) :
    e.job.isRun = true ∧ again = [] ∨
      e.job.isRun = false ∧ ∃ due, now < due ∧ again = [{ e with due }] := by
  unfold again? at h
  split at h
  · rename_i s job
    cases h
    exact .inl ⟨by rw [job]; rfl, rfl⟩
  · rename_i script inputs interval pos job
    obtain ⟨due, tick, rfl⟩ := Option.map_eq_some_iff.1 h
    obtain ⟨_, _, next⟩ := Option.bind_eq_some_iff.1 tick
    exact .inr ⟨by rw [job]; rfl, due, lt_of_nextTick? next, rfl⟩

/-- **What is filed of a job**: its run, if that sleeps, and what is still held of it. -/
theorem files?_eq_some (h : e.files? now n u = some new) :
    ∃ again, e.again? now = some again ∧
      (u.isSleep = false ∧ new = again ∨
        ∃ s due, u = .sleeps s ∧ now.after? s.delay = some due ∧ new = s.entry (e.runId n) due :: again) := by
  cases u with
  | reported o =>
      simp only [files?] at h
      split at h
      · cases h
      · exact ⟨new, h, .inl ⟨rfl, rfl⟩⟩
  | unbound => exact ⟨new, h, .inl ⟨rfl, rfl⟩⟩
  | sleeps s =>
      obtain ⟨due, later, h⟩ := Option.bind_eq_some_iff.1 h
      obtain ⟨again, still, h⟩ := Option.bind_eq_some_iff.1 h
      exact ⟨again, still, .inr ⟨s, due, rfl, later, (Option.some.inj h).symm⟩⟩

/-- **What cannot be filed**: a run that broke down, and one that sleeps beyond the last instant. -/
theorem files?_eq_none (still : (e.again? now).isSome = true) (h : e.files? now n u = none) :
    (∃ values, u = .reported (.completed .brokeDown values)) ∨
      ∃ s, u = .sleeps s ∧ now.after? s.delay = none := by
  obtain ⟨again, is⟩ := Option.isSome_iff_exists.1 still
  cases u with
  | reported o =>
      simp only [files?, is] at h
      split at h
      · rename_i broke
        unfold Outcome.isBreakdown at broke
        split at broke
        · exact .inl ⟨_, rfl⟩
        · cases broke
      · cases h
  | unbound =>
      rw [files?, is] at h
      cases h
  | sleeps s =>
      refine .inr ⟨s, rfl, ?_⟩
      cases due : now.after? s.delay with
      | none => rfl
      | some due' => simp [files?, due, is] at h

end Entry

namespace Scheduler

/-! ### Adding -/

/-- **A run is held until its sleep is over**, unless that is after the last instant. -/
theorem addSuspension_cases (c : Scheduler) (s : Suspension) (now : Instant) :
    (now.after? s.delay = none ∧ c.addSuspension s now = (none, ⟨c.entries, c.nextId + 1⟩)) ∨
      ∃ due, now.after? s.delay = some due ∧
        c.addSuspension s now = (some c.nextId, ⟨c.entries ++ [s.entry c.nextId due], c.nextId + 1⟩) := by
  unfold addSuspension park
  cases due : now.after? s.delay with
  | none => exact .inl ⟨rfl, rfl⟩
  | some due' => exact .inr ⟨due', rfl, rfl⟩

/-- **A script is held if it has an interval**, and the first is complete by the last instant. -/
theorem addPeriodic_cases (c : Scheduler) (script : Script) (inputs : Inputs) (now : Instant) :
    (script.triggers.interval = 0 ∧ c.addPeriodic script inputs now = (.noInterval, c)) ∨
    ∃ h : script.triggers.interval ≠ 0,
      (now.after? (.ofSeconds script.triggers.interval) = none ∧
        c.addPeriodic script inputs now = (.brokeDown, ⟨c.entries, c.nextId + 1⟩)) ∨
      ∃ due, now.after? (.ofSeconds script.triggers.interval) = some due ∧
        c.addPeriodic script inputs now = (.held c.nextId, ⟨c.entries ++ [⟨c.nextId,
          .periodic script inputs _ (Duration.nanos_ofSeconds_pos h), due⟩], c.nextId + 1⟩) := by
  unfold addPeriodic
  by_cases h : script.triggers.interval = 0
  · exact .inl ⟨h, dif_pos h⟩
  · refine .inr ⟨h, ?_⟩
    rw [dif_neg h]
    dsimp only
    cases due : now.after? (.ofSeconds script.triggers.interval) with
    | none => exact .inl ⟨rfl, rfl⟩
    | some due' => exact .inr ⟨due', rfl, rfl⟩

/-! ### One job -/

/-- **All that executing a job for the scheduler can come to.** -/
inductive Serves (fuel : Nat) (now : Instant) (c : Scheduler) (h : Host) (e : Entry) : Result → Prop
  /-- it would be due again after the last instant, and is not executed -/
  | overdue (never : e.again? now = none) : Serves fuel now c h e (none, c, h)
  /-- it is executed, and what is left of it is filed -/
  | filed {u : Upshot} {g : Host} {new : List Entry} (executed : e.job.execute fuel h = (u, g))
      (files : e.files? now c.nextId u = some new) :
      Serves fuel now c h e (some (u.report e.id), ⟨c.entries ++ new, c.nextId + e.mints u⟩, g)
  /-- it is executed, and what is left of it cannot be filed -/
  | broke {u : Upshot} {g : Host} (still : (e.again? now).isSome = true)
      (executed : e.job.execute fuel h = (u, g)) (files : e.files? now c.nextId u = none) :
      Serves fuel now c h e (none, ⟨c.entries, c.nextId + e.mints u⟩, u.drop g)

theorem shelve_eq (c : Scheduler) (e : Entry) (s : Suspension) (now : Instant) :
    c.shelve e s now = match now.after? s.delay with
      | some due => (true, ⟨c.entries ++ [s.entry (e.runId c.nextId) due], c.nextId + e.mints (.sleeps s)⟩)
      | none => (false, ⟨c.entries, c.nextId + e.mints (.sleeps s)⟩) := by
  unfold shelve
  cases job : e.job <;> cases due : now.after? s.delay <;>
    simp [addSuspension, park, due, Entry.runId, Entry.mints, job, Job.isRun, Suspension.entry]

/-- **Executing a job for the scheduler comes to one of the things listed.** -/
theorem serves_runEntry (fuel : Nat) (now : Instant) (c : Scheduler) (h : Host) (e : Entry) :
    Serves fuel now c h e (c.runEntry fuel now h e) := by
  unfold runEntry
  cases still : e.again? now with
  | none => exact .overdue still
  | some again =>
      have isSome : (e.again? now).isSome = true := by rw [still]; rfl
      rcases begins : e.job.begin h with ⟨_ | i, g⟩
      · have executed : e.job.execute fuel h = (.unbound, g) := by simp only [Job.execute, begins]
        exact .filed executed still
      · rcases run : i.run fuel g with ⟨o, f⟩
        have executed : e.job.execute fuel h = (o.upshot, f) := by simp only [Job.execute, begins, run]
        simp only [run]
        cases o with
        | suspended s =>
            simp only [shelve_eq]
            cases due : now.after? s.delay with
            | none => exact .broke isSome executed (by simp [Entry.files?, due])
            | some due' =>
                have files : e.files? now c.nextId (.sleeps s) =
                    some ([s.entry (e.runId c.nextId) due'] ++ again) := by
                  simp [Entry.files?, due, still]
                have served := Serves.filed executed files
                rw [← List.append_assoc] at served
                exact served
        | unfinished j => exact .filed executed still
        | completed τ values =>
            simp only
            split
            · rename_i broke
              exact .broke isSome executed (by simp [Entry.files?, Outcome.upshot, broke])
            · rename_i sound
              exact .filed executed (by simp [Entry.files?, Outcome.upshot, sound, still])

/-- The job breaks the call down: it would be due again after the last instant, or its run breaks down or
is to sleep until after it. -/
def Halts (fuel : Nat) (now : Instant) (h : Host) (e : Entry) : Prop :=
  e.again? now = none ∨
    ∃ u g, e.job.execute fuel h = (u, g) ∧
      ((∃ values, u = .reported (.completed .brokeDown values)) ∨
        ∃ s, u = .sleeps s ∧ now.after? s.delay = none)

/-! ### Calls -/

/-- The jobs that are due. -/
def ready (c : Scheduler) (now : Instant) : List Entry := c.entries.filter fun e => decide (e.due ≤ now)

/-- The jobs that are not. -/
def pending (c : Scheduler) (now : Instant) : List Entry := c.entries.filter fun e => !decide (e.due ≤ now)

theorem takeReady_eq (c : Scheduler) (now : Instant) :
    c.takeReady now = (c.ready now, ⟨c.pending now, c.nextId⟩) := by
  simp only [takeReady, List.partition_eq_filter_filter]
  rfl

theorem mem_ready {c : Scheduler} {now : Instant} {e : Entry} :
    e ∈ c.ready now ↔ e ∈ c.entries ∧ e.due ≤ now := by
  simp [ready]

theorem mem_pending {c : Scheduler} {now : Instant} {e : Entry} :
    e ∈ c.pending now ↔ e ∈ c.entries ∧ ¬ e.due ≤ now := by
  simp [pending]

theorem ready_append_pending_perm (c : Scheduler) (now : Instant) :
    (c.ready now ++ c.pending now).Perm c.entries := List.filter_append_perm ..

/-- **Jobs are executed one after the other**, each is executed once, and what is left of it is filed.  If
one breaks down, those before it are filed, and it and those after it are held no more. -/
theorem runEntries_log (fuel : Nat) (now : Instant) (c : Scheduler) (h : Host) (es : List Entry) :
    ∃ log new g, Executes fuel h log g ∧ filed? now c.nextId log = some new ∧
      (log.map Prod.fst = es ∧
          c.runEntries fuel now h es =
            (some (reports log), ⟨c.entries ++ new, c.nextId + minted log⟩, g) ∨
        ∃ e rest n f, es = log.map Prod.fst ++ e :: rest ∧ Halts fuel now g e ∧ c.nextId + minted log ≤ n ∧
          c.runEntries fuel now h es = (none, ⟨c.entries ++ new, n⟩, f)) := by
  induction es generalizing c h with
  | nil => exact ⟨[], [], h, .nil h, rfl, .inl ⟨rfl, by simp [runEntries, reports]⟩⟩
  | cons e es ih =>
      have halts : ∀ {n f}, Halts fuel now h e → c.nextId ≤ n →
          c.runEntry fuel now h e = (none, ⟨c.entries, n⟩, f) →
          ∃ log new g, Executes fuel h log g ∧ filed? now c.nextId log = some new ∧
            (log.map Prod.fst = e :: es ∧ c.runEntries fuel now h (e :: es) =
                (some (reports log), ⟨c.entries ++ new, c.nextId + minted log⟩, g) ∨
              ∃ e' rest n f, e :: es = log.map Prod.fst ++ e' :: rest ∧ Halts fuel now g e' ∧
                c.nextId + minted log ≤ n ∧
                c.runEntries fuel now h (e :: es) = (none, ⟨c.entries ++ new, n⟩, f)) := by
        intro n f why grown entry
        refine ⟨[], [], h, .nil h, rfl, .inr ⟨e, es, n, giveUp es f, rfl, why, grown, ?_⟩⟩
        simp only [runEntries, entry, List.append_nil]
      have serves := serves_runEntry fuel now c h e
      rcases entry : c.runEntry fuel now h e with ⟨done, d, f⟩
      rw [entry] at serves
      cases serves with
      | overdue never => exact halts (.inl never) (Nat.le_refl _) entry
      | broke still executed files =>
          exact halts (.inr ⟨_, _, executed, Entry.files?_eq_none still files⟩) (Nat.le_add_right ..) entry
      | @filed u _ first executed files =>
          obtain ⟨log, new, g, executes, filed, ends⟩ := ih ⟨c.entries ++ first, c.nextId + e.mints u⟩ f
          refine ⟨(e, u) :: log, first ++ new, g, .cons executed executes, by simp [filed?, files, filed], ?_⟩
          simp only [runEntries, entry, ← List.append_assoc, minted_cons, reports_cons, ← Nat.add_assoc]
          rcases ends with ⟨jobs, result⟩ | ⟨e', rest, n, f', jobs, why, grown, result⟩
          · exact .inl ⟨by simp [jobs], by rw [result]; rfl⟩
          · exact .inr ⟨e', rest, n, f', by simp [jobs], why, grown, by rw [result]; rfl⟩

/-- **Each job that is due is executed once and no other**, and what is held afterwards is what was not
due and what is filed, unless the call breaks down at one of them. -/
theorem runReady_log (fuel : Nat) (c : Scheduler) (h : Host) (now : Instant) :
    ∃ log new g, Executes fuel h log g ∧ filed? now c.nextId log = some new ∧
      (log.map Prod.fst = c.ready now ∧
          c.runReady fuel h now =
            (some (reports log), ⟨c.pending now ++ new, c.nextId + minted log⟩, g) ∨
        ∃ e rest n f, c.ready now = log.map Prod.fst ++ e :: rest ∧ Halts fuel now g e ∧
          c.nextId + minted log ≤ n ∧ c.runReady fuel h now = (none, ⟨c.pending now ++ new, n⟩, f)) := by
  rw [runReady, takeReady_eq]
  exact runEntries_log fuel now ⟨c.pending now, c.nextId⟩ h (c.ready now)

/-! ### The runs of a call -/

end Scheduler

/-- The run that is executed when the turn of a job comes, and the host on which it begins. -/
def Entry.run? (e : Entry) (now : Instant) (h : Host) : Option (Invocation × Host) :=
  if (e.again? now).isSome then (e.job.begin h).1.map (·, (e.job.begin h).2) else none

theorem Entry.run?_eq_some {e : Entry} {now : Instant} {h g : Host} {i : Invocation} :
    e.run? now h = some (i, g) ↔ (e.again? now).isSome = true ∧ e.job.begin h = (some i, g) := by
  unfold run?
  rcases e.job.begin h with ⟨_ | j, f⟩ <;> cases (e.again? now).isSome <;> simp

namespace Scheduler

/-- The runs that are executed when jobs are, each with the host on which it begins. -/
def runsOf (fuel : Nat) (now : Instant) : Scheduler → Host → List Entry → List (Invocation × Host)
  | _, _, [] => []
  | c, h, e :: es =>
    (e.run? now h).toList ++
      match c.runEntry fuel now h e with
      | (some _, c, h) => runsOf fuel now c h es
      | (none, _, _) => []

/-- **The runs that a call executes** which executes all that is due. -/
def runs (fuel : Nat) (c : Scheduler) (h : Host) (now : Instant) : List (Invocation × Host) :=
  runsOf fuel now (c.takeReady now).2 h (c.takeReady now).1

theorem mem_runsOf_iff {fuel : Nat} {now : Instant} {c : Scheduler} {h : Host} {es : List Entry}
    {r : Invocation × Host} :
    r ∈ runsOf fuel now c h es ↔
      ∃ before e after done d g, es = before ++ e :: after ∧
        c.runEntries fuel now h before = (some done, d, g) ∧ e.run? now g = some r := by
  induction es generalizing c h with
  | nil => simp [runsOf]
  | cons first rest ih =>
      rw [runsOf, List.mem_append, Option.mem_toList]
      rcases entry : c.runEntry fuel now h first with ⟨_ | done, d, g⟩
      · -- the jobs after the first have no turn
        refine ⟨fun mem => ?_, fun ⟨before, e, after, done, d', g', split, ran, begins⟩ => .inl ?_⟩
        · exact ⟨[], first, rest, [], c, h, rfl, rfl, mem.resolve_right List.not_mem_nil⟩
        · cases before with
          | nil =>
              cases split
              cases ran
              exact begins
          | cons e' before =>
              cases split
              simp [runEntries, entry] at ran
      · simp only [ih]
        constructor
        · rintro (here | ⟨before, e, after, more, d', g', rfl, ran, begins⟩)
          · exact ⟨[], first, rest, [], c, h, rfl, rfl, here⟩
          · exact ⟨first :: before, e, after, done ++ more, d', g', rfl, by simp [runEntries, entry, ran],
              begins⟩
        · rintro ⟨before, e, after, all, d', g', split, ran, begins⟩
          cases before with
          | nil =>
              cases split
              cases ran
              exact .inl begins
          | cons e' before =>
              cases split
              simp only [runEntries, entry, Prod.mk.injEq, Option.map_eq_some_iff] at ran
              obtain ⟨⟨more, hsome, _⟩, rfl, rfl⟩ := ran
              exact .inr ⟨before, e, after, more, _, _, rfl, by rw [← hsome], begins⟩

/-- **A call executes a run just if** it is that of a job that is due, on the host as the jobs before it have
left it, and none of these broke down. -/
theorem mem_runs_iff {fuel : Nat} {c : Scheduler} {h : Host} {now : Instant} {r : Invocation × Host} :
    r ∈ c.runs fuel h now ↔
      ∃ before e after done d g, (c.takeReady now).1 = before ++ e :: after ∧
        (c.takeReady now).2.runEntries fuel now h before = (some done, d, g) ∧ e.run? now g = some r :=
  mem_runsOf_iff

end Scheduler

end LineScript
