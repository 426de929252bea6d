import LineScript.Proofs.Executed
import LineScript.Proofs.KeptOut
import LineScript.Proofs.Ledger

/-!
**What the scheduler executes never waits.**

How long a run waits for the lock is part of its context.  At first it is what the settings say, and
whoever drives the run may set it to something else; no statement ever does.  The scheduler executes one
run after the other, so that a run that waits would keep the holder of the lock from giving it back.  It
sets the time to zero wherever a run comes in: when it is handed over, when it sleeps again, and when a
script is started because its interval is over.  Here it is shown that there is no other way in.

Main definition:

* `LineScript.Scheduler.Unwaiting` — none of the runs that are held waits for the lock.

Main results:

* `LineScript.Session.lockWait_exec` — no statement changes how long a run waits;
* `LineScript.Scheduler.Unwaiting.apply` — every operation leaves the scheduler with runs that do not wait;
* `LineScript.Scheduler.never_waits` — **nothing that the scheduler executes waits**, and a lock that is
  held is busy at once.
-/

set_option autoImplicit false

namespace LineScript

namespace Session

/-! ### Statements -/

theorem aside_lockWait (wait : Duration) : Aside fun s => { s with context.lockWait := wait } where
  values _ := rfl
  buffer _ := rfl
  script _ := rfl
  draws _ := rfl
  clock _ := rfl
  setValues _ _ := rfl
  setBuffer _ _ := rfl
  setDraws _ _ := rfl
  emit _ _ := rfl

theorem lockWait_storeRecord (s : Session) (target : ScopedName) (r : Record) :
    (s.storeRecord target r).context.lockWait = s.context.lockWait := by
  unfold storeRecord
  split
  · rfl
  · split <;> rfl

theorem lockWait_storeFound (target : ScopedName) (found : Except ListError (Option Record) × Session) :
    (storeFound target found).2.context.lockWait = found.2.context.lockWait := by
  obtain ⟨result, s⟩ := found
  cases result with
  | error e => rfl
  | ok r =>
      cases r with
      | none => rfl
      | some r => exact lockWait_storeRecord s target r

theorem lockWait_listEffect (s : Session) (st : ListStatement) :
    (s.listEffect st).2.context.lockWait = s.context.lockWait := by
  cases st with
  | get target index => exact lockWait_storeFound target _
  | move m target => exact lockWait_storeFound target _
  | add source =>
      have read : (s.collected source).context.lockWait = s.context.lockWait := by
        unfold collected
        split <;> rfl
      simp only [listEffect]
      split <;> exact read
  | remove index => cases index <;> rfl
  | _ => rfl

theorem lockWait_execList (s : Session) (st : ListStatement) :
    (s.execList st).context.lockWait = s.context.lockWait := by
  rw [← lockWait_listEffect s st]
  unfold execList
  rcases s.listEffect st with ⟨_ | _, t⟩ <;> rfl

theorem lockWait_execStorage (s : Session) (q : StorageStatement) :
    (s.execStorage q).context.lockWait = s.context.lockWait := by
  refine execStorage_keeps (P := fun t => t.context.lockWait = s.context.lockWait) id rfl fun _ => ?_
  have read : (s.reading q).context.lockWait = s.context.lockWait := by cases q <;> rfl
  refine storedEffect_keeps (P := fun t => t.context.lockWait = s.context.lockWait) read (fun _ _ => read) ?_
  intro t u same granted
  cases granted with
  | opens => exact same
  | closes => exact same
  | edits _ _ _ _ _ _ _ plain =>
      exact foldl_plain (P := fun t => t.context.lockWait = s.context.lockWait) plain id (fun _ => id) same
  | lists => exact same

/-- **No statement changes how long a run waits for the lock.** -/
theorem lockWait_exec (s : Session) (st : Statement) :
    (s.exec st).2.context.lockWait = s.context.lockWait := by
  by_cases list : ∃ q, st = .list q
  · obtain ⟨q, rfl⟩ := list
    exact lockWait_execList s q
  by_cases stored : ∃ q, st = .storage q
  · obtain ⟨q, rfl⟩ := stored
    exact lockWait_execStorage s q
  -- to set the time to what it is makes no difference before the statement, so it makes none after
  have noList : ∀ q, st ≠ .list q := fun q eq => list ⟨q, eq⟩
  have noStorage : ∀ q, st ≠ .storage q := fun q eq => stored ⟨q, eq⟩
  have same := (aside_lockWait s.context.lockWait).exec s noList noStorage
  exact congrArg (·.2.context.lockWait) same

end Session

/-! ### Runs -/

namespace Invocation

theorem Moves.lockWait_eq {i j : Invocation} {h g : Host} (m : i.Moves h (.goesOn j) g) :
    j.context.lockWait = i.context.lockWait := by
  cases m with
  | @next st s _ exec =>
      have same := Session.lockWait_exec (i.session h) st
      rwa [exec] at same
  | @jumps st s label index _ exec _ =>
      have same := Session.lockWait_exec (i.session h) st
      rwa [exec] at same

theorem Passes.lockWait_eq {n : Nat} {i j : Invocation} {h g : Host} (p : Passes n i h j g) :
    j.context.lockWait = i.context.lockWait := by
  induction p with
  | refl => rfl
  | head step _ ih => rw [ih, (Moves.of_step step).lockWait_eq]

/-- All statements of a run are executed in contexts that wait for as long as the first one. -/
theorem lockWait_of_mem_executed {fuel : Nat} {i : Invocation} {h : Host} {x : Execution}
    (mem : x ∈ i.executed fuel h) : x.session.context.lockWait = i.context.lockWait := by
  obtain ⟨n, j, g, _, passes, there⟩ := mem_executed_iff.1 mem
  rw [(execution?_eq_some.1 there).2, ← passes.lockWait_eq]

end Invocation

/-! ### Opening a document without waiting -/

namespace Storage

theorem openDocument_eq_error {st : Storage} {token : LockToken} {name : String} {e : StorageError}
    (failed : st.openDocument token name = .error e) : e = .notLockHolder ∨ e = .emptyName := by
  unfold openDocument guard at failed
  by_cases held : st.holder = some token
  · rw [if_pos held] at failed
    by_cases unnamed : name.isEmpty = true
    · rw [if_pos unnamed] at failed
      cases failed
      exact .inr rfl
    · rw [if_neg unnamed] at failed
      cases failed
  · rw [if_neg held] at failed
    cases failed
    exact .inl rfl

end Storage

namespace Session

/-- An operation without a result fails for want of storage, for want of a token, or by itself. -/
theorem onStorageOnly_eq_error {s : Session} {f : Storage → LockToken → Except StorageError Storage}
    {e : StorageError} (failed : (s.onStorageOnly f).1 = .error e) :
    e = .unavailable ∨ e = .notLocked ∨ ∃ st token, f st token = .error e := by
  unfold onStorageOnly onStorage Session.storage at failed
  cases there : s.host.storage with
  | none =>
      simp only [there] at failed
      cases failed
      exact .inl rfl
  | some st =>
      cases lock : s.context.lock with
      | none =>
          simp only [there, lock] at failed
          cases failed
          exact .inr (.inl rfl)
      | some token =>
          simp only [there, lock, bind, Except.bind] at failed
          cases result : f st token with
          | error e' =>
              rw [result] at failed
              cases failed
              exact .inr (.inr ⟨st, token, result⟩)
          | ok st' =>
              rw [result] at failed
              cases failed

/-- Who does not wait finds the lock busy, or there is no storage. -/
theorem ensureLock_eq_error {s : Session} (zero : s.context.lockWait = .zero) {e : StorageError}
    (failed : s.ensureLock = .error e) : e = .unavailable ∨ e = .lockBusy := by
  unfold ensureLock Session.storage Storage.acquire at failed
  cases lock : s.context.lock with
  | some token => simp [lock] at failed
  | none =>
      cases there : s.host.storage with
      | none =>
          simp only [lock, there] at failed
          cases failed
          exact .inl rfl
      | some st =>
          cases holder : st.holder with
          | none => simp [lock, there, holder, bind, Except.bind, pure, Except.pure] at failed
          | some token =>
              simp only [lock, there, holder, zero, if_true, bind, Except.bind, Except.error.injEq] at failed
              exact .inr failed.symm

/-- **Who does not wait never runs out of time.** -/
theorem storedEffect_open_ne_lockTimeout {s : Session} (zero : s.context.lockWait = .zero)
    (name : Operand) (wait : Duration) :
    (s.storedEffect (.open name)).1 ≠ .error (.lockTimeout wait) := by
  intro failed
  simp only [storedEffect] at failed
  cases ensured : (s.touch name).ensureLock with
  | error e =>
      rw [ensured] at failed
      cases failed
      rcases ensureLock_eq_error (s := s.touch name) zero ensured with eq | eq <;> cases eq
  | ok t =>
      rw [ensured] at failed
      rcases onStorageOnly_eq_error failed with eq | eq | ⟨st, token, eq⟩
      · cases eq
      · cases eq
      · rcases Storage.openDocument_eq_error eq with eq | eq <;> cases eq

/-- **A lock that somebody else holds is busy at once**, and the statement does nothing but say so. -/
theorem exec_open_of_held {s : Session} (zero : s.context.lockWait = .zero)
    (lock : s.context.lock = none) {st : Storage} {token : LockToken}
    (there : s.host.storage = some st) (held : st.holder = some token) (name : Operand) :
    s.exec (.storage (.open name)) =
      (.next, (s.touch name).remark (.storageFailed "storage:open" .lockBusy)) := by
  have busy : (s.touch name).ensureLock = .error .lockBusy := by
    have lock' : (s.touch name).context.lock = none := lock
    have there' : (s.touch name).host.storage = some st := there
    have zero' : (s.touch name).context.lockWait = .zero := zero
    simp [ensureLock, lock', Session.storage, there', Storage.acquire, held, zero', bind, Except.bind]
  simp [exec, execStorage, there, storedEffect, busy, StorageStatement.keyword]

end Session

/-! ### The scheduler -/

namespace Scheduler

/-- None of the runs that are held waits for the lock. -/
def Unwaiting (c : Scheduler) : Prop :=
  ∀ e ∈ c.entries, ∀ s, e.job = .resume s → s.invocation.context.lockWait = .zero

variable {c : Scheduler}

theorem Unwaiting.of_subset {d : Scheduler} (unwaiting : c.Unwaiting) (subset : d.entries ⊆ c.entries) :
    d.Unwaiting :=
  fun e mem => unwaiting e (subset mem)

theorem Unwaiting.append {d : Scheduler} {new : List Entry} (unwaiting : c.Unwaiting)
    (entries : d.entries = c.entries ++ new)
    (zero : ∀ e ∈ new, ∀ s, e.job = .resume s → s.invocation.context.lockWait = .zero) :
    d.Unwaiting := by
  intro e mem
  rw [entries] at mem
  rcases List.mem_append.1 mem with old | new
  · exact unwaiting e old
  · exact zero e new

/-- What is filed of a job does not wait. -/
theorem lockWait_of_mem_files {e d : Entry} {now : Instant} {n : Nat} {u : Upshot} {new : List Entry}
    (files : e.files? now n u = some new) (mem : d ∈ new) {s : Suspension} (job : d.job = .resume s) :
    s.invocation.context.lockWait = .zero := by
  obtain ⟨again, still, parked⟩ := Entry.files?_eq_some files
  have script : d ∈ again → s.invocation.context.lockWait = .zero := by
    intro mem
    rcases Entry.again?_eq_some still with ⟨_, rfl⟩ | ⟨script, due, _, rfl⟩
    · cases mem
    · -- the script itself is held again, and it is no run
      obtain rfl := List.mem_singleton.1 mem
      rw [show e.job = .resume s from job] at script
      cases script
  rcases parked with ⟨_, rfl⟩ | ⟨r, due, _, _, rfl⟩
  · exact script mem
  · rcases List.mem_cons.1 mem with rfl | mem
    · cases job
      rfl
    · exact script mem

theorem lockWait_of_mem_filed {now : Instant} {n : Nat} {log : List (Entry × Upshot)} {new : List Entry}
    {e : Entry} (filed : filed? now n log = some new) (mem : e ∈ new) {s : Suspension}
    (job : e.job = .resume s) : s.invocation.context.lockWait = .zero := by
  induction log generalizing n new with
  | nil =>
      cases filed
      cases mem
  | cons x log ih =>
      obtain ⟨d, u⟩ := x
      obtain ⟨front, back, files, later, rfl⟩ := filed?_cons filed
      rcases List.mem_append.1 mem with first | rest
      · exact lockWait_of_mem_files files first job
      · exact ih later rest

/-- **Every operation leaves the scheduler with runs that do not wait.** -/
theorem Unwaiting.apply (unwaiting : c.Unwaiting) (op : Op) : (op.apply c).Unwaiting := by
  cases op with
  | addSuspension s now =>
      rw [Op.apply]
      rcases c.addSuspension_cases s now with ⟨_, broke⟩ | ⟨due, _, held⟩
      · rw [broke]
        exact unwaiting
      · rw [held]
        refine unwaiting.append rfl ?_
        intro e mem r job
        cases List.mem_singleton.1 mem
        cases job
        rfl
  | addPeriodic script inputs now =>
      rw [Op.apply]
      rcases c.addPeriodic_cases script inputs now with ⟨_, same⟩ | ⟨_, ⟨_, broke⟩ | ⟨due, _, held⟩⟩
      · rw [same]
        exact unwaiting
      · rw [broke]
        exact unwaiting
      · rw [held]
        refine unwaiting.append rfl ?_
        intro e mem r job
        cases List.mem_singleton.1 mem
        cases job
  | cancel id h => exact unwaiting.of_subset fun e mem => mem_of_mem_cancel mem
  | cancelAll h =>
      intro e mem
      cases mem
  | takeReady now =>
      rw [Op.apply, takeReady_eq]
      exact unwaiting.of_subset fun e mem => (mem_pending.1 mem).1
  | runReady fuel h now =>
      obtain ⟨log, others, new, _, filed, table⟩ := entries_runReady fuel c h now
      intro e mem s job
      rw [Op.apply, table] at mem
      rcases List.mem_append.1 mem with pending | new
      · exact unwaiting e (mem_pending.1 pending).1 s job
      · exact lockWait_of_mem_filed filed new job

theorem unwaiting_ofOps (ops : List Op) : (Ledger.ofOps ops).scheduler.Unwaiting := by
  have all : ∀ {l : Ledger}, l.scheduler.Unwaiting → (ops.foldl Ledger.after l).scheduler.Unwaiting := by
    induction ops with
    | nil => exact id
    | cons op ops ih => exact fun unwaiting => ih (unwaiting.apply op)
  exact all fun e mem => by cases mem

/-- The run of a job that is held does not wait. -/
theorem Unwaiting.begin (unwaiting : c.Unwaiting) {h g : Host} {e : Entry} {i : Invocation} (held : e ∈ c.entries)
    (begins : e.job.begin h = (some i, g)) : i.context.lockWait = .zero := by
  cases its : e.job with
  | resume s =>
      rw [its] at begins
      cases begins
      exact unwaiting e held s its
  | periodic script inputs interval pos =>
      rw [its, Job.begin] at begins
      rcases started : Invocation.start script inputs "" h with ⟨_ | j, f⟩
      · rw [started] at begins
        cases begins
      · rw [started] at begins
        cases begins
        rfl

/-- **Nothing that the scheduler executes waits for the lock.**  Whatever has been done with a
scheduler, no statement of a run that it resumes or starts waits, whatever the settings say.  To open a
document while somebody else holds the lock fails at once and changes nothing; it never fails because
time is out. -/
theorem never_waits (ops : List Op) :
    (∀ e ∈ (Ledger.ofOps ops).scheduler.entries, ∀ s, e.job = .resume s →
      s.invocation.context.lockWait = .zero) ∧
    ∀ fuel h now, ∀ x ∈ (Ledger.ofOps ops).scheduler.executed fuel h now,
      x.session.context.lockWait = .zero ∧
      ∀ name, x.statement = .storage (.open name) →
        (∀ st token, x.session.context.lock = none → x.session.host.storage = some st →
          st.holder = some token → x.session.exec x.statement =
            (.next, (x.session.touch name).remark (.storageFailed "storage:open" .lockBusy))) ∧
        ∀ wait, (x.session.storedEffect (.open name)).1 ≠ .error (.lockTimeout wait) := by
  have unwaiting := unwaiting_ofOps ops
  refine ⟨unwaiting, ?_⟩
  intro fuel h now x mem
  obtain ⟨es, e, fs, _, _, _, i, f, ready, _, run, executed⟩ := mem_executed_iff.1 mem
  have held : e ∈ (Ledger.ofOps ops).scheduler.entries := by
    have due : e ∈ ((Ledger.ofOps ops).scheduler.takeReady now).1 := by
      rw [ready]
      exact List.mem_append_right _ List.mem_cons_self
    exact World.mem_of_mem_takeReady due
  have zero : x.session.context.lockWait = .zero := by
    rw [Invocation.lockWait_of_mem_executed executed]
    exact unwaiting.begin held (Entry.run?_eq_some.1 run).2
  refine ⟨zero, ?_⟩
  intro name opens
  constructor
  · intro st token lock there holder
    rw [opens]
    exact Session.exec_open_of_held zero lock there holder name
  · exact Session.storedEffect_open_ne_lockTimeout zero name

/-- A script that opens a document, once a minute. -/
def rival : Script :=
  { triggers := { interval := 60 }
    statements := #[.storage (.open (.constant (.ofText "d"))), .finish] }

/-- One run of it is handed over as it sleeps, ready to wait, and the script is run at intervals too. -/
def rivals : List Op :=
  [.addSuspension ⟨{ script := rival, context := .ofInputs "" {} }, .ofSeconds 1⟩ .beginning,
    .addPeriodic rival {} .beginning]

/-- After a minute both want the lock that somebody else holds, and find it busy, though the settings say
to wait for five seconds. -/
theorem never_waits_rivals :
    let opens : Statement := .storage (.open (.constant (.ofText "d")))
    let executed := (Ledger.ofOps rivals).scheduler.executed 5 { storage := some { holder := some ⟨7⟩ } }
      (.ofDuration (.ofSeconds 60))
    executed.map Execution.statement = [opens, .finish, opens, .finish] ∧
      ∀ x ∈ executed, x.session.context.settings.lockTimeout = .ofSeconds 5 ∧
        (x.statement = opens → x.session.exec x.statement =
          (.next, (x.session.touch (.constant (.ofText "d"))).remark (.storageFailed "storage:open" .lockBusy))) := by
  intro opens executed
  have all : (executed.all fun x => x.session.context.settings.lockTimeout = .ofSeconds 5 ∧
      x.session.context.lock = none ∧ x.session.host.storage.bind (·.holder) = some ⟨7⟩) = true := by
    decide +kernel
  refine ⟨by decide +kernel, fun x mem => ?_⟩
  obtain ⟨timeout, lock, holder⟩ := of_decide_eq_true (List.all_eq_true.1 all x mem)
  obtain ⟨st, there, holds⟩ := Option.bind_eq_some_iff.1 holder
  refine ⟨timeout, fun is => ?_⟩
  exact (((never_waits rivals).2 5 _ _ x mem).2 _ is).1 st _ lock there holds

end Scheduler

end LineScript
