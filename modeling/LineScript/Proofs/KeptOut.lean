import Mathlib.Logic.Relation
import LineScript.Proofs.LockAccount

/-!
**Who is kept out.**

While a run holds the lock, no other run has a token: that is the account of the lock.  A run without a
token can do nothing to the storage while somebody holds the lock: opening a document fails since the
lock is not free, and whatever else it tries fails since it has no token.  So the part of the storage
that the lock guards stays as it is through each of its statements, through its whole run, and through
everything that the host does with any number of such runs.

Main definitions:

* `LineScript.Session.Barred` — a session without a token, while somebody else holds the lock;
* `LineScript.Session.refusal` — what comes of its statements on storage;
* `LineScript.World.KeptOut` — a world in which nobody has a token, while the lock is held;
* `LineScript.World.Meantime` — whatever is done among some runs.

Main results:

* `LineScript.Session.Barred.storedEffect_eq` — every statement on storage is refused;
* `LineScript.Invocation.run_barred` — a run that is kept out changes nothing that the lock guards;
* `LineScript.World.Meantime.guarded_eq` — **while a run holds the lock, nothing that others do changes
  what it guards**.
-/

set_option autoImplicit false

namespace LineScript

/-! ### Runs that are kept out -/

/-- Somebody holds the lock. -/
def Host.Held (h : Host) : Prop := ∃ s token, h.guarded = some s ∧ s.holder = some token

/-- An operation without a token does nothing while somebody holds the lock. -/
theorem Storage.Turns.barred {p q : Option LockToken × Option Storage} {s : Storage}
    {token : LockToken} (t : Storage.Turns p q) (hnone : p = (none, some s))
    (held : s.holder = some token) : q = p := by
  cases t with
  | stays => rfl
  | takes free =>
      cases hnone
      rw [free] at held
      cases held
  | opens => cases hnone
  | edits => cases hnone
  | closes => cases hnone

namespace Session

/-- The session has no token, and somebody else holds the lock. -/
structure Barred (s : Session) : Prop where
  lock : s.context.lock = none
  held : s.host.Held

/-- **A statement without a token leaves alone what the lock of another guards.** -/
theorem Barred.guarded_exec {s : Session} (b : s.Barred) (st : Statement) :
    (s.exec st).2.guarded = s.guarded := by
  obtain ⟨storage, token, guarded, held⟩ := b.held
  have here : s.guarded = (none, some storage) := Prod.ext b.lock guarded
  obtain ⟨mid, first, second⟩ := turns_exec s st
  have still : mid = s.guarded := first.barred here held
  rw [second.barred (still.trans here) held, still]

/-- What keeps what the lock guards keeps the session out. -/
theorem Barred.of_guarded_eq {s t : Session} (b : s.Barred) (same : t.guarded = s.guarded) :
    t.Barred := by
  have lock : t.context.lock = s.context.lock := congrArg Prod.fst same
  have host : t.host.guarded = s.host.guarded := congrArg Prod.snd same
  refine ⟨lock.trans b.lock, ?_⟩
  unfold Host.Held
  rw [host]
  exact b.held

theorem Barred.releaseLock_eq {s : Session} (b : s.Barred) : s.releaseLock = s := by
  unfold releaseLock
  rw [b.lock]

/-- **What comes of a statement on storage without a token**: to open a document fails since the lock
is busy or time is out, all else since it is not held. -/
def refusal (s : Session) : StorageStatement → StorageError
  | .open _ => if s.context.lockWait = .zero then .lockBusy else .lockTimeout s.context.lockWait
  | _ => .notLocked

theorem Barred.storage_eq_some {s : Session} (b : s.Barred) :
    ∃ st token, s.host.storage = some st ∧ st.holder = some token := by
  obtain ⟨storage, token, guarded, held⟩ := b.held
  obtain ⟨st, there, rfl⟩ := Option.map_eq_some_iff.1 guarded
  exact ⟨st, token, there, held⟩

theorem Barred.onStorage_eq {s : Session} (b : s.Barred) {α : Type}
    (f : Storage → LockToken → Except StorageError (α × Storage)) :
    s.onStorage f = .error .notLocked := by
  obtain ⟨st, token, there, _⟩ := b.storage_eq_some
  simp [onStorage, storage, there, b.lock, bind, Except.bind, throw, throwThe, MonadExceptOf.throw]

theorem Barred.reading {s : Session} (b : s.Barred) (st : StorageStatement) : (s.reading st).Barred :=
  b.of_guarded_eq (guarded_reading s st)

/-- The lock cannot be had. -/
theorem Barred.ensureLock_eq {s : Session} (b : s.Barred) (name : Operand) :
    s.ensureLock = .error (s.refusal (.open name)) := by
  obtain ⟨storage, token, there, held⟩ := b.storage_eq_some
  simp [ensureLock, b.lock, Session.storage, there, bind, Except.bind, Storage.acquire, held, refusal]

/-- **Every statement on storage is refused** as long as somebody else holds the lock. -/
theorem Barred.storedEffect_eq {s : Session} (b : s.Barred) (st : StorageStatement) :
    (s.storedEffect st).1 = .error (s.refusal st) := by
  have refused : ∀ q, (s.reading q).granting (s.request q) = (.error .notLocked, s.reading q) := by
    intro q
    rw [granting, (b.reading q).onStorage_eq]
  rw [Session.storedEffect_eq]
  cases st with
  | «open» name =>
      have busy := (b.reading (.open name)).ensureLock_eq name
      simp only [locking]
      rw [show (s.touch name).ensureLock = _ from busy]
      rfl
  | _ => exact congrArg Prod.fst (refused _)

end Session

namespace Invocation

/-- **A step of a run that is kept out changes nothing that the lock guards**, and leaves the run
without a token. -/
theorem Moves.barred {i : Invocation} {h g : Host} {p : Progress} (m : i.Moves h p g)
    (b : (i.session h).Barred) : g.guarded = h.guarded ∧ p.token = none := by
  have executed : ∀ {st : Statement} {flow : Flow} {s : Session},
      (i.session h).exec st = (flow, s) → s.guarded = (i.session h).guarded := by
    intro st flow s exec
    have := b.guarded_exec st
    rwa [exec] at this
  -- a run that completes has no lock to give back
  have finished : ∀ {s : Session}, s.guarded = (i.session h).guarded →
      s.releaseLock.host.guarded = h.guarded := by
    intro s same
    rw [(b.of_guarded_eq same).releaseLock_eq]
    exact congrArg Prod.snd same
  cases m with
  | pastLast out => exact ⟨finished (Session.guarded_remark _ _), rfl⟩
  | overBudget hat spent => exact ⟨finished (Session.guarded_remark _ _), rfl⟩
  | next ready exec =>
      have same := executed exec
      exact ⟨congrArg Prod.snd same, (congrArg Prod.fst same).trans b.lock⟩
  | ended ready exec => exact ⟨finished ((Session.guarded_flush _).trans (executed exec)), rfl⟩
  | jumps ready exec found =>
      have same := executed exec
      exact ⟨congrArg Prod.snd same, (congrArg Prod.fst same).trans b.lock⟩
  | missingLabel ready exec missing =>
      exact ⟨finished ((Session.guarded_remark _ _).trans (executed exec)), rfl⟩
  | @sleeps st s n ready exec pos =>
      have same := executed exec
      refine ⟨?_, (congrArg Prod.fst same).trans b.lock⟩
      rw [Host.guarded, hostAsleep_storage]
      exact congrArg Prod.snd same
  | breaks ready exec => exact ⟨finished (executed exec), rfl⟩

theorem barred_of_guarded_eq {i j : Invocation} {h g : Host} (b : (i.session h).Barred)
    (lock : j.context.lock = none) (same : g.guarded = h.guarded) : (j.session g).Barred := by
  refine b.of_guarded_eq (Prod.ext ?_ same)
  exact lock.trans b.lock.symm

theorem Passes.barred {n : Nat} {i j : Invocation} {h g : Host} (p : Passes n i h j g)
    (b : (i.session h).Barred) : g.guarded = h.guarded ∧ (j.session g).Barred := by
  induction p with
  | refl => exact ⟨rfl, b⟩
  | head step _ ih =>
      obtain ⟨same, lock⟩ := (Moves.of_step step).barred b
      obtain ⟨rest, still⟩ := ih (barred_of_guarded_eq b lock same)
      exact ⟨rest.trans same, still⟩

/-- **A run that is kept out changes nothing that the lock guards**, and is left without a token. -/
theorem run_barred {fuel : Nat} {i : Invocation} {h g : Host} {o : Outcome}
    (hr : i.run fuel h = (o, g)) (b : (i.session h).Barred) : g.guarded = h.guarded ∧ o.token = none := by
  rcases run_cases hr with ⟨j, rfl, p⟩ | ⟨n, j, f, _, p, hstop⟩
  · obtain ⟨same, still⟩ := p.barred b
    exact ⟨same, still.lock⟩
  · obtain ⟨same, still⟩ := p.barred b
    obtain ⟨same', token⟩ := (Moves.of_step hstop).barred still
    exact ⟨same'.trans same, token⟩

theorem cancel_barred {i : Invocation} {h : Host} (lock : i.context.lock = none) :
    i.cancel h = h := by
  unfold cancel Session.releaseLock
  rw [lock]

theorem start_guarded {script : Script} {inputs : Inputs} {arguments : String} {h g : Host}
    {r : Except BindError Invocation} (hs : start script inputs arguments h = (r, g)) :
    g.guarded = h.guarded := by
  rw [Host.guarded, start_storage hs, Host.guarded]

/-- A run that is started is kept out. -/
theorem start_barred {script : Script} {inputs : Inputs} {arguments : String} {h g : Host}
    {i : Invocation} (hs : start script inputs arguments h = (.ok i, g)) (held : h.Held)
    (wait : Duration) : ((i.setLockWait wait).session g).Barred := by
  have lock : i.context.lock = none := start_lock hs
  refine ⟨lock, ?_⟩
  unfold Host.Held
  rw [start_guarded hs]
  exact held

end Invocation

theorem Host.Held.of_guarded_eq {h g : Host} (held : h.Held) (same : g.guarded = h.guarded) :
    g.Held := by
  unfold Held
  rw [same]
  exact held

theorem Job.cancel_barred {j : Job} {h : Host} (locks : ∀ c ∈ j.contexts, c.lock = none) :
    j.cancel h = h := by
  cases j with
  | resume s => exact Invocation.cancel_barred (locks s.invocation.context (by simp [contexts]))
  | periodic script inputs interval pos => rfl

theorem Scheduler.giveUp_barred {es : List Entry} {h : Host} (locks : ∀ c ∈ contextsOf es, c.lock = none) :
    giveUp es h = h := by
  induction es with
  | nil => rfl
  | cons e es ih =>
      rw [giveUp, List.foldl_cons, Job.cancel_barred fun c hc => locks c (by simp [hc])]
      exact ih fun c hc => locks c (by simp [hc])

/-- The run of a job that is kept out begins with all as it was, and is kept out. -/
theorem Job.begin_barred {j : Job} {h g : Host} {r : Option Invocation} (begins : j.begin h = (r, g))
    (held : h.Held) (locks : ∀ c ∈ j.contexts, c.lock = none) :
    g.guarded = h.guarded ∧ ∀ i, r = some i → (i.session g).Barred := by
  cases j with
  | resume s =>
      cases begins
      refine ⟨rfl, fun i is => ?_⟩
      cases is
      exact ⟨locks _ (by simp [contexts]), held⟩
  | periodic script inputs interval pos =>
      rcases started : Invocation.start script inputs "" h with ⟨_ | i, f⟩
      · simp only [begin, started] at begins
        cases begins
        exact ⟨Invocation.start_guarded started, fun i is => by cases is⟩
      · simp only [begin, started] at begins
        cases begins
        refine ⟨Invocation.start_guarded started, fun j is => ?_⟩
        cases is
        exact Invocation.start_barred started held .zero

/-- A job that is executed while it is kept out changes nothing that the lock guards. -/
theorem Job.execute_barred {j : Job} {fuel : Nat} {h g : Host} {u : Upshot}
    (executed : j.execute fuel h = (u, g)) (held : h.Held) (locks : ∀ c ∈ j.contexts, c.lock = none) :
    g.guarded = h.guarded ∧ u.token = none := by
  rcases begins : j.begin h with ⟨_ | i, f⟩
  · simp only [execute, begins] at executed
    cases executed
    exact ⟨(begin_barred begins held locks).1, rfl⟩
  · obtain ⟨same, barred⟩ := begin_barred begins held locks
    rcases run : i.run fuel f with ⟨o, f'⟩
    simp only [execute, begins, run] at executed
    cases executed
    obtain ⟨same', token⟩ := Invocation.run_barred run (barred i rfl)
    refine ⟨same'.trans same, ?_⟩
    cases o with
    | suspended s => exact token
    | _ => rfl

theorem Upshot.drop_barred {u : Upshot} (token : u.token = none) (h : Host) : u.drop h = h := by
  cases u with
  | sleeps s => exact Invocation.cancel_barred token
  | _ => rfl

namespace Scheduler

/-- **Jobs that are executed while they are kept out change nothing that the lock guards.** -/
theorem runEntries_barred (fuel : Nat) (now : Instant) (c : Scheduler) {h : Host} {es : List Entry}
    (held : h.Held) (locks : ∀ c ∈ contextsOf es, c.lock = none) :
    (c.runEntries fuel now h es).2.2.guarded = h.guarded := by
  induction es generalizing c h with
  | nil => rfl
  | cons e es ih =>
      have mine : ∀ c ∈ e.job.contexts, c.lock = none := fun c hc => locks c (by simp [hc])
      have others : ∀ c ∈ contextsOf es, c.lock = none := fun c hc => locks c (by simp [hc])
      have serves := serves_runEntry fuel now c h e
      rw [runEntries]
      rcases entry : c.runEntry fuel now h e with ⟨done, d, g⟩
      rw [entry] at serves
      cases serves with
      | overdue never => exact congrArg Host.guarded (giveUp_barred others)
      | broke still executed files =>
          obtain ⟨same, token⟩ := Job.execute_barred executed held mine
          simp only [giveUp_barred others, Upshot.drop_barred token, same]
      | filed executed files =>
          obtain ⟨same, _⟩ := Job.execute_barred executed held mine
          exact (ih _ (held.of_guarded_eq same) others).trans same

end Scheduler

/-- Who has a token at all holds the lock, and no other has one. -/
theorem Accounted.holder {storage : Option Storage} {token : LockToken} {rest : List LockToken}
    (acc : Accounted storage (token :: rest)) :
    ∃ st, storage = some st ∧ st.holder = some token ∧ rest = [] ∧
      ∀ name, st.opened = some name → st.documents.contains name = true := by
  cases storage with
  | none => exact acc.elim
  | some st =>
      obtain ⟨tokens, opened⟩ := acc
      cases hh : st.holder with
      | none => simp [hh] at tokens
      | some other =>
          simp only [hh, Option.toList_some, List.cons.injEq] at tokens
          obtain ⟨rfl, hnone⟩ := tokens
          exact ⟨st, rfl, hh, hnone.symm, fun name h => (opened name h).2⟩

/-- The run that sleeps in a job. -/
def Job.sleeping : Job → List Suspension
  | resume s => [s]
  | periodic _ _ _ _ => []

theorem Job.sleeping_contexts (j : Job) :
    (j.sleeping.map fun s => s.invocation.context) = j.contexts := by
  cases j <;> rfl

namespace World

/-- Nobody here has a token, and somebody elsewhere holds the lock. -/
structure KeptOut (w : World) : Prop where
  held : w.host.Held
  locks : ∀ c ∈ w.live, c.lock = none

theorem KeptOut.kept_lock {w : World} (out : w.KeptOut) {s : Suspension} (hs : s ∈ w.kept) :
    s.invocation.context.lock = none :=
  out.locks _ (List.mem_append_left _ (List.mem_map_of_mem hs))

theorem KeptOut.entries_lock {w : World} (out : w.KeptOut) (es : List Entry)
    (hes : ∀ e ∈ es, e ∈ w.scheduler.entries) : ∀ c ∈ contextsOf es, c.lock = none := by
  intro c hc
  obtain ⟨e, he, hc⟩ := List.mem_flatMap.1 hc
  exact out.locks c (List.mem_append_right _ (List.mem_flatMap.2 ⟨e, hes e he, hc⟩))

theorem mem_of_mem_takeReady {c : Scheduler} {now : Instant} {e : Entry}
    (he : e ∈ (c.takeReady now).1) : e ∈ c.entries := by
  unfold Scheduler.takeReady at he
  rw [List.partition_eq_filter_filter] at he
  exact (List.mem_filter.1 he).1

/-- **Whatever is done among runs that are kept out changes nothing that the lock guards.** -/
theorem Step.guarded_eq {w w' : World} (step : w.Step w') (out : w.KeptOut) :
    w'.host.guarded = w.host.guarded := by
  cases step with
  | start bound run finished =>
      exact (Invocation.run_barred run (Invocation.start_barred bound out.held _)).1.trans
        (Invocation.start_guarded bound)
  | refuse unbound => exact Invocation.start_guarded unbound
  | @resume before after s wait h fuel o kept run finished =>
      have lock : s.invocation.context.lock = none := out.kept_lock (by simp [kept])
      exact (Invocation.run_barred (i := (s.setLockWait wait).invocation) run ⟨lock, out.held⟩).1
  | @cancel before after s kept =>
      have same : s.cancel w.host = w.host := Invocation.cancel_barred (out.kept_lock (by simp [kept]))
      exact congrArg Host.guarded same
  | park kept added => rfl
  | @parkBreaks before after s now c kept broke =>
      have same : s.cancel w.host = w.host := Invocation.cancel_barred (out.kept_lock (by simp [kept]))
      exact congrArg Host.guarded same
  | addPeriodic added => rfl
  | @cancelJob id c h cancelled =>
      unfold Scheduler.cancel at cancelled
      cases hf : w.scheduler.entries.find? (·.id == id) with
      | none => simp [hf] at cancelled
      | some e =>
          simp only [hf, Option.some.injEq, Prod.mk.injEq] at cancelled
          obtain ⟨_, rfl⟩ := cancelled
          have found := List.mem_of_find?_eq_some hf
          have locks := out.entries_lock [e] (by simpa using found)
          have same : e.job.cancel w.host = w.host :=
            Job.cancel_barred fun c hc => locks c (by simpa using hc)
          exact congrArg Host.guarded same
  | cancelAll => exact congrArg Host.guarded (Scheduler.giveUp_barred (out.entries_lock _ fun e he => he))
  | dropReady now =>
      exact congrArg Host.guarded
        (Scheduler.giveUp_barred (out.entries_lock _ fun e he => mem_of_mem_takeReady he))
  | @runReady now fuel done c h run finished =>
      have same := Scheduler.runEntries_barred fuel now (w.scheduler.takeReady now).2 out.held
        (out.entries_lock (w.scheduler.takeReady now).1 fun e he => mem_of_mem_takeReady he)
      have after : (Scheduler.runEntries fuel now (w.scheduler.takeReady now).2 w.host
          (w.scheduler.takeReady now).1) = (done, c, h) := run
      rw [after] at same
      exact same
  | meanwhile storage => rw [Host.guarded, storage, Host.guarded]

/-- Whatever is done with some runs can be done as well with one more beside them. -/
theorem Step.aside {w w' : World} (step : w.Step w') (s : Suspension) :
    ({ w with kept := w.kept ++ [s] } : World).Step { w' with kept := w'.kept ++ [s] } := by
  cases step with
  | start bound run finished =>
      rw [List.append_assoc]
      exact Step.start (w := { w with kept := w.kept ++ [s] }) bound run finished
  | refuse unbound => exact Step.refuse (w := { w with kept := w.kept ++ [s] }) unbound
  | resume kept run finished =>
      rw [List.append_assoc _ _ [s]]
      exact Step.resume (w := { w with kept := w.kept ++ [s] }) (by simp [kept]) run finished
  | cancel kept =>
      rw [List.append_assoc _ _ [s]]
      exact Step.cancel (w := { w with kept := w.kept ++ [s] }) (by simp [kept])
  | park kept added =>
      rw [List.append_assoc _ _ [s]]
      exact Step.park (w := { w with kept := w.kept ++ [s] }) (by simp [kept]) added
  | parkBreaks kept broke =>
      rw [List.append_assoc _ _ [s]]
      exact Step.parkBreaks (w := { w with kept := w.kept ++ [s] }) (by simp [kept]) broke
  | addPeriodic added => exact Step.addPeriodic (w := { w with kept := w.kept ++ [s] }) added
  | cancelJob cancelled => exact Step.cancelJob (w := { w with kept := w.kept ++ [s] }) cancelled
  | cancelAll => exact Step.cancelAll (w := { w with kept := w.kept ++ [s] })
  | dropReady now => exact Step.dropReady (w := { w with kept := w.kept ++ [s] }) now
  | runReady run finished =>
      exact Step.runReady (w := { w with kept := w.kept ++ [s] }) run finished
  | meanwhile storage => exact Step.meanwhile (w := { w with kept := w.kept ++ [s] }) storage

/-! ### What the others do -/

/-- What others do beside a run: one thing that a host does, or the host takes out of the scheduler
what is due and keeps it.  It then resumes these runs one by one, as the scheduler does, and the run
that they are beside may have its turn between them. -/
inductive Doing (w : World) : World → Prop
  | step {w' : World} (step : w.Step w') : Doing w w'
  | takeReady (now : Instant) :
      Doing w { w with
        kept := (w.scheduler.takeReady now).1.flatMap (fun e => e.job.sleeping) ++ w.kept
        scheduler := (w.scheduler.takeReady now).2 }

/-- Any number of things that others do. -/
def Meantime : World → World → Prop := Relation.ReflTransGen Doing

theorem Doing.accounted {w w' : World} (doing : w.Doing w')
    (acc : Accounted w.host.storage (tokensOf w.live)) :
    Accounted w'.host.storage (tokensOf w'.live) := by
  cases doing with
  | step step => exact step.accounted acc
  | takeReady now =>
      have taken : (((w.scheduler.takeReady now).1.flatMap fun e => e.job.sleeping).map
          fun s => s.invocation.context) = contextsOf (w.scheduler.takeReady now).1 := by
        simp only [List.map_flatMap, Job.sleeping_contexts, contextsOf]
      refine acc.perm ?_
      simp only [live, List.map_append, taken, tokensOf_append, List.append_assoc]
      exact ((Scheduler.takeReady_perm rfl).symm.append_left _).trans (List.perm_append_comm_assoc ..)

/-- Whatever is done among some runs can be done as well with one more beside them. -/
theorem Doing.aside {w w' : World} (doing : w.Doing w') (s : Suspension) :
    ({ w with kept := w.kept ++ [s] } : World).Doing { w' with kept := w'.kept ++ [s] } := by
  cases doing with
  | step step => exact .step (step.aside s)
  | takeReady now =>
      rw [List.append_assoc]
      exact Doing.takeReady (w := { w with kept := w.kept ++ [s] }) now

/-- The account with a run beside the others is kept by whatever the others do. -/
theorem Doing.accounted_beside {w w' : World} (doing : w.Doing w') {s : Suspension}
    (acc : Accounted w.host.storage (s.invocation.context.lock.toList ++ tokensOf w.live)) :
    Accounted w'.host.storage (s.invocation.context.lock.toList ++ tokensOf w'.live) := by
  have front : ∀ u : World, (tokensOf ({ u with kept := u.kept ++ [s] } : World).live).Perm
      (s.invocation.context.lock.toList ++ tokensOf u.live) := by
    intro u
    have last : ({ u with kept := u.kept ++ [s] } : World).kept = u.kept ++ s :: [] := rfl
    simpa using tokensOf_live_perm last
  exact ((doing.aside s).accounted (acc.perm (front w).symm)).perm (front w')

theorem Doing.guarded_eq {w w' : World} (doing : w.Doing w') (out : w.KeptOut) :
    w'.host.guarded = w.host.guarded := by
  cases doing with
  | step step => exact step.guarded_eq out
  | takeReady now => rfl

/-- Whoever is alive beside a run that holds the lock is kept out. -/
theorem keptOut_of_accounted {w : World} {token : LockToken}
    (acc : Accounted w.host.storage (token :: tokensOf w.live)) : w.KeptOut := by
  obtain ⟨st, there, held, hnone, _⟩ := acc.holder
  refine ⟨⟨st.guarded, token, ?_, held⟩, tokensOf_eq_nil.1 hnone⟩
  rw [Host.guarded, there]
  rfl

theorem Meantime.accounted {w w' : World} (meantime : w.Meantime w')
    (acc : Accounted w.host.storage (tokensOf w.live)) :
    Accounted w'.host.storage (tokensOf w'.live) := by
  induction meantime with
  | refl => exact acc
  | tail _ doing ih => exact doing.accounted ih

theorem Meantime.accounted_beside {w w' : World} (meantime : w.Meantime w') {s : Suspension}
    (acc : Accounted w.host.storage (s.invocation.context.lock.toList ++ tokensOf w.live)) :
    Accounted w'.host.storage (s.invocation.context.lock.toList ++ tokensOf w'.live) := by
  induction meantime with
  | refl => exact acc
  | tail _ doing ih => exact doing.accounted_beside ih

/-- **While a run holds the lock, nothing that the others do changes what the lock guards.** -/
theorem Meantime.guarded_eq {w w' : World} (meantime : w.Meantime w') {s : Suspension}
    {token : LockToken} (holds : s.invocation.context.lock = some token)
    (acc : Accounted w.host.storage (s.invocation.context.lock.toList ++ tokensOf w.live)) :
    w'.host.guarded = w.host.guarded := by
  induction meantime with
  | refl => rfl
  | tail before doing ih =>
      have acc' := Meantime.accounted_beside before acc
      rw [holds] at acc'
      exact (doing.guarded_eq (keptOut_of_accounted acc')).trans ih

end World

end LineScript
