import LineScript.Proofs.Guarded
import LineScript.Proofs.Steps
import LineScript.Proofs.World

/-!
**The lock of the storage is accounted for.**

The lock is noted in two places: the storage knows the token of its holder, and the holder's context
has the token.  Many runs share one storage, some asleep in the hands of the host, some parked in the
scheduler, and the lock is taken and given back on many ways: by statements, by the end of a run, by
giving a run up.  The account is that the tokens of all runs that are alive are, taken together, the
token of the holder: none if the lock is free, and a single one otherwise.  Every step of a run keeps
the account, with the tokens of the other runs as a remainder that it cannot see; so every step of
the host keeps it, in whatever order they come.

Main definitions:

* `LineScript.Accounted` — **the account**: the tokens that are around are the token of the holder,
  and a document is open only while somebody holds the lock;
* `LineScript.tokensOf` — the tokens of some runs;
* `LineScript.Invocation.Ends` — a run comes to its end, or is given up.

Main results:

* `LineScript.Storage.Turns.accounted`, `LineScript.Invocation.Moves.accounted` — one operation, and
  one step of a run, keep the account;
* `LineScript.Invocation.run_accounted` — so does a whole run;
* `LineScript.Scheduler.runReady_accounted` — and all that is due in the scheduler;
* `LineScript.World.lock_accounted` — **in every state that the host can come to, the holder of the
  lock is a run that sleeps, and nobody else has a token**.
-/

set_option autoImplicit false

namespace LineScript

/-! ### The account -/

/-- **The tokens are accounted for**: there is storage, and they are the token of its holder, if it
has one; and a document is open only while there is a holder, and is one of the documents. -/
def Accounted : Option Storage → List LockToken → Prop
  | none, _ => False
  | some s, tokens =>
    s.holder.toList = tokens ∧
      ∀ name, s.opened = some name → s.holder.isSome = true ∧ s.documents.contains name = true

theorem accounted_guarded {h : Host} {tokens : List LockToken} :
    Accounted h.guarded tokens ↔ Accounted h.storage tokens := by
  unfold Host.guarded
  cases h.storage <;> exact Iff.rfl

/-- The order in which tokens are counted is of no account: there is one at most. -/
theorem Accounted.perm {storage : Option Storage} {tokens tokens' : List LockToken}
    (h : Accounted storage tokens) (hp : tokens.Perm tokens') : Accounted storage tokens' := by
  have same : tokens' = tokens := by
    cases storage with
    | none => exact h.elim
    | some s =>
        obtain ⟨rfl, _⟩ := h
        cases hh : s.holder with
        | none =>
            rw [hh] at hp
            exact hp.symm.eq_nil
        | some token =>
            rw [hh] at hp
            exact List.perm_singleton.1 hp.symm
  exact same ▸ h

/-- **An operation keeps the account**, whatever tokens the others have. -/
theorem Storage.Turns.accounted {p q : Option LockToken × Option Storage} {rest : List LockToken}
    (t : Storage.Turns p q) (h : Accounted p.2 (p.1.toList ++ rest)) :
    Accounted q.2 (q.1.toList ++ rest) := by
  cases t with
  | stays => exact h
  | takes free =>
      obtain ⟨hrest, hopen⟩ := h
      have hnil : rest = [] := by simpa [free] using hrest.symm
      refine ⟨by simp [hnil], fun name ho => ?_⟩
      have := (hopen name ho).1
      simp [free] at this
  | @opens s token name held named =>
      obtain ⟨hrest, _⟩ := h
      refine ⟨hrest, fun other ho => ⟨by simp [held], ?_⟩⟩
      cases ho
      dsimp only
      split
      · assumption
      · simp [KeyMap.contains]
  | @edits s token name document held opened there after saves =>
      obtain ⟨hrest, _⟩ := h
      refine ⟨hrest, fun other ho => ⟨by simp [held], ?_⟩⟩
      have hname : other = name := Option.some_inj.1 (ho.symm.trans opened)
      simp [hname, KeyMap.contains]
  | closes held opened =>
      obtain ⟨hrest, _⟩ := h
      have hnil : rest = [] := by simpa [held] using hrest.symm
      refine ⟨by simp [hnil], fun name ho => ?_⟩
      cases ho

namespace Session

/-- A session keeps the account when it keeps what the lock guards. -/
theorem accounted_of_guarded {s t : Session} {rest : List LockToken}
    (hg : t.guarded = s.guarded) (h : Accounted s.host.storage (s.context.lock.toList ++ rest)) :
    Accounted t.host.storage (t.context.lock.toList ++ rest) := by
  have hlock : t.context.lock = s.context.lock := congrArg Prod.fst hg
  have hhost : t.host.guarded = s.host.guarded := congrArg Prod.snd hg
  rw [hlock, ← accounted_guarded, hhost, accounted_guarded]
  exact h

theorem accounted_exec {s : Session} {rest : List LockToken} (st : Statement)
    (h : Accounted s.host.storage (s.context.lock.toList ++ rest)) :
    Accounted (s.exec st).2.host.storage ((s.exec st).2.context.lock.toList ++ rest) := by
  obtain ⟨mid, first, second⟩ := turns_exec s st
  exact accounted_guarded.1 (second.accounted (first.accounted (accounted_guarded.2 h)))

/-- **Whoever gives the lock back has no token any more.** -/
theorem accounted_releaseLock {s : Session} {rest : List LockToken}
    (h : Accounted s.host.storage (s.context.lock.toList ++ rest)) :
    Accounted s.releaseLock.host.storage rest := by
  cases hl : s.context.lock with
  | none => simpa [releaseLock, hl] using h
  | some token =>
      rw [hl] at h
      cases hs : s.host.storage with
      | none =>
          rw [hs] at h
          exact h.elim
      | some storage =>
          rw [hs] at h
          obtain ⟨hrest, _⟩ := h
          have held : storage.holder = some token := by
            cases hh : storage.holder with
            | none => simp [hh] at hrest
            | some other =>
                simp only [hh, Option.toList_some, List.cons_append, List.nil_append,
                  List.cons.injEq] at hrest
                rw [hrest.1]
          have hnil : rest = [] := by simpa [held] using hrest.symm
          have freed : s.releaseLock.host.storage =
              some { storage with holder := none, opened := none } := by
            simp [releaseLock, hl, hs, Storage.release, Storage.guard, held, setStorage, bind,
              Except.bind, pure, Except.pure]
          rw [freed]
          exact ⟨hnil.symm, fun name ho => by cases ho⟩

end Session

/-! ### Runs -/

/-- The token that what is left of a run has. -/
def Outcome.token : Outcome → Option LockToken
  | completed _ _ => none
  | suspended s => s.invocation.context.lock
  | unfinished i => i.context.lock

/-- The token that a run has after a step. -/
def Progress.token : Progress → Option LockToken
  | goesOn i => i.context.lock
  | stops o => o.token

namespace Invocation

theorem hostAsleep_storage (n : Nat) (s : Session) : (hostAsleep n s).storage = s.host.storage := by
  unfold hostAsleep
  split <;> rfl

/-- **A step keeps the account**; one that completes the run leaves no token behind. -/
theorem Moves.accounted {i : Invocation} {h h' : Host} {p : Progress} {rest : List LockToken}
    (m : i.Moves h p h') (acc : Accounted h.storage (i.context.lock.toList ++ rest)) :
    Accounted h'.storage (p.token.toList ++ rest) := by
  have executed : ∀ {st : Statement} {flow : Flow} {s : Session},
      (i.session h).exec st = (flow, s) → Accounted s.host.storage (s.context.lock.toList ++ rest) := by
    intro st flow s exec
    have := Session.accounted_exec (s := i.session h) st acc
    rwa [exec] at this
  cases m with
  | pastLast out => exact Session.accounted_releaseLock acc
  | overBudget hat spent => exact Session.accounted_releaseLock acc
  | next ready exec => exact executed exec
  | ended ready exec =>
      exact Session.accounted_releaseLock
        (Session.accounted_of_guarded (Session.guarded_flush _) (executed exec))
  | jumps ready exec found => exact executed exec
  | missingLabel ready exec missing =>
      exact Session.accounted_releaseLock
        (Session.accounted_of_guarded (Session.guarded_remark _ _) (executed exec))
  | sleeps ready exec pos =>
      rw [hostAsleep_storage]
      exact executed exec
  | breaks ready exec => exact Session.accounted_releaseLock (executed exec)

theorem Passes.accounted {n : Nat} {i j : Invocation} {h g : Host} {rest : List LockToken}
    (p : Passes n i h j g) (acc : Accounted h.storage (i.context.lock.toList ++ rest)) :
    Accounted g.storage (j.context.lock.toList ++ rest) := by
  induction p with
  | refl => exact acc
  | head step _ ih => exact ih ((Moves.of_step step).accounted acc)

/-- **A run keeps the account.** -/
theorem run_accounted {fuel : Nat} {i : Invocation} {h h' : Host} {o : Outcome}
    {rest : List LockToken} (hr : i.run fuel h = (o, h'))
    (acc : Accounted h.storage (i.context.lock.toList ++ rest)) :
    Accounted h'.storage (o.token.toList ++ rest) := by
  rcases run_cases hr with ⟨j, rfl, p⟩ | ⟨n, j, g, _, p, hstop⟩
  · exact p.accounted acc
  · exact (Moves.of_step hstop).accounted (p.accounted acc)

/-- Giving a run up keeps the account. -/
theorem cancel_accounted {i : Invocation} {h : Host} {rest : List LockToken}
    (acc : Accounted h.storage (i.context.lock.toList ++ rest)) :
    Accounted (i.cancel h).storage rest :=
  Session.accounted_releaseLock (s := i.session h) acc

/-- Binding arguments does nothing to the storage. -/
theorem start_storage {script : Script} {inputs : Inputs} {arguments : String} {h h' : Host}
    {r : Except BindError Invocation} (hs : start script inputs arguments h = (r, h')) :
    h'.storage = h.storage := by
  unfold start at hs
  dsimp only at hs
  split at hs <;> cases hs <;> rfl

/-- A run starts without a token. -/
theorem start_lock {script : Script} {inputs : Inputs} {arguments : String} {h h' : Host}
    {i : Invocation} (hs : start script inputs arguments h = (.ok i, h')) :
    i.context.lock = none := by
  unfold start at hs
  dsimp only at hs
  split at hs <;> cases hs <;> rfl

/-- **A run from its start on keeps the account.** -/
theorem start_run_accounted {script : Script} {inputs : Inputs} {arguments : String}
    {h g f : Host} {i : Invocation} {wait : Duration} {fuel : Nat} {o : Outcome}
    {rest : List LockToken} (hs : start script inputs arguments h = (.ok i, g))
    (hr : (i.setLockWait wait).run fuel g = (o, f)) (acc : Accounted h.storage rest) :
    Accounted f.storage (o.token.toList ++ rest) := by
  refine run_accounted hr ?_
  rw [start_storage hs]
  simpa [setLockWait, start_lock hs] using acc

end Invocation

/-! ### The scheduler -/

/-- The tokens of some runs. -/
def tokensOf (cs : List Context) : List LockToken := cs.flatMap fun c => c.lock.toList

@[simp] theorem tokensOf_nil : tokensOf [] = [] := rfl

@[simp] theorem tokensOf_cons (c : Context) (cs : List Context) :
    tokensOf (c :: cs) = c.lock.toList ++ tokensOf cs := rfl

@[simp] theorem tokensOf_append (cs ds : List Context) :
    tokensOf (cs ++ ds) = tokensOf cs ++ tokensOf ds := List.flatMap_append

theorem contextsOf_perm {es fs : List Entry} (h : es.Perm fs) :
    (tokensOf (contextsOf es)).Perm (tokensOf (contextsOf fs)) :=
  (h.flatMap_right _).flatMap_right _

/-- The tokens of what is left of a finished run. -/
theorem Outcome.tokensOf_sleeping {o : Outcome} (ho : o.Finished) :
    tokensOf (o.sleeping.map fun s => s.invocation.context) = o.token.toList := by
  cases o with
  | completed t values => rfl
  | suspended s => simp [sleeping, token]
  | unfinished i => exact ho.elim

theorem Job.cancel_accounted {j : Job} {h : Host} {rest : List LockToken}
    (acc : Accounted h.storage (tokensOf j.contexts ++ rest)) :
    Accounted (j.cancel h).storage rest := by
  cases j with
  | resume s => exact Invocation.cancel_accounted (by simpa [contexts] using acc)
  | periodic script inputs interval pos => exact acc

/-- Giving up one job after the other leaves none of their tokens. -/
theorem Scheduler.giveUp_accounted {es : List Entry} {h : Host} {rest : List LockToken}
    (acc : Accounted h.storage (tokensOf (contextsOf es) ++ rest)) :
    Accounted (giveUp es h).storage rest := by
  induction es generalizing h with
  | nil => exact acc
  | cons e es ih =>
      refine ih (Job.cancel_accounted ?_)
      simpa [List.append_assoc] using acc

/-- A run begins with the token of its job. -/
theorem Job.begin_accounted {j : Job} {h g : Host} {i : Option Invocation} {rest : List LockToken}
    (begins : j.begin h = (i, g)) (acc : Accounted h.storage (tokensOf j.contexts ++ rest)) :
    Accounted g.storage ((i.bind (·.context.lock)).toList ++ rest) := by
  cases j with
  | resume s =>
      cases begins
      simpa [contexts] using acc
  | periodic script inputs interval pos =>
      replace acc : Accounted h.storage rest := acc
      rcases started : Invocation.start script inputs "" h with ⟨_ | i, f⟩
      · simp only [begin, started] at begins
        cases begins
        rw [Invocation.start_storage started]
        exact acc
      · simp only [begin, started] at begins
        cases begins
        rw [Invocation.start_storage started]
        simpa [Invocation.setLockWait, Invocation.start_lock started] using acc

/-- The token of a run that sleeps. -/
def Upshot.token : Upshot → Option LockToken
  | sleeps s => s.invocation.context.lock
  | _ => none

/-- A job that is executed keeps the account. -/
theorem Job.execute_accounted {j : Job} {fuel : Nat} {h g : Host} {u : Upshot} {rest : List LockToken}
    (executed : j.execute fuel h = (u, g))
    (finished : ∀ i f, j.begin h = (some i, f) → (i.run fuel f).1.Finished)
    (acc : Accounted h.storage (tokensOf j.contexts ++ rest)) :
    Accounted g.storage (u.token.toList ++ rest) := by
  rcases begins : j.begin h with ⟨_ | i, f⟩
  · simp only [execute, begins] at executed
    cases executed
    exact begin_accounted begins acc
  · simp only [execute, begins] at executed
    cases executed
    have after := Invocation.run_accounted (o := (i.run fuel f).1) rfl (begin_accounted begins acc)
    have ends := finished i f begins
    cases ho : (i.run fuel f).1 with
    | unfinished k =>
        rw [ho] at ends
        exact ends.elim
    | _ =>
        rw [ho] at after
        exact after

/-- What cannot be filed is given up. -/
theorem Upshot.drop_accounted {u : Upshot} {h : Host} {rest : List LockToken}
    (acc : Accounted h.storage (u.token.toList ++ rest)) : Accounted (u.drop h).storage rest := by
  cases u with
  | sleeps s => exact Invocation.cancel_accounted acc
  | _ => exact acc

/-- What is filed of a job has the token of its run. -/
theorem Entry.tokensOf_files? {e : Entry} {now : Instant} {n : Nat} {u : Upshot} {new : List Entry}
    (files : e.files? now n u = some new) : tokensOf (contextsOf new) = u.token.toList := by
  obtain ⟨again, still, parked⟩ := Entry.files?_eq_some files
  have hnone : tokensOf (contextsOf again) = [] := by
    rcases Entry.again?_eq_some still with ⟨_, rfl⟩ | ⟨script, due, _, rfl⟩
    · rfl
    · cases job : e.job with
      | resume s => simp [job, Job.isRun] at script
      | periodic _ _ _ _ => simp [Job.contexts]
  rcases parked with ⟨awake, rfl⟩ | ⟨s, due, rfl, _, rfl⟩
  · rw [hnone]
    cases u <;> first | rfl | cases awake
  · simp [hnone, Suspension.entry, Job.contexts, Suspension.setLockWait, Invocation.setLockWait, Upshot.token]

namespace Scheduler

theorem tokensOf_addSuspension {c d : Scheduler} {s : Suspension} {now : Instant} {id : Nat}
    (added : c.addSuspension s now = (some id, d)) :
    tokensOf d.contexts = tokensOf c.contexts ++ s.invocation.context.lock.toList := by
  rcases c.addSuspension_cases s now with ⟨_, broke⟩ | ⟨due, _, held⟩
  · rw [broke] at added
    cases added
  · rw [held] at added
    cases added
    simp [contexts, Suspension.entry, Job.contexts, Suspension.setLockWait, Invocation.setLockWait]

theorem contexts_of_addSuspension_none {c d : Scheduler} {s : Suspension} {now : Instant}
    (broke : c.addSuspension s now = (none, d)) : d.contexts = c.contexts := by
  rcases c.addSuspension_cases s now with ⟨_, same⟩ | ⟨due, _, held⟩
  · rw [same] at broke
    cases broke
    rfl
  · rw [held] at broke
    cases broke

theorem contexts_of_addPeriodic {c d : Scheduler} {script : Script} {inputs : Inputs} {now : Instant}
    {r : Registration} (added : c.addPeriodic script inputs now = (r, d)) : d.contexts = c.contexts := by
  rcases c.addPeriodic_cases script inputs now with ⟨_, same⟩ | ⟨pos, ⟨_, broke⟩ | ⟨due, _, held⟩⟩
  · rw [same] at added
    cases added
    rfl
  · rw [broke] at added
    cases added
    rfl
  · rw [held] at added
    cases added
    simp [contexts, Job.contexts]

/-- **Executing jobs keeps the account.** -/
theorem runEntries_accounted {fuel : Nat} {now : Instant} {c : Scheduler} {h : Host} {es : List Entry}
    {rest : List LockToken}
    (finished : ∀ r ∈ runsOf fuel now c h es, (r.1.run fuel r.2).1.Finished)
    (acc : Accounted h.storage (tokensOf (contextsOf es) ++ (tokensOf c.contexts ++ rest))) :
    Accounted (c.runEntries fuel now h es).2.2.storage
      (tokensOf (c.runEntries fuel now h es).2.1.contexts ++ rest) := by
  induction es generalizing c h with
  | nil => exact acc
  | cons e es ih =>
      rw [contextsOf_cons, tokensOf_append, List.append_assoc] at acc
      have serves := serves_runEntry fuel now c h e
      rw [runsOf] at finished
      rw [runEntries]
      rcases entry : c.runEntry fuel now h e with ⟨done, d, g⟩
      rw [entry] at serves finished
      have mine : ∀ {again}, e.again? now = some again → ∀ i f, e.job.begin h = (some i, f) →
          (i.run fuel f).1.Finished := by
        intro again still i f begins
        refine finished (i, f) (List.mem_append_left _ (Option.mem_toList.2 ?_))
        exact Entry.run?_eq_some.2 ⟨by rw [still]; rfl, begins⟩
      cases serves with
      | overdue never =>
          -- only a script can be overdue, and it has no token
          cases job : e.job with
          | resume s => simp [Entry.again?, job] at never
          | periodic _ _ _ _ =>
              rw [job] at acc
              exact giveUp_accounted acc
      | @broke u f still executed files =>
          obtain ⟨again, is⟩ := Option.isSome_iff_exists.1 still
          exact giveUp_accounted (Upshot.drop_accounted (Job.execute_accounted executed (mine is) acc))
      | @filed u _ new executed files =>
          obtain ⟨again, is, _⟩ := Entry.files?_eq_some files
          have one := Job.execute_accounted executed (mine is) acc
          refine ih (fun r mem => finished r (List.mem_append_right _ mem)) (one.perm ?_)
          have held : tokensOf (⟨c.entries ++ new, c.nextId + e.mints u⟩ : Scheduler).contexts =
              tokensOf c.contexts ++ u.token.toList := by
            simp only [contexts, contextsOf_append, tokensOf_append, Entry.tokensOf_files? files]
          rw [held]
          -- the jobs still to come are a part of the remainder while this one is executed
          refine (List.perm_append_comm_assoc _ _ _).trans (.append_left _ ?_)
          rw [List.append_assoc]
          exact List.perm_append_comm_assoc _ _ _

/-- Taking out what is due loses no run. -/
theorem takeReady_perm {c d : Scheduler} {now : Instant} {ready : List Entry}
    (h : c.takeReady now = (ready, d)) :
    (tokensOf (contextsOf ready) ++ tokensOf d.contexts).Perm (tokensOf c.contexts) := by
  unfold takeReady at h
  rw [List.partition_eq_filter_filter] at h
  cases h
  rw [← tokensOf_append, contexts, ← contextsOf_append]
  exact contextsOf_perm (List.filter_append_perm _ _)

/-- **Executing all that is due keeps the account.** -/
theorem runReady_accounted {fuel : Nat} {now : Instant} {c : Scheduler} {h : Host} {rest : List LockToken}
    (finished : ∀ r ∈ c.runs fuel h now, (r.1.run fuel r.2).1.Finished)
    (acc : Accounted h.storage (tokensOf c.contexts ++ rest)) :
    Accounted (c.runReady fuel h now).2.2.storage
      (tokensOf (c.runReady fuel h now).2.1.contexts ++ rest) := by
  refine runEntries_accounted finished (acc.perm ?_)
  rw [← List.append_assoc]
  exact (takeReady_perm rfl).symm.append_right rest

/-- Giving up the job of an id leaves the others. -/
theorem cancel_accounted {c c' : Scheduler} {id : Nat} {h h' : Host} {rest : List LockToken}
    (hc : c.cancel id h = some (c', h')) (acc : Accounted h.storage (tokensOf c.contexts ++ rest)) :
    Accounted h'.storage (tokensOf c'.contexts ++ rest) := by
  unfold cancel at hc
  cases hf : c.entries.find? (·.id == id) with
  | none => simp [hf] at hc
  | some e =>
      simp only [hf, Option.some.injEq, Prod.mk.injEq] at hc
      obtain ⟨rfl, rfl⟩ := hc
      obtain ⟨hid, before, after, hentries, hbefore⟩ := List.find?_eq_some_iff_append.1 hf
      have left : c.entries.eraseP (·.id == id) = before ++ after := by
        rw [hentries, List.eraseP_append_right _ (by simpa using hbefore)]
        simp [hid]
      refine Job.cancel_accounted (acc.perm ?_)
      simp only [contexts, left]
      rw [hentries, ← List.append_assoc, ← tokensOf_append, ← contextsOf_cons]
      exact (contextsOf_perm List.perm_middle).append_right rest

end Scheduler

/-! ### The world -/

theorem tokensOf_eq_nil {cs : List Context} : tokensOf cs = [] ↔ ∀ c ∈ cs, c.lock = none := by
  simp [tokensOf, List.flatMap_eq_nil_iff]

/-- A single token is the one of a single run. -/
theorem tokensOf_eq_singleton {cs : List Context} {token : LockToken} :
    tokensOf cs = [token] ↔ ∃ before c after, cs = before ++ c :: after ∧ c.lock = some token ∧
      ∀ d ∈ before ++ after, d.lock = none := by
  constructor
  · intro h
    induction cs with
    | nil => simp at h
    | cons c cs ih =>
        cases hl : c.lock with
        | none =>
            rw [tokensOf_cons, hl] at h
            obtain ⟨before, d, after, rfl, hd, hrest⟩ := ih h
            refine ⟨c :: before, d, after, rfl, hd, ?_⟩
            intro x hx
            rcases List.mem_cons.1 hx with rfl | hx
            · exact hl
            · exact hrest x hx
        | some other =>
            simp only [tokensOf_cons, hl, Option.toList_some, List.cons_append, List.nil_append,
              List.cons.injEq] at h
            exact ⟨[], c, cs, rfl, by rw [hl, h.1], tokensOf_eq_nil.1 h.2⟩
  · rintro ⟨before, c, after, rfl, hc, hrest⟩
    have hbefore : tokensOf before = [] := tokensOf_eq_nil.2 fun d hd => hrest d (by simp [hd])
    have hafter : tokensOf after = [] := tokensOf_eq_nil.2 fun d hd => hrest d (by simp [hd])
    simp [hbefore, hafter, hc]

/-- A run comes to its end by itself, or is given up. -/
inductive Invocation.Ends (i : Invocation) (h : Host) : Host → Prop
  | completes {fuel : Nat} {t : Termination} {values : ValueMap} {h' : Host}
      (run : i.run fuel h = (.completed t values, h')) : Ends i h h'
  | cancelled : Ends i h (i.cancel h)

theorem Invocation.Ends.accounted {i : Invocation} {h h' : Host} {rest : List LockToken}
    (ends : i.Ends h h') (acc : Accounted h.storage (i.context.lock.toList ++ rest)) :
    Accounted h'.storage rest := by
  cases ends with
  | completes run => exact Invocation.run_accounted run acc
  | cancelled => exact Invocation.cancel_accounted acc

namespace World

/-- The tokens of all runs that sleep, those the host keeps itself first. -/
theorem tokensOf_live (w : World) :
    tokensOf w.live =
      tokensOf (w.kept.map fun s => s.invocation.context) ++ tokensOf w.scheduler.contexts := by
  simp [live]

/-- The tokens with those of one run in front. -/
theorem tokensOf_live_perm {w : World} {before after : List Suspension} {s : Suspension}
    (kept : w.kept = before ++ s :: after) :
    (tokensOf w.live).Perm (s.invocation.context.lock.toList ++
      tokensOf ({ w with kept := before ++ after } : World).live) := by
  simp only [tokensOf_live, kept, List.map_append, List.map_cons, tokensOf_append, tokensOf_cons,
    List.append_assoc]
  exact List.perm_append_comm_assoc _ _ _

/-- **Every step of a host keeps the account.** -/
theorem Step.accounted {w w' : World} (step : w.Step w')
    (acc : Accounted w.host.storage (tokensOf w.live)) :
    Accounted w'.host.storage (tokensOf w'.live) := by
  cases step with
  | start bound run finished =>
      have after := Invocation.start_run_accounted bound run acc
      rw [← Outcome.tokensOf_sleeping finished, ← tokensOf_append] at after
      simpa [live] using after
  | refuse unbound =>
      rw [Invocation.start_storage unbound]
      exact acc
  | @resume before after s wait h fuel o kept run finished =>
      have front := acc.perm (tokensOf_live_perm kept)
      have left := Invocation.run_accounted (i := (s.setLockWait wait).invocation) run front
      rw [← Outcome.tokensOf_sleeping finished] at left
      refine left.perm ?_
      simp only [tokensOf_live, List.map_append, tokensOf_append, List.append_assoc]
      exact List.perm_append_comm_assoc _ _ _
  | cancel kept => exact Invocation.cancel_accounted (acc.perm (tokensOf_live_perm kept))
  | park kept added =>
      refine (acc.perm (tokensOf_live_perm kept)).perm ?_
      simp only [tokensOf_live, Scheduler.tokensOf_addSuspension added]
      rw [← List.append_assoc (tokensOf _) (tokensOf _)]
      exact List.perm_append_comm
  | parkBreaks kept broke =>
      have left := Invocation.cancel_accounted (acc.perm (tokensOf_live_perm kept))
      simp only [tokensOf_live, Scheduler.contexts_of_addSuspension_none broke] at left ⊢
      exact left
  | addPeriodic added =>
      rw [tokensOf_live] at acc ⊢
      rw [Scheduler.contexts_of_addPeriodic added]
      exact acc
  | cancelJob cancelled =>
      rw [tokensOf_live] at acc ⊢
      exact (Scheduler.cancel_accounted cancelled (acc.perm List.perm_append_comm)).perm
        List.perm_append_comm
  | cancelAll =>
      rw [tokensOf_live] at acc ⊢
      refine (Scheduler.giveUp_accounted (acc.perm List.perm_append_comm)).perm ?_
      simp [Scheduler.cancelAll, Scheduler.contexts]
  | dropReady now =>
      rw [tokensOf_live] at acc ⊢
      rcases ht : w.scheduler.takeReady now with ⟨ready, c⟩
      refine (Scheduler.giveUp_accounted (acc.perm ?_)).perm List.perm_append_comm
      refine List.perm_append_comm.trans ?_
      rw [← List.append_assoc]
      exact (Scheduler.takeReady_perm ht).symm.append_right _
  | runReady run finished =>
      rw [tokensOf_live] at acc ⊢
      have after := Scheduler.runReady_accounted finished (acc.perm List.perm_append_comm)
      rw [run] at after
      exact after.perm List.perm_append_comm
  | meanwhile storage =>
      rw [storage]
      exact acc

/-- **In every state that a host can come to, the lock is held by one run that sleeps or by nobody.**
The holder is the one run that has a token, and a document is open only while there is a holder.  A run
that has ended, in whatever way, has no token left.  So the lock is free when no run is left. -/
theorem lock_accounted {host : Host} {storage : Storage} (configured : host.storage = some storage)
    (free : storage.holder = none) (closed : storage.opened = none) {w : World}
    (reached : Reachable { host } w) :
    ∃ st, w.host.storage = some st ∧
      (∀ token, st.holder = some token ↔
        ∃ before c after, w.live = before ++ c :: after ∧ c.lock = some token ∧
          ∀ d ∈ before ++ after, d.lock = none) ∧
      (∀ c ∈ w.live, ∀ token, c.lock = some token → st.holder = some token) ∧
      (∀ name, st.opened = some name →
        st.holder.isSome = true ∧ st.documents.contains name = true) ∧
      (∀ (i : Invocation) (others : List Context),
        (i.context.lock = none ∧ others = w.live ∨
          ∃ before after, w.live = before ++ i.context :: after ∧ others = before ++ after) →
        ∀ h, i.Ends w.host h → ∃ left, h.storage = some left ∧
          ∀ token, left.holder = some token → ∃ c ∈ others, c.lock = some token) ∧
      (w.live = [] → st.holder = none) := by
  have acc : Accounted w.host.storage (tokensOf w.live) := by
    refine reached.invariant (P := fun w => Accounted w.host.storage (tokensOf w.live)) ?_
      Step.accounted
    rw [configured]
    exact ⟨by simp [free, live, Scheduler.contexts, Scheduler.empty], fun name ho => by
      rw [closed] at ho
      cases ho⟩
  cases hs : w.host.storage with
  | none =>
      rw [hs] at acc
      exact acc.elim
  | some st =>
      have acc' := acc
      rw [hs] at acc'
      obtain ⟨tokens, opened⟩ := acc'
      refine ⟨st, rfl, ?_, ?_, opened, ?_, ?_⟩
      · intro token
        rw [← tokensOf_eq_singleton, ← tokens]
        cases st.holder <;> simp
      · intro c hc token hl
        have hmem : token ∈ tokensOf w.live := List.mem_flatMap.2 ⟨c, hc, by simp [hl]⟩
        rw [← tokens] at hmem
        simpa using hmem
      · intro i others hothers h ends
        have apart : Accounted w.host.storage (i.context.lock.toList ++ tokensOf others) := by
          rcases hothers with ⟨hl, rfl⟩ | ⟨before, after, hlive, rfl⟩
          · simpa [hl] using acc
          · refine acc.perm ?_
            simp only [hlive, tokensOf_append, tokensOf_cons]
            exact List.perm_append_comm_assoc _ _ _
        have left := ends.accounted apart
        cases hh : h.storage with
        | none =>
            rw [hh] at left
            exact left.elim
        | some st' =>
            rw [hh] at left
            refine ⟨st', rfl, fun token held => ?_⟩
            have hmem : token ∈ tokensOf others := by simp [← left.1, held]
            obtain ⟨c, hc, hl⟩ := List.mem_flatMap.1 hmem
            exact ⟨c, hc, by simpa using hl⟩
      · intro hnone
        rw [hnone] at tokens
        simpa using tokens

/-- A script that opens a document and goes to sleep with the lock. -/
def sleeper : Script :=
  { statements :=
      #[.storage (.open (.constant (.ofText "d"))), .sleep (.constant (.ofNumber 5)), .finish] }

/-- The one run that sleeps holds the lock. -/
theorem lock_accounted_sleeper :
    ∃ w st, Reachable { host := { storage := some .empty } } w ∧ w.host.storage = some st ∧
      st.holder = some ⟨0⟩ ∧ ∃ before c after, w.live = before ++ c :: after ∧
        c.lock = some ⟨0⟩ ∧ ∀ d ∈ before ++ after, d.lock = none := by
  let i : Invocation := { script := sleeper, context := .ofInputs "" {} }
  have finished : decide (i.run 5 { storage := some .empty }).1.Finished = true := by
    decide +kernel
  have held : (i.run 5 { storage := some .empty }).2.storage.bind Storage.holder = some ⟨0⟩ := by
    decide +kernel
  rcases run : i.run 5 { storage := some .empty } with ⟨o, h⟩
  rw [run] at finished held
  have bound : Invocation.start sleeper {} "" { storage := some .empty } =
      (.ok i, { storage := some .empty }) := rfl
  have awake : i.setLockWait i.context.lockWait = i := rfl
  have step := Step.start (w := { host := { storage := some .empty } }) bound (awake ▸ run)
    (of_decide_eq_true finished)
  have reached := Reachable.start.step step
  obtain ⟨st, hs, hholder, _⟩ := lock_accounted rfl rfl rfl reached
  dsimp only at hs held
  rw [hs] at held
  exact ⟨_, st, reached, hs, held, (hholder _).1 held⟩

end World

end LineScript
