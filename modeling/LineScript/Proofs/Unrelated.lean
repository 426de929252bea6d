import LineScript.Proofs.Alike
import LineScript.Proofs.ListFrame
import LineScript.Proofs.LockAccount

/-!
**Unrelated runs do not interfere.**

While a run sleeps, others have their turn on the same host.  One that has no statement on storage can
get at a sleeping run through the lists of the host only, and of these it reaches none but those it
loads.  So if the two load no list in common, the sleeping run goes on afterwards as if the other had
not been there: it stops in the same way and with the same values, shows the same, and leaves storage
and lists the same.

Main definitions:

* `LineScript.Invocation.Underway` — the runs that a host can come to;
* `LineScript.Invocation.Uses` — the lists that a run has loaded or loads until it stops;
* `LineScript.Host.Interlude` — **the turn of a run without statements on storage**;
* `LineScript.Host.Spared`, `LineScript.Host.Parallel` — hosts before and after such a turn, and hosts
  on which a run is compared with itself.

Main results:

* `LineScript.Host.Interlude.spared` — **such a turn changes no storage, and no list but those that the
  run uses**;
* `LineScript.Invocation.parallel_run` — a run that uses none of these lists does the same on both hosts;
* `LineScript.Suspension.resume_unnoticed` — **a run does not notice the turn of an unrelated one**.
-/

set_option autoImplicit false

namespace LineScript

open Catalogue (AgreeOff)

/-! ### Runs -/

/-- What is left of a run after a step, to be gone on with at once or after a sleep. -/
def Progress.left? : Progress → Option Invocation
  | goesOn i => some i
  | stops (.suspended s) => some s.invocation
  | stops _ => none

/-- The script has no statement on storage. -/
def Script.Storageless (script : Script) : Prop := ∀ st ∈ script.statements, ∀ q, st ≠ .storage q

namespace Invocation

/-- **The runs that a host can come to**: it starts a script, lets it take steps, through sleeps too,
and sets how long it waits for the lock.  What the host is like at each step is left open. -/
inductive Underway : Invocation → Prop
  | starts {script : Script} {inputs : Inputs} {arguments : String} {i : Invocation} {h g : Host}
      (bound : start script inputs arguments h = (.ok i, g)) : Underway i
  | steps {i j : Invocation} {h g : Host} {p : Progress} (before : Underway i)
      (step : i.step h = (p, g)) (left : p.left? = some j) : Underway j
  | waits {i : Invocation} (before : Underway i) (wait : Duration) : Underway (i.setLockWait wait)

/-- The lists that a run loads until it stops. -/
def Loads (i : Invocation) (h : Host) (name : String) : Prop :=
  ∃ n j g st, Passes n i h j g ∧ j.ready? = some st ∧ (j.session g).Loading st name

/-- **The lists that a run uses**: those it has loaded, and those it loads until it stops. -/
def Uses (i : Invocation) (h : Host) (name : String) : Prop :=
  i.context.desk.loaded.contains name = true ∨ i.Loads h name

theorem Loads.of_ready {i : Invocation} {h : Host} {st : Statement} {name : String}
    (ready : i.ready? = some st) (loading : (i.session h).Loading st name) : i.Loads h name :=
  ⟨0, i, h, st, .refl i h, ready, loading⟩

theorem Loads.of_step {i j : Invocation} {h g : Host} {name : String}
    (step : i.step h = (.goesOn j, g)) (loads : j.Loads g name) : i.Loads h name := by
  obtain ⟨n, k, f, st, passes, ready, loading⟩ := loads
  exact ⟨n + 1, k, f, st, .head step passes, ready, loading⟩

/-- What is left of a run has the context that its statement has left. -/
theorem Moves.left {i j : Invocation} {h g : Host} {p : Progress} (m : i.Moves h p g)
    (left : p.left? = some j) :
    j.script = i.script ∧
      ∃ st, i.ready? = some st ∧ j.context = ((i.session h).exec st).2.context := by
  cases m with
  | next ready exec =>
      cases left
      exact ⟨rfl, _, ready, by rw [exec]; rfl⟩
  | jumps ready exec found =>
      cases left
      exact ⟨rfl, _, ready, by rw [exec]; rfl⟩
  | sleeps ready exec pos =>
      cases left
      exact ⟨rfl, _, ready, by rw [exec]; rfl⟩
  | pastLast out => cases left
  | overBudget hat spent => cases left
  | ended ready exec => cases left
  | missingLabel ready exec missing => cases left
  | breaks ready exec => cases left

theorem start_desk {script : Script} {inputs : Inputs} {arguments : String} {h g : Host}
    {i : Invocation} (bound : start script inputs arguments h = (.ok i, g)) :
    i.context.desk = .empty := by
  unfold start at bound
  dsimp only at bound
  split at bound <;> cases bound <;> rfl

/-- **In every run a list of the host that is open was loaded.** -/
theorem Underway.tracked {i : Invocation} (underway : i.Underway) : i.context.desk.Tracked := by
  induction underway with
  | starts bound =>
      rw [start_desk bound]
      intro name number hopen
      cases hopen
  | steps before step left ih =>
      obtain ⟨_, st, _, context⟩ := (Moves.of_step step).left left
      rw [context]
      exact (Session.shifts_exec _ st).tracked ih
  | waits before wait ih => exact ih

theorem mem_of_ready {i : Invocation} {st : Statement} (ready : i.ready? = some st) :
    st ∈ i.script.statements := Array.mem_of_getElem? (ready?_eq_some.1 ready).2

theorem noStorage_of_ready {i : Invocation} {st : Statement} (storageless : i.script.Storageless)
    (ready : i.ready? = some st) : ∀ q, st ≠ .storage q :=
  storageless st (mem_of_ready ready)

end Invocation

/-! ### Lists by the text of a script -/

/-- The script loads lists by constant names only, and only by the given ones. -/
def Script.LoadsOnly (script : Script) (names : String → Prop) : Prop :=
  ∀ o, .list (.load o) ∈ script.statements → ∃ v, o = .constant v ∧ names v.text

namespace Invocation

variable {names : String → Prop} {i : Invocation}

theorem names_of_loading {st : Statement} {s : Session} {name : String}
    (only : i.script.LoadsOnly names) (ready : i.ready? = some st) (loading : s.Loading st name) :
    names name := by
  obtain ⟨o, rfl, text⟩ := loading
  obtain ⟨v, rfl, named⟩ := only o (mem_of_ready ready)
  rw [← text]
  exact named

/-- **A run uses no lists but those that its script names.** -/
theorem Underway.names_of_uses (underway : i.Underway) (only : i.script.LoadsOnly names) {h : Host}
    {name : String} (uses : i.Uses h name) : names name := by
  rcases uses with loaded | ⟨n, j, g, st, passes, ready, loading⟩
  · clear h
    induction underway with
    | starts bound =>
        rw [start_desk bound] at loaded
        cases loaded
    | steps before step left ih =>
        obtain ⟨script, st, ready, context⟩ := (Moves.of_step step).left left
        rw [script] at only
        rw [context] at loaded
        rcases (Session.shifts_exec _ st).contains_loaded loaded with already | loading
        · exact ih only already
        · exact names_of_loading only ready loading
    | waits before wait ih => exact ih only loaded
  · exact names_of_loading (passes.script_eq ▸ only) ready loading

theorem Passes.underway {n : Nat} {i j : Invocation} {h g : Host} (passes : Passes n i h j g)
    (underway : i.Underway) : j.Underway := by
  induction passes with
  | refl => exact underway
  | head step _ ih => exact ih (underway.steps step rfl)

/-- What a run leaves when it falls asleep is underway. -/
theorem Underway.asleep (underway : i.Underway) {fuel : Nat} {h g : Host} {s : Suspension}
    (run : i.run fuel h = (.suspended s, g)) : s.invocation.Underway := by
  rcases run_cases run with ⟨j, same, _⟩ | ⟨n, j, f, _, passes, step⟩
  · cases same
  · exact (passes.underway underway).steps step rfl

end Invocation

/-! ### The turn of another run -/

namespace Host

/-- Storage is the same, and so are all lists but those under the given names. -/
structure Spared (names : String → Prop) (h g : Host) : Prop where
  storage : g.storage = h.storage
  lists : AgreeOff names h.catalogue g.catalogue

namespace Spared

variable {names : String → Prop} {h g f : Host}

theorem refl (h : Host) : Spared names h h := ⟨rfl, .refl _⟩

theorem trans (first : Spared names h g) (second : Spared names g f) : Spared names h f :=
  ⟨second.storage.trans first.storage, first.lists.trans second.lists⟩

theorem of_sameStock {s t : Session} (same : s.SameStock t) : Spared names s.host t.host :=
  ⟨same.storage, same.catalogue ▸ .refl _⟩

end Spared

end Host

open Host (Spared)

namespace Session

theorem releaseLock_of_none {s : Session} (without : s.context.lock = none) : s.releaseLock = s := by
  unfold releaseLock
  rw [without]

theorem plain_flush : Plain flush := fun s t => (aside_stockedAs t).flush s

/-- What a run without the lock says at its end spares all. -/
theorem spared_releaseLock {names : String → Prop} {p : Session → Session} (plain : Plain p)
    (s : Session) (without : s.context.lock = none) : Spared names s.host (p s).releaseLock.host := by
  have same := plain.sameStock s
  rw [releaseLock_of_none (same.lock.trans without)]
  exact .of_sameStock same

end Session

namespace Invocation

variable {names : String → Prop} {i : Invocation} {h g : Host}

/-- **A step of a run without statements on storage** spares storage and all lists that it does not
reach, and leaves the run without the lock and with no other list open. -/
theorem Moves.spares {p : Progress} (m : i.Moves h p g) (storageless : i.script.Storageless)
    (without : i.context.lock = none) (within : i.context.desk.Within names)
    (loads : ∀ st, i.ready? = some st → ∀ name, (i.session h).Loading st name → names name) :
    Spared names h g ∧
      ∀ j, p.left? = some j → j.context.lock = none ∧ j.context.desk.Within names := by
  have executed : ∀ {st flow s}, i.ready? = some st → (i.session h).exec st = (flow, s) →
      Spared names h s.host ∧ s.context.lock = none ∧ s.context.desk.Within names := by
    intro st flow s ready exec
    have noStorage := noStorage_of_ready storageless ready
    have spared := Session.exec_spares (i.session h) noStorage within (loads st ready)
    have lock := congrArg Prod.fst (Session.guarded_exec (i.session h) noStorage)
    have desk := (Session.shifts_exec (i.session h) st).within within
      (fun ⟨q, same⟩ => noStorage q same) (loads st ready)
    rw [exec] at spared lock desk
    exact ⟨⟨spared.1, spared.2⟩, lock.trans without, desk⟩
  cases m with
  | pastLast out =>
      have said := Session.plain_remark (.pastLast i.cursor)
      exact ⟨Session.spared_releaseLock said (i.session h) without, fun j left => nomatch left⟩
  | @overBudget _ budget hat spent =>
      have said := Session.plain_remark (.overBudget budget)
      exact ⟨Session.spared_releaseLock said (i.session h) without, fun j left => nomatch left⟩
  | next ready exec =>
      obtain ⟨spared, lock, desk⟩ := executed ready exec
      refine ⟨spared, fun j left => ?_⟩
      cases left
      exact ⟨lock, desk⟩
  | ended ready exec =>
      obtain ⟨spared, lock, _⟩ := executed ready exec
      have flushed := Session.plain_flush
      exact ⟨spared.trans (Session.spared_releaseLock flushed _ lock), fun j left => nomatch left⟩
  | jumps ready exec found =>
      obtain ⟨spared, lock, desk⟩ := executed ready exec
      refine ⟨spared, fun j left => ?_⟩
      cases left
      exact ⟨lock, desk⟩
  | @missingLabel _ _ label ready exec missing =>
      obtain ⟨spared, lock, _⟩ := executed ready exec
      have said := Session.plain_remark (.unknownLabel label)
      exact ⟨spared.trans (Session.spared_releaseLock said _ lock), fun j left => nomatch left⟩
  | @sleeps st s n ready exec pos =>
      obtain ⟨spared, lock, desk⟩ := executed ready exec
      have asleep : Spared names s.host (hostAsleep n s) := by
        unfold hostAsleep
        split
        · exact .of_sameStock ((Session.plain_remark _).sameStock s)
        · exact .refl _
      refine ⟨spared.trans asleep, fun j left => ?_⟩
      cases left
      exact ⟨lock, desk⟩
  | breaks ready exec =>
      obtain ⟨spared, lock, _⟩ := executed ready exec
      rw [Session.releaseLock_of_none lock]
      exact ⟨spared, fun j left => nomatch left⟩

/-- **A run without statements on storage** spares storage and all lists that it does not reach. -/
theorem run_spares (storageless : i.script.Storageless) (without : i.context.lock = none)
    (within : i.context.desk.Within names) (loads : ∀ name, i.Loads h name → names name) (fuel : Nat) :
    Spared names h (i.run fuel h).2 := by
  induction fuel generalizing i h with
  | zero => exact .refl h
  | succ fuel ih =>
      rcases step : i.step h with ⟨p, f⟩
      have m := Moves.of_step step
      obtain ⟨spared, left⟩ := m.spares storageless without within
        fun st ready name loading => loads name (.of_ready ready loading)
      simp only [run, step]
      cases p with
      | goesOn j =>
          obtain ⟨lock, desk⟩ := left j rfl
          have rest := ih (m.script_eq ▸ storageless) lock desk fun name later =>
            loads name (later.of_step step)
          exact spared.trans rest
      | stops o => exact spared

/-- A run without statements on storage has neither the lock nor a stored list open. -/
theorem Underway.without_storage (underway : i.Underway) (storageless : i.script.Storageless) :
    i.context.lock = none ∧ i.context.desk.Within fun _ => True := by
  induction underway with
  | starts bound =>
      refine ⟨start_lock bound, ?_⟩
      rw [start_desk bound]
      intro l hopen
      cases hopen
  | steps before step left ih =>
      have m := Moves.of_step step
      obtain ⟨script, _⟩ := m.left left
      rw [script] at storageless
      obtain ⟨lock, within⟩ := ih storageless
      exact (m.spares storageless lock within fun _ _ _ _ => trivial).2 _ left
  | waits before wait ih => exact ih storageless

/-- So its open list is among those that it uses, or nobody else has it. -/
theorem Underway.within_uses (underway : i.Underway) (storageless : i.script.Storageless) (h : Host) :
    i.context.desk.Within (i.Uses h) := by
  intro l hopen
  cases l with
  | supplied name number => exact .inl (underway.tracked name number hopen)
  | stored name => exact (underway.without_storage storageless).2 _ hopen
  | own name records => exact trivial

theorem Underway.run_spares (underway : i.Underway) (storageless : i.script.Storageless) (fuel : Nat)
    (h : Host) : Spared (i.Uses h) h (i.run fuel h).2 :=
  Invocation.run_spares storageless (underway.without_storage storageless).1
    (underway.within_uses storageless h) (fun _ => .inr) fuel

theorem start_spares {script : Script} {inputs : Inputs} {arguments : String}
    {r : Except BindError Invocation} (bound : start script inputs arguments h = (r, g)) :
    Spared names h g := by
  unfold start at bound
  dsimp only at bound
  split at bound
  · cases bound
    exact .refl _
  · cases bound
    exact ⟨rfl, .refl _⟩
  · cases bound
    exact ⟨rfl, .refl _⟩

theorem start_script {script : Script} {inputs : Inputs} {arguments : String}
    (bound : start script inputs arguments h = (.ok i, g)) : i.script = script := by
  unfold start at bound
  dsimp only at bound
  split at bound <;> cases bound <;> rfl

end Invocation

namespace Host

/-- **The turn of a run without statements on storage**: it is started or resumed, and goes on for a
while, at most until it stops.  With the lists that it uses. -/
inductive Interlude (h : Host) : (String → Prop) → Host → Prop
  | starts {script : Script} {inputs : Inputs} {arguments : String} {i : Invocation} {g : Host}
      (storageless : script.Storageless)
      (bound : Invocation.start script inputs arguments h = (.ok i, g)) (wait : Duration) (fuel : Nat) :
      Interlude h ((i.setLockWait wait).Uses g) ((i.setLockWait wait).run fuel g).2
  /-- the arguments cannot be bound -/
  | refuses {script : Script} {inputs : Inputs} {arguments : String} {e : BindError} {g : Host}
      (unbound : Invocation.start script inputs arguments h = (.error e, g)) :
      Interlude h (fun _ => False) g
  | resumes {s : Suspension} (underway : s.invocation.Underway)
      (storageless : s.invocation.script.Storageless) (wait : Duration) (fuel : Nat) :
      Interlude h ((s.setLockWait wait).invocation.Uses h) ((s.setLockWait wait).resume fuel h).2

/-- **Such a turn changes no storage, and no list but those that the run uses.** -/
theorem Interlude.spared {h g : Host} {uses : String → Prop} (turn : Interlude h uses g) :
    Spared uses h g := by
  cases turn with
  | starts storageless bound wait fuel =>
      have underway := (Invocation.Underway.starts bound).waits wait
      rw [← Invocation.start_script bound] at storageless
      exact (Invocation.start_spares bound).trans (underway.run_spares storageless fuel _)
  | refuses unbound => exact Invocation.start_spares unbound
  | resumes underway storageless wait fuel =>
      exact (underway.waits wait).run_spares storageless fuel h

end Host

/-! ### The same run on two hosts -/

/-- Sessions with equal values that have shown the same, each after something else. -/
def Likeness.after (es fs : List Emission) : Likeness where
  values m n := n = m
  emitted shown shown' := ∃ own, shown = es ++ own ∧ shown' = fs ++ own
  read_eq same _ := by rw [same]
  members_eq same _ := by rw [same]
  set same _ _ := by rw [same]
  touch same _ := by rw [same]
  drop same _ := by rw [same]
  emit := by
    rintro _ _ ⟨own, rfl, rfl⟩ e
    exact ⟨own ++ [e], List.append_assoc .., List.append_assoc ..⟩

/-- The hosts differ only in lists under the given names, and in what was shown before. -/
structure Host.Parallel (names : String → Prop) (es fs : List Emission) (h g : Host) : Prop where
  storage : g.storage = h.storage
  draws : g.draws = h.draws
  clock : g.clock = h.clock
  lists : AgreeOff names h.catalogue g.catalogue
  shown : ∃ own, h.emitted = es ++ own ∧ g.emitted = fs ++ own

namespace Session

/-- The same run on two such hosts. -/
structure Parallel (names : String → Prop) (es fs : List Emission) (s t : Session) : Prop where
  context : t.context = s.context
  host : s.host.Parallel names es fs t.host

variable {names : String → Prop} {es fs : List Emission} {s t : Session}

/-- With the lists of the second host, the first session is like the second. -/
theorem Parallel.alike (p : s.Parallel names es fs t) :
    (s.withCatalogue t.host.catalogue).Alike (.after es fs) t := by
  have values : t.values = s.values := congrArg Context.values p.context
  refine ⟨?_, values, p.host.shown⟩
  calc t = ⟨t.context, t.host.storage, t.host.catalogue, t.host.draws, t.host.clock, t.host.emitted⟩ := rfl
    _ = ⟨s.context, s.host.storage, t.host.catalogue, s.host.draws, s.host.clock, t.host.emitted⟩ := by
        rw [p.context, p.host.storage, p.host.draws, p.host.clock]
    _ = (s.withCatalogue t.host.catalogue).revised t.values t.host.emitted := by
        rw [values]
        rfl

theorem parallel_of_alike {c : Option Catalogue} (agree : AgreeOff names s.host.catalogue c)
    (alike : (s.withCatalogue c).Alike (.after es fs) t) : s.Parallel names es fs t := by
  obtain ⟨values, emitted, same, shown, rfl⟩ := alike.eq_revised
  cases same
  exact ⟨rfl, rfl, rfl, rfl, agree, shown⟩

/-- What neither looks at the lists of the host nor tells apart sessions that are alike keeps the
sessions parallel. -/
theorem Parallel.map (p : s.Parallel names es fs t) {f : Session → Session}
    (ignores : ∀ (s : Session) c, f (s.withCatalogue c) = (f s).withCatalogue c)
    (alike : ∀ {s t : Session}, s.Alike (.after es fs) t → (f s).Alike (.after es fs) (f t)) :
    (f s).Parallel names es fs (f t) := by
  have kept : (f s).host.catalogue = s.host.catalogue :=
    congrArg (·.host.catalogue) (ignores s s.host.catalogue)
  have after := alike p.alike
  rw [ignores] at after
  exact parallel_of_alike (kept ▸ p.host.lists) after

theorem Parallel.remark (p : s.Parallel names es fs t) (r : Remark) :
    (s.remark r).Parallel names es fs (t.remark r) :=
  p.map (fun s c => (farAside_withCatalogue c).remark s r) fun alike => alike.remark r

theorem Parallel.flush (p : s.Parallel names es fs t) : s.flush.Parallel names es fs t.flush :=
  p.map (fun s c => (farAside_withCatalogue c).flush s) Alike.flush

theorem Parallel.releaseLock (p : s.Parallel names es fs t) :
    s.releaseLock.Parallel names es fs t.releaseLock :=
  p.map (fun s c => (farAside_withCatalogue c).releaseLock s) Alike.releaseLock

/-- **A statement that does not reach the names** goes on in the same way on both hosts. -/
theorem Parallel.exec (p : s.Parallel names es fs t) (st : Statement)
    (avoids : s.context.desk.Avoids names) (others : ∀ name, s.Loading st name → ¬ names name) :
    (t.exec st).1 = (s.exec st).1 ∧ (s.exec st).2.Parallel names es fs (t.exec st).2 := by
  obtain ⟨c, agree, same⟩ := s.exec_overlooks st avoids others p.host.lists
  have paired := p.alike.exec st
  rw [same] at paired
  exact ⟨paired.result, parallel_of_alike agree paired.session⟩

end Session

namespace Invocation

variable {names : String → Prop} {es fs : List Emission} {i : Invocation} {s t : Session} {h g : Host}

theorem parallel_finish (τ : Termination) (p : s.Parallel names es fs t) :
    (finish τ t).1 = (finish τ s).1 ∧ (finish τ s).2.Parallel names es fs (finish τ t).2 := by
  refine ⟨?_, p.releaseLock.host⟩
  simp only [finish, Session.values, p.context]

theorem parallel_follow (p : s.Parallel names es fs t) (flow : Flow) :
    (i.follow t flow).1 = (i.follow s flow).1 ∧
      (i.follow s flow).2.Parallel names es fs (i.follow t flow).2 := by
  have onward : ∀ cursor, i.continueAt cursor t = i.continueAt cursor s := by
    intro cursor
    simp only [continueAt, p.context]
  cases flow with
  | next =>
      simp only [follow, onward]
      exact ⟨trivial, p.host⟩
  | exit => exact parallel_finish .ended p.flush
  | jump label =>
      simp only [follow]
      cases i.script.labels.get? label with
      | some index =>
          simp only [onward]
          exact ⟨trivial, p.host⟩
      | none => exact parallel_finish _ (p.remark _)
  | delay seconds =>
      cases seconds with
      | zero =>
          simp only [follow, onward]
          exact ⟨trivial, p.host⟩
      | succ n =>
          simp only [follow, suspend_eq, onward, hostAsleep, p.context]
          refine ⟨trivial, ?_⟩
          split
          · exact (p.remark _).host
          · exact p.host
  | breakdown => exact parallel_finish .brokeDown p

/-- **A step of a run that does not reach the names** leads to the same on both hosts. -/
theorem parallel_step (p : h.Parallel names es fs g) (avoids : i.context.desk.Avoids names)
    (others : ∀ name, i.Loads h name → ¬ names name) :
    (i.step g).1 = (i.step h).1 ∧ (i.step h).2.Parallel names es fs (i.step g).2 := by
  have sessions : (i.session h).Parallel names es fs (i.session g) := ⟨rfl, p⟩
  cases hat : i.script.statements[i.cursor]? with
  | none =>
      simp only [step, hat]
      exact parallel_finish _ (sessions.remark _)
  | some st =>
      cases spent : i.spentBudget? with
      | some budget =>
          simp only [step, hat, spent]
          exact parallel_finish _ (sessions.remark _)
      | none =>
          have ready : i.ready? = some st := ready?_eq_some.2 ⟨spent, hat⟩
          obtain ⟨flow, left⟩ := sessions.exec st avoids fun name loading =>
            others name (.of_ready ready loading)
          rw [step_of_ready ready, step_of_ready ready, flow]
          exact parallel_follow left _

/-- **A run that does not reach the names** comes to the same on both hosts. -/
theorem parallel_run (p : h.Parallel names es fs g) (avoids : i.context.desk.Avoids names)
    (others : ∀ name, i.Loads h name → ¬ names name) (fuel : Nat) :
    (i.run fuel g).1 = (i.run fuel h).1 ∧ (i.run fuel h).2.Parallel names es fs (i.run fuel g).2 := by
  induction fuel generalizing i h g with
  | zero => exact ⟨rfl, p⟩
  | succ fuel ih =>
      obtain ⟨progress, left⟩ := parallel_step p avoids others
      rcases here : i.step h with ⟨q, h'⟩
      rcases there : i.step g with ⟨r, g'⟩
      rw [here, there] at progress left
      obtain rfl : r = q := progress
      simp only [run, here, there]
      cases r with
      | stops o => exact ⟨rfl, left⟩
      | goesOn j =>
          obtain ⟨_, st, ready, context⟩ := (Moves.of_step here).left rfl
          have shifts := Session.shifts_exec (i.session h) st
          rw [← context] at shifts
          have avoids' := shifts.avoids avoids fun name loading => others name (.of_ready ready loading)
          exact ih left avoids' fun name loads => others name (loads.of_step here)

end Invocation

/-! ### A run does not notice the other -/

/-- All lists that the host ever put under a name, if it supplies lists. -/
def Host.lists? (h : Host) (name : String) : Option (List (List Record)) :=
  h.catalogue.map fun c => c.generations name

theorem Catalogue.AgreeOff.lists?_eq {names : String → Prop} {h g : Host}
    (agree : AgreeOff names h.catalogue g.catalogue) {name : String} (other : ¬ names name) :
    g.lists? name = h.lists? name := by
  unfold Host.lists?
  generalize h.catalogue = c at agree
  generalize g.catalogue = d at agree
  cases agree with
  | absent => rfl
  | present same => simp only [Option.map_some, same name other]

namespace Suspension

/-- **A run does not notice the turn of an unrelated one**, that is, one without a statement on storage
and with no list in common.  Given the same draws and the same time, it ends or sleeps as it would have
without the other, in the same context, and shows the same.  Storage and all lists the other does not
use are the same. -/
theorem resume_unnoticed {a : Suspension} (underway : a.invocation.Underway) {h h' : Host}
    {uses : String → Prop} (turn : h.Interlude uses h') (draws : Draws) (clock : Moment)
    (unrelated : ∀ name, uses name → ¬ a.invocation.Uses { h with draws, clock } name) (fuel : Nat)
    {o : Outcome} {g : Host} (alone : a.resume fuel { h with draws, clock } = (o, g)) :
    ∃ g' own, a.resume fuel { h' with draws, clock } = (o, g') ∧
      g.emitted = h.emitted ++ own ∧ g'.emitted = h'.emitted ++ own ∧
      g'.storage = g.storage ∧ g'.draws = g.draws ∧ g'.clock = g.clock ∧
      ∀ name, ¬ uses name → g'.lists? name = g.lists? name := by
  have spared := turn.spared
  have parallel : Host.Parallel uses h.emitted h'.emitted { h with draws, clock } { h' with draws, clock } :=
    ⟨spared.storage, rfl, rfl, spared.lists, [], (List.append_nil _).symm, (List.append_nil _).symm⟩
  -- an open list of the host was loaded, so it is not one of those that the other run uses
  have avoids : a.invocation.context.desk.Avoids uses := by
    intro l hopen
    cases l with
    | supplied name number =>
        exact fun theirs => unrelated name theirs (.inl (underway.tracked name number hopen))
    | stored name => exact trivial
    | own name records => exact trivial
  obtain ⟨outcome, left⟩ := Invocation.parallel_run parallel avoids
    (fun name loads theirs => unrelated name theirs (.inr loads)) fuel
  rw [resume] at alone ⊢
  rw [alone] at outcome left
  obtain ⟨own, before, after⟩ := left.shown
  exact ⟨(a.invocation.run fuel { h' with draws, clock }).2, own, Prod.ext outcome rfl, before, after,
    left.storage, left.draws, left.clock, fun name other => left.lists.lists?_eq other⟩

/-- A script that adds to a list and says so, sleeps, and does it again. -/
def gathering (name : String) : Script :=
  { statements :=
      #[.fold .set (.plain .script "x") [.constant (.ofText name)],
        .list (.load (.constant (.ofText name))), .list (.add (.plain .script "x")), .write name, .flush,
        .sleep (.constant (.ofNumber 5)), .list (.add (.plain .script "x")), .write name, .finish] }

theorem gathering_storageless (name : String) : (gathering name).Storageless := by
  intro st mem q same
  subst same
  simp [gathering] at mem

theorem gathering_loadsOnly (name : String) : (gathering name).LoadsOnly (· = name) := by
  intro o mem
  have loaded : o = .constant (.ofText name) := by simpa [gathering] using mem
  exact ⟨.ofText name, loaded, rfl⟩

/-- A run of it, just started. -/
def gatherer (name : String) : Invocation := { script := gathering name, context := .ofInputs "" {} }

theorem start_gatherer (name : String) (h : Host) :
    Invocation.start (gathering name) {} "" h = (.ok (gatherer name), h) := rfl

theorem gatherer_underway (name : String) : (gatherer name).Underway := .starts (start_gatherer name {})

/-- The first run has fallen asleep. -/
def firstAsleep : Outcome × Host := (gatherer "mine").run 9 { catalogue := some .empty }

/-- So has the second one, meanwhile. -/
def secondAsleep : Outcome × Host := (gatherer "theirs").run 9 firstAsleep.2

/-- Two runs of the script, each with a list of its own.  The second has its turn while the first
sleeps: it speaks and leaves a record in its list.  The first ends with its two records all the same. -/
theorem resume_unnoticed_gathering :
    ∃ a o g g' own, firstAsleep.1 = .suspended a ∧
      (secondAsleep.2.lists? "theirs").map (·.map List.length) = some [1] ∧
      secondAsleep.2.emitted.length = 2 ∧
      a.resume 9 firstAsleep.2 = (o, g) ∧
      a.resume 9 { secondAsleep.2 with draws := firstAsleep.2.draws, clock := firstAsleep.2.clock } =
        (o, g') ∧
      g.emitted = firstAsleep.2.emitted ++ own ∧ g'.emitted = secondAsleep.2.emitted ++ own ∧
      g'.lists? "mine" = g.lists? "mine" ∧ (g.lists? "mine").map (·.map List.length) = some [2] := by
  have asleep : firstAsleep.1.sleeping.length = 1 := by decide +kernel
  have gathered : ∀ s ∈ firstAsleep.1.sleeping,
      ((s.resume 9 firstAsleep.2).2.lists? "mine").map (·.map List.length) = some [2] := by
    decide +kernel
  have theirs : (secondAsleep.2.lists? "theirs").map (·.map List.length) = some [1] := by decide +kernel
  have spoken : secondAsleep.2.emitted.length = 2 := by decide +kernel
  obtain ⟨a, fell⟩ : ∃ a, firstAsleep.1 = .suspended a := by
    cases left : firstAsleep.1 with
    | suspended a => exact ⟨a, rfl⟩
    | completed => simp [left, Outcome.sleeping] at asleep
    | unfinished => simp [left, Outcome.sleeping] at asleep
  have run : (gatherer "mine").run 9 { catalogue := some .empty } = (.suspended a, firstAsleep.2) :=
    Prod.ext fell rfl
  have first : a.invocation.Underway := (gatherer_underway "mine").asleep run
  have only : a.invocation.script.LoadsOnly (· = "mine") := by
    rw [Invocation.run_script_of_suspended run]
    exact gathering_loadsOnly "mine"
  have turn : firstAsleep.2.Interlude ((gatherer "theirs").Uses firstAsleep.2) secondAsleep.2 :=
    .starts (gathering_storageless "theirs") (start_gatherer "theirs" _) (gatherer "theirs").context.lockWait 9
  have theirList : ∀ name, (gatherer "theirs").Uses firstAsleep.2 name → name = "theirs" := fun _ uses =>
    (gatherer_underway "theirs").names_of_uses (gathering_loadsOnly "theirs") uses
  have myList : ∀ name, a.invocation.Uses firstAsleep.2 name → name = "mine" := fun _ uses =>
    first.names_of_uses only uses
  have apart : "mine" ≠ "theirs" := by decide
  rcases alone : a.resume 9 firstAsleep.2 with ⟨o, g⟩
  obtain ⟨g', own, resumed, before, after, _, _, _, lists⟩ :=
    resume_unnoticed first turn firstAsleep.2.draws firstAsleep.2.clock
      (fun name uses uses' => apart ((myList name uses').symm.trans (theirList name uses))) 9 alone
  have mine := lists "mine" fun uses => apart (theirList _ uses)
  have left := gathered a (by rw [fell]; exact List.mem_singleton_self a)
  rw [alone] at left
  exact ⟨a, o, g, g', own, fell, theirs, spoken, alone, resumed, before, after, mine, left⟩

end Suspension

end LineScript
