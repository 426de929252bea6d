import LineScript.Proofs.Isolation
import LineScript.Proofs.LineByLine

/-!
**When closing a document gives the lock back.**

To open a document takes the lock first and opens the document second, and the second may fail: a document
has to have a name.  The lock stays taken then, with no document open, and since closing fails without an
open document, it does not give the lock back either.  Here it is shown that this is the only way to come
to hold the lock with nothing open: a run that has opened documents by name since it last was without the
lock has one open, and closing it gives the lock back.

Main definitions:

* `LineScript.Session.latch` — the token of an invocation, and the open document;
* `LineScript.Session.OpensNamed`, `LineScript.Session.OpensUnnamed` — a statement opens a document by a
  name, or without one;
* `LineScript.World.Stranded` — a run took the lock without a name for the document, and has named none
  since.

Main results:

* `LineScript.Session.exec_latch` — what a statement that leaves the lock held does to the open document;
* `LineScript.World.LivesOn.latch` — and what any number of them do;
* `LineScript.World.close_hands_back` — **closing gives the lock back just if a document is open, and one is
  just if the run is not stranded**;
* `LineScript.World.close_keeps_lock` — a script that closes in vain.
-/

set_option autoImplicit false

namespace LineScript

namespace Session

/-! ### The lock and the open document -/

/-- The token of the invocation, and the name of the open document. -/
def latch (s : Session) : Option LockToken × Option String :=
  (s.context.lock, s.host.storage.bind (·.opened))

variable {s t : Session} {token : LockToken} {rest : List LockToken}

theorem latch_of_guarded (same : t.guarded = s.guarded) : t.latch = s.latch := by
  have opened : ∀ u : Session, u.host.storage.bind (·.opened) = u.host.guarded.bind (·.opened) := by
    intro u
    unfold Host.guarded
    cases u.host.storage <;> rfl
  have lock : t.context.lock = s.context.lock := congrArg Prod.fst same
  have host : t.host.guarded = s.host.guarded := congrArg Prod.snd same
  rw [latch, latch, opened, opened, lock, host]

/-- **Only opening and closing change what is held and open.** -/
theorem latch_storedEffect {q : StorageStatement} (notOpen : ∀ n, q ≠ .open n) (notClose : q ≠ .close) :
    (s.storedEffect q).2.latch = s.latch := by
  refine storedEffect_keeps (P := fun t => t.latch = s.latch) (by cases q <;> rfl)
    (fun {n _} is _ => absurd is (notOpen n)) ?_
  intro t u same granted
  rw [← same]
  cases granted with
  | opens => exact absurd rfl (notOpen _)
  | closes => exact absurd rfl notClose
  | edits there _ _ _ opened _ _ plain =>
      refine foldl_plain (P := fun u => u.latch = t.latch) plain id (fun _ => id) ?_
      simp [latch, setStorage, there]
  | lists there =>
      simp only [latch, there]
      rfl

theorem latch_exec_storage {st : Storage} (there : s.host.storage = some st) (q : StorageStatement) :
    (s.exec (.storage q)).2.latch = (s.storedEffect q).2.latch := by
  rw [exec_storage_of_some there]
  rcases s.storedEffect q with ⟨_ | _, t⟩ <;> rfl

/-! ### Opening -/

/-- The statement opens a document by a name. -/
def OpensNamed (s : Session) (q : Statement) : Prop :=
  ∃ n, q = .storage (.open n) ∧ (s.value n).text ≠ ""

/-- The statement opens a document, but its name is empty. -/
def OpensUnnamed (s : Session) (q : Statement) : Prop :=
  ∃ n, q = .storage (.open n) ∧ (s.value n).text = ""

/-- **Whoever holds the lock opens the document that is named**, and otherwise leaves open what is. -/
theorem latch_openDocument {st : Storage} (there : s.host.storage = some st)
    (lock : s.context.lock = some token) (held : st.holder = some token) (name : String) :
    (s.onStorageOnly fun storage token => storage.openDocument token name).2.latch =
      (some token, if name = "" then st.opened else some name) := by
  have storage : s.storage = .ok st := by simp [Session.storage, there]
  by_cases unnamed : name = ""
  · simp [onStorageOnly, onStorage, storage, lock, Storage.openDocument_eq held, unnamed, bind, Except.bind,
      Except.map, orElseSame, latch, there]
  · simp [onStorageOnly, onStorage, storage, lock, Storage.openDocument_eq held, unnamed, bind, Except.bind,
      pure, Except.pure, Except.map, orElseSame, latch, setStorage]

/-- **To open a document takes the lock in any case**, if it can be taken; a document is then open if it
was named, and otherwise if one was before. -/
theorem latch_exec_open (acc : Accounted s.host.storage (s.context.lock.toList ++ rest)) (n : Operand)
    (holds : (s.exec (.storage (.open n))).2.context.lock = some token) :
    (s.exec (.storage (.open n))).2.latch.2 =
        (if (s.value n).text = "" then s.latch.2 else some (s.value n).text) ∧
      (s.context.lock = none → s.latch.2 = none) := by
  cases there : s.host.storage with
  | none =>
      rw [there] at acc
      exact acc.elim
  | some st =>
      have opened : s.latch.2 = st.opened := by simp [latch, there]
      have here : (s.touch n).host.storage = some st := there
      have latched := latch_exec_storage there (.open n)
      have locked : (s.storedEffect (.open n)).2.context.lock = some token :=
        (congrArg Prod.fst latched).symm.trans holds
      rw [latched, opened]
      simp only [storedEffect] at locked ⊢
      cases lock : s.context.lock with
      | some mine =>
          have lock' : (s.touch n).context.lock = some mine := lock
          have ensured : (s.touch n).ensureLock = .ok (s.touch n) := by simp [ensureLock, lock']
          rw [there, lock] at acc
          obtain ⟨st', same, held, _⟩ := acc.holder
          obtain rfl := Option.some.inj same
          simp only [ensured]
          rw [latch_openDocument here lock' held]
          exact ⟨rfl, fun hnone => by cases hnone⟩
      | none =>
          have lock' : (s.touch n).context.lock = none := lock
          cases holder : st.holder with
          | some other =>
              -- the lock is busy, so that it is not held afterwards either
              have busy : ∃ e, (s.touch n).ensureLock = .error e := by
                simp [ensureLock, lock', Session.storage, here, Storage.acquire, holder, bind, Except.bind]
              obtain ⟨e, failed⟩ := busy
              simp only [failed] at locked
              rw [lock'] at locked
              cases locked
          | none =>
              have closed : st.opened = none := by
                cases is : st.opened with
                | none => rfl
                | some name =>
                    rw [there] at acc
                    have := (acc.2 name is).1
                    simp [holder] at this
              refine ⟨?_, fun _ => closed⟩
              simp only [ensureLock_of_free lock' here holder]
              rw [latch_openDocument rfl rfl rfl]

/-! ### Closing -/

/-- **With a document open, closing gives the lock back.** -/
theorem exec_close_of_opened {st : Storage} (there : s.host.storage = some st)
    (lock : s.context.lock = some token) (held : st.holder = some token)
    (opened : st.opened.isSome = true) :
    s.exec (.storage .close) = (.next,
      { context := { s.context with lock := none }
        host := { s.host with storage := some { st with holder := none, opened := none } } }) := by
  have hsome : st.opened.isNone = false := by simpa using opened
  have storage : s.storage = .ok st := by simp [Session.storage, there]
  have closes : s.onStorageOnly Storage.close = (.ok (), s.setStorage { st with opened := none }) := by
    simp [onStorageOnly, onStorage, storage, lock, Storage.close, Storage.guard, held, hsome, bind,
      Except.bind, pure, Except.pure, Except.map, orElseSame]
  rw [exec_storage_of_some there]
  simp [storedEffect, closes, releaseLock, setStorage, lock, Storage.release, Storage.guard, held, bind,
    Except.bind, pure, Except.pure]

/-- **Without one it fails, and the lock stays taken.** -/
theorem exec_close_of_not_opened {st : Storage} (there : s.host.storage = some st)
    (lock : s.context.lock = some token) (held : st.holder = some token) (closed : st.opened = none) :
    s.exec (.storage .close) = (.next, s.remark (.storageFailed "storage:close" .notOpen)) := by
  have storage : s.storage = .ok st := by simp [Session.storage, there]
  have fails : s.onStorageOnly Storage.close = (.error .notOpen, s) := by
    simp [onStorageOnly, onStorage, storage, lock, Storage.close, Storage.guard, held, closed, bind,
      Except.bind, throw, throwThe, MonadExceptOf.throw, Except.map, orElseSame]
  rw [exec_storage_of_some there]
  simp [storedEffect, fails, StorageStatement.keyword]

/-- Whoever still holds the lock after closing has not closed anything. -/
theorem latch_exec_close (holds : (s.exec (.storage .close)).2.context.lock = some token) :
    (s.exec (.storage .close)).2.latch = s.latch := by
  cases there : s.host.storage with
  | none => simp [exec, execStorage, there, remark, broadcast, emit, Host.emit, latch]
  | some st =>
      have latched := latch_exec_storage there .close
      have locked : (s.storedEffect .close).2.context.lock = some token :=
        (congrArg Prod.fst latched).symm.trans holds
      rw [latched]
      rcases s.storedEffect_cases .close with ⟨e, ready, _⟩ | ⟨t, ready, ⟨e, _, failed⟩ | ⟨u, done, granted⟩⟩
      · cases ready
      · cases ready
        rw [failed]
        rfl
      · rw [done] at locked
        cases granted with
        | closes => cases locked
        | edits _ _ _ inside => cases inside

/-! ### Any statement -/

/-- **What a statement that leaves the lock held does to the open document**: it opens one by name; or it
takes the lock without a name, and none is open; or the lock was held before, and what is open stays. -/
theorem exec_latch (acc : Accounted s.host.storage (s.context.lock.toList ++ rest)) (q : Statement)
    (holds : (s.exec q).2.context.lock = some token) :
    (s.OpensNamed q ∧ (s.exec q).2.latch.2.isSome = true) ∨
      (s.OpensUnnamed q ∧ s.context.lock = none ∧ (s.exec q).2.latch.2 = none) ∨
      ¬ s.OpensNamed q ∧ s.context.lock.isSome = true ∧ (s.exec q).2.latch.2 = s.latch.2 := by
  have same : ∀ {q : Statement}, ¬ s.OpensNamed q → (s.exec q).2.context.lock = some token →
      (s.exec q).2.latch = s.latch →
      ¬ s.OpensNamed q ∧ s.context.lock.isSome = true ∧ (s.exec q).2.latch.2 = s.latch.2 := by
    intro q other holds latched
    have lock : s.context.lock = some token := (congrArg Prod.fst latched).symm.trans holds
    exact ⟨other, by simp [lock], congrArg Prod.snd latched⟩
  by_cases stored : ∃ st, q = .storage st
  · obtain ⟨st, rfl⟩ := stored
    have other : (∀ n, st ≠ .open n) → ¬ s.OpensNamed (.storage st) := by
      rintro notOpen ⟨n, eq, _⟩
      exact notOpen n (Statement.storage.inj eq)
    by_cases opens : ∃ n, st = .open n
    · obtain ⟨n, rfl⟩ := opens
      obtain ⟨latched, free⟩ := latch_exec_open acc n holds
      by_cases unnamed : (s.value n).text = ""
      · rw [if_pos unnamed] at latched
        cases lock : s.context.lock with
        | none => exact .inr (.inl ⟨⟨n, rfl, unnamed⟩, rfl, latched.trans (free lock)⟩)
        | some mine =>
            refine .inr (.inr ⟨?_, rfl, latched⟩)
            rintro ⟨m, eq, named⟩
            cases eq
            exact named unnamed
      · rw [if_neg unnamed] at latched
        exact .inl ⟨⟨n, rfl, unnamed⟩, by rw [latched]; rfl⟩
    · have notOpen : ∀ n, st ≠ .open n := fun n eq => opens ⟨n, eq⟩
      refine .inr (.inr (same (other notOpen) holds ?_))
      by_cases closes : st = .close
      · subst closes
        exact latch_exec_close holds
      · cases there : s.host.storage with
        | none =>
            rw [there] at acc
            exact acc.elim
        | some storage =>
            rw [latch_exec_storage there]
            exact latch_storedEffect notOpen closes
  · have notStored : ∀ st, q ≠ .storage st := fun st eq => stored ⟨st, eq⟩
    refine .inr (.inr (same ?_ holds (latch_of_guarded (guarded_exec s notStored))))
    rintro ⟨n, eq, _⟩
    exact notStored _ eq

end Session

namespace World

variable {host : Host} {storage : Storage} {token : LockToken}

/-! ### Runs beside others -/

theorem LivesOn.tail {kind : Session → Statement → Prop} {i j k : Invocation} {w w' w'' : World}
    {q : Statement} (lives : LivesOn kind i w j w') (allowed : kind (j.session w'.host) q)
    (last : Lives j w' q k w'') : LivesOn kind i w k w'' := by
  induction lives with
  | refl => exact .head last allowed (.refl ..)
  | head first fits _ ih => exact .head first fits (ih allowed last)

/-- What the holder has left open is still open when its next statement comes. -/
theorem Lives.latch {i j : Invocation} {w w' : World} {q : Statement} (lives : Lives i w q j w')
    (acc : Accounted w.host.storage (i.context.lock.toList ++ tokensOf w.live))
    (holds : j.context.lock = some token) :
    (j.session w'.host).latch = ((i.session w.host).exec q).2.latch := by
  cases lives with
  | goesOn ready step => rw [(Invocation.Moves.of_step step).session_of_goesOn ready]
  | @sleeps s g _ ready step others wait =>
      have m := Invocation.Moves.of_step step
      have same : w'.host.guarded = g.guarded := others.guarded_eq (s := s) holds (m.accounted acc)
      have asleep := Session.latch_of_guarded (m.guarded_of_suspended ready)
      rw [← asleep]
      exact Session.latch_of_guarded (Prod.ext rfl same)

/-- **What the holder has open after any number of statements**: a property that it gets by opening a
document by name, and one that it gets by taking the lock without, if such statements are among them, stays
until the next of either kind. -/
theorem LivesOn.latch {kind : Session → Statement → Prop} (is : Option String → Prop)
    (named : ∀ {s q}, kind s q → Session.OpensNamed s q → ∀ name, is (some name))
    (unnamed : ∀ {s q}, kind s q → Session.OpensUnnamed s q → is none)
    {i j : Invocation} {w w' : World} (lives : LivesOn kind i w j w')
    (acc : Accounted w.host.storage (i.context.lock.toList ++ tokensOf w.live))
    (start : i.context.lock.isSome = true → is w.opened?) (holds : j.context.lock = some token) :
    is w'.opened? := by
  induction lives with
  | refl => exact start (by rw [holds]; rfl)
  | @head i j k w w' w'' q first allowed _ ih =>
      refine ih (first.accounted acc) (fun held => ?_) holds
      obtain ⟨mine, lock⟩ := Option.isSome_iff_exists.1 held
      have latched := first.latch acc lock
      have locked : ((i.session w.host).exec q).2.context.lock = some mine :=
        (congrArg Prod.fst latched).symm.trans lock
      have opened : w'.opened? = ((i.session w.host).exec q).2.latch.2 := congrArg Prod.snd latched
      rw [opened]
      rcases Session.exec_latch (s := i.session w.host) acc q locked with
        ⟨opens, some⟩ | ⟨opens, _, none⟩ | ⟨_, before, kept⟩
      · obtain ⟨name, eq⟩ := Option.isSome_iff_exists.1 some
        rw [eq]
        exact named allowed opens name
      · rw [none]
        exact unnamed allowed opens
      · rw [kept]
        exact start before

/-- **A run is stranded with the lock**: it took it for a document without a name, and has named none
since. -/
def Stranded (host : Host) (i : Invocation) (w : World) : Prop :=
  ∃ j v q k v', Beside host j v ∧ j.context.lock = none ∧ (j.session v.host).OpensUnnamed q ∧
    Lives j v q k v' ∧ LivesOn (fun s q => ¬ s.OpensNamed q) k v' i w

theorem stranded_of_not_opened (configured : host.storage = some storage) (free : storage.holder = none)
    (closed : storage.opened = none) {i : Invocation} {w : World} (beside : Beside host i w)
    (holds : i.context.lock = some token) (hnone : w.opened? = none) : Stranded host i w := by
  induction beside generalizing token with
  | @starts w script inputs arguments i h others bound wait =>
      have lock : i.context.lock = Option.none := Invocation.start_lock bound
      simp [Invocation.setLockWait, lock] at holds
  | @lives i j w w' q before lives ih =>
      have acc := before.accounted configured free closed
      have latched := lives.latch acc holds
      have locked : ((i.session w.host).exec q).2.context.lock = some token :=
        (congrArg Prod.fst latched).symm.trans holds
      have opened : w'.opened? = ((i.session w.host).exec q).2.latch.2 := congrArg Prod.snd latched
      rcases Session.exec_latch (s := i.session w.host) acc q locked with
        ⟨_, hsome⟩ | ⟨opens, lock, _⟩ | ⟨other, held, kept⟩
      · rw [← opened, hnone] at hsome
        cases hsome
      · exact ⟨i, w, q, j, w', before, lock, opens, lives, .refl ..⟩
      · obtain ⟨mine, lock⟩ := Option.isSome_iff_exists.1 held
        have already : w.opened? = Option.none := (opened.trans kept).symm.trans hnone
        obtain ⟨j', v, q', k, v', first, without, opens, took, since⟩ := ih lock already
        exact ⟨j', v, q', k, v', first, without, opens, took, since.tail other lives⟩

theorem Stranded.not_opened (configured : host.storage = some storage) (free : storage.holder = none)
    (closed : storage.opened = none) {i : Invocation} {w : World} (stranded : Stranded host i w)
    (holds : i.context.lock = some token) : w.opened? = none := by
  obtain ⟨j, v, q, k, v', before, without, opens, took, since⟩ := stranded
  have acc := before.accounted configured free closed
  -- all of it, the first statement included, names no document
  have unnamed : ¬ (j.session v.host).OpensNamed q := by
    rintro ⟨n, rfl, named⟩
    obtain ⟨m, eq, empty⟩ := opens
    cases eq
    exact named empty
  have whole : LivesOn (fun s q => ¬ s.OpensNamed q) j v i w := .head took unnamed since
  refine whole.latch (· = none) (fun hnone names => absurd names hnone) (fun _ _ => rfl) acc ?_ holds
  simp [without]

/-- **Closing gives the lock back just if a document is open.**  Whatever others do beside it, the
storage knows a run that has the lock as the holder.  Closing an open document leaves the storage free
and changes nothing else; with none open it fails, and that is so just if the run took the lock for a
document without a name. -/
theorem close_hands_back (configured : host.storage = some storage) (free : storage.holder = none)
    (closed : storage.opened = none) {i : Invocation} {w : World} (beside : Beside host i w)
    (holds : i.context.lock = some token) :
    ∃ st, w.host.storage = some st ∧ st.holder = some token ∧
      (st.opened.isSome = true → (i.session w.host).exec (.storage .close) = (.next,
        { context := { i.context with lock := none }
          host := { w.host with storage := some { st with holder := none, opened := none } } })) ∧
      (st.opened = none → (i.session w.host).exec (.storage .close) =
        (.next, (i.session w.host).remark (.storageFailed "storage:close" .notOpen))) ∧
      (st.opened = none ↔ Stranded host i w) ∧
      ∀ j v, Beside host j v → j.context.lock = none →
        LivesOn (fun s q => ¬ s.OpensUnnamed q) j v i w → st.opened.isSome = true := by
  have acc := beside.accounted configured free closed
  rw [holds] at acc
  obtain ⟨st, there, held, _⟩ := acc.holder
  have here : (i.session w.host).host.storage = some st := there
  have opened : w.opened? = st.opened := by simp [opened?, there]
  refine ⟨st, there, held, Session.exec_close_of_opened here holds held,
    Session.exec_close_of_not_opened here holds held, ?_, fun j v before without lives => ?_⟩
  · rw [← opened]
    exact ⟨stranded_of_not_opened configured free closed beside holds,
      fun stranded => stranded.not_opened configured free closed holds⟩
  · rw [← opened]
    refine lives.latch (·.isSome = true) (fun _ _ _ => rfl)
      (fun names unnamed => absurd unnamed names) (before.accounted configured free closed) ?_ holds
    simp [without]

/-- What a run that names its document comes to with its first statement. -/
theorem close_hands_back_keeper :
    ∃ i w st, Beside { storage := some .empty } i w ∧ i.context.lock = some ⟨0⟩ ∧
      w.host.storage = some st ∧ st.opened = some "d" ∧
      (i.session w.host).exec (.storage .close) = (.next,
        { context := { i.context with lock := none }
          host := { w.host with storage := some { st with holder := none, opened := none } } }) := by
  obtain ⟨i, h, _, _, _, _, opens, _, _, holds, opened, _⟩ := keeper_sleeps
  have bound : Invocation.start keeper {} "" { storage := some .empty } =
      (.ok { script := keeper, context := .ofInputs "" {} }, { storage := some .empty }) := rfl
  have beside : Beside { storage := some .empty } i { host := h } :=
    (Beside.starts .refl bound (Context.ofInputs "" {}).lockWait).lives (.goesOn rfl opens)
  obtain ⟨st, there, _, closes, _⟩ := close_hands_back rfl rfl rfl beside holds
  have is : st.opened = some "d" := by simpa [show h.storage = some st from there] using opened
  exact ⟨i, { host := h }, st, beside, holds, there, is, closes (by rw [is]; rfl)⟩

/-- A script that opens a document under a name that was never set, and closes it. -/
def nameless : String := "storage:open !name\nstorage:close\nsleep 5\nend"

/-- **It closes in vain**: the run holds the lock with no document open, and after closing it still does,
though the storage had been free. -/
theorem close_keeps_lock :
    ∃ script i w, (compile nameless "s0").result = .ok script ∧ i.script = script ∧
      Beside { storage := some .empty } i w ∧ i.context.lock = some ⟨0⟩ ∧ w.opened? = none ∧
      i.ready? = some (.storage .close) ∧
      ((i.session w.host).exec (.storage .close)).2.context.lock = some ⟨0⟩ ∧
      ((i.session w.host).exec (.storage .close)).2.host.storage.bind (·.holder) = some ⟨0⟩ := by
  let script := (Draft.ofText nameless).script "s0"
  let opening : Statement := .storage (.open (.named ⟨.script, "name", false⟩))
  have compiled : (compile nameless "s0").result = .ok script :=
    compile_eq_ok.2 ⟨by decide +kernel, rfl⟩
  have statements : script.statements =
      #[opening, .storage .close, .sleep (.constant (.ofNumber 5)), .finish] := by decide +kernel
  have parameters : script.parameters = [] := by decide +kernel
  have named : script.name = "s0" := by decide +kernel
  clear_value script
  let i : Invocation := { script, context := .ofInputs "s0" {} }
  have bound : Invocation.start script {} "" { storage := some .empty } =
      (.ok i, { storage := some .empty }) := by
    simp only [Invocation.start, parameters, named]
    rfl
  have ready : i.ready? = some opening := by
    rw [Invocation.ready?_eq_some, statements]
    exact ⟨rfl, rfl⟩
  let t := (Session.exec ⟨.ofInputs "s0" {}, { storage := some .empty }⟩ opening).2
  have opens : i.step { storage := some .empty } = (.goesOn (i.continueAt 1 t), t.host) := by
    rw [Invocation.step_of_ready ready]
    rfl
  have holds : t.context.lock = some ⟨0⟩ := by decide +kernel
  have closed : t.host.storage.bind (·.opened) = none := by decide +kernel
  have still : (t.exec (.storage .close)).2.context.lock = some ⟨0⟩ := by decide +kernel
  have held : (t.exec (.storage .close)).2.host.storage.bind (·.holder) = some ⟨0⟩ := by decide +kernel
  refine ⟨script, i.continueAt 1 t, { host := t.host }, compiled, rfl,
    (Beside.starts .refl bound i.context.lockWait).lives (.goesOn ready opens), holds, closed, ?_,
    still, held⟩
  rw [Invocation.ready?_eq_some]
  exact ⟨rfl, by simp [i, Invocation.continueAt, statements]⟩

end World

end LineScript
