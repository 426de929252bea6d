import LineScript.Proofs.KeptOut

/-!
**The lock isolates its holder.**

A run lives beside others: where it sleeps they do what they like, and then it goes on.  As long as it
holds the lock they are kept out, so that it finds the documents as it has left them.  In particular it
reads again what it has stored, unless it has itself stored something else there, taken it away, or
turned to another document.

Main definitions:

* `LineScript.World.Beside` — a run and the world of the others that it has come to live beside;
* `LineScript.World.Lives`, `LineScript.World.LivesOn` — what it goes through with one statement, and
  with any number of them;
* `LineScript.World.Acts` — one of the others is about to execute a statement;
* `LineScript.Session.Keeps` — the holder has a document open in which a key has a value;
* `LineScript.Session.Spares` — a statement that does not concern that value.

Main results:

* `LineScript.World.Beside.accounted` — the run and the others are accounted for together;
* `LineScript.World.LivesOn.keeps` — what the holder has stored stays stored;
* `LineScript.World.lock_isolates` — **the others change nothing and are refused, and the holder reads
  what it has set**.
-/

set_option autoImplicit false

namespace LineScript

namespace World

/-! ### A run beside others -/

/-- **What a run beside others goes through** when it executes a statement.  Where it goes on, the
others have no time to do anything.  Where it sleeps, they do what they like, and how long it waits for
the lock afterwards is up to the host. -/
inductive Lives (i : Invocation) (w : World) (st : Statement) : Invocation → World → Prop
  | goesOn {j : Invocation} {g : Host} (ready : i.ready? = some st)
      (step : i.step w.host = (.goesOn j, g)) : Lives i w st j { w with host := g }
  | sleeps {s : Suspension} {g : Host} {w' : World} (ready : i.ready? = some st)
      (step : i.step w.host = (.stops (.suspended s), g)) (others : Meantime { w with host := g } w')
      (wait : Duration) : Lives i w st (s.invocation.setLockWait wait) w'

/-- The run executes any number of statements, all of them of a kind. -/
inductive LivesOn (kind : Session → Statement → Prop) :
    Invocation → World → Invocation → World → Prop
  | refl (i : Invocation) (w : World) : LivesOn kind i w i w
  | head {i j k : Invocation} {w w' w'' : World} {st : Statement} (first : Lives i w st j w')
      (allowed : kind (i.session w.host) st) (rest : LivesOn kind j w' k w'') : LivesOn kind i w k w''

/-- **A run beside others**, on a host that starts with none: the others do what they like before it
is started, and from then on it lives beside them. -/
inductive Beside (host : Host) : Invocation → World → Prop
  | starts {w : World} {script : Script} {inputs : Inputs} {arguments : String} {i : Invocation}
      {h : Host} (others : Meantime { host } w)
      (bound : Invocation.start script inputs arguments w.host = (.ok i, h)) (wait : Duration) :
      Beside host (i.setLockWait wait) { w with host := h }
  | lives {i j : Invocation} {w w' : World} {st : Statement} (before : Beside host i w)
      (lives : Lives i w st j w') : Beside host j w'

/-- One of the others is about to execute a statement: it was started or resumed by the host, or by the
scheduler when the turn of its job came. -/
inductive Acts (w : World) : Invocation → Host → Prop
  | started {script : Script} {inputs : Inputs} {arguments : String} {i j : Invocation} {h g : Host}
      {wait : Duration} {n : Nat} (bound : Invocation.start script inputs arguments w.host = (.ok i, h))
      (passes : Invocation.Passes n (i.setLockWait wait) h j g) : Acts w j g
  | resumed {s : Suspension} {j : Invocation} {g : Host} {wait : Duration} {n : Nat}
      (kept : s ∈ w.kept) (passes : Invocation.Passes n (s.invocation.setLockWait wait) w.host j g) :
      Acts w j g
  | scheduled {now : Instant} {fuel : Nat} {i j : Invocation} {h g : Host} {n : Nat}
      (run : (i, h) ∈ w.scheduler.runs fuel w.host now) (passes : Invocation.Passes n i h j g) : Acts w j g

/-- When the turn of a job comes, those before it have changed nothing, and its run is kept out. -/
theorem KeptOut.turn {w : World} (out : w.KeptOut) {now : Instant} {fuel : Nat} {i : Invocation} {h : Host}
    (run : (i, h) ∈ w.scheduler.runs fuel w.host now) :
    h.guarded = w.host.guarded ∧ (i.session h).Barred := by
  obtain ⟨es, e, fs, done, d, g, ready, ran, begins⟩ := Scheduler.mem_runs_iff.1 run
  have due : ∀ d ∈ es ++ e :: fs, d ∈ w.scheduler.entries := by
    rw [← ready]
    exact fun d hd => mem_of_mem_takeReady hd
  have first := out.entries_lock es fun d hd => due d (by simp [hd])
  have mine := out.entries_lock [e] (by simpa using due e (by simp))
  have before := Scheduler.runEntries_barred fuel now (w.scheduler.takeReady now).2 out.held first
  rw [ran] at before
  obtain ⟨_, begins⟩ := Entry.run?_eq_some.1 begins
  obtain ⟨same, barred⟩ := Job.begin_barred begins (out.held.of_guarded_eq before)
    fun c hc => mine c (by simpa using hc)
  exact ⟨same.trans before, barred i rfl⟩

/-- Whoever acts while it is kept out finds all as it was, and is still kept out. -/
theorem Acts.barred {w : World} {i : Invocation} {g : Host} (acts : w.Acts i g) (out : w.KeptOut) :
    g.guarded = w.host.guarded ∧ (i.session g).Barred := by
  cases acts with
  | started bound passes =>
      obtain ⟨same, barred⟩ := passes.barred (Invocation.start_barred bound out.held _)
      exact ⟨same.trans (Invocation.start_guarded bound), barred⟩
  | resumed kept passes => exact passes.barred ⟨out.kept_lock kept, out.held⟩
  | scheduled run passes =>
      obtain ⟨before, barred⟩ := out.turn run
      obtain ⟨same, barred⟩ := passes.barred barred
      exact ⟨same.trans before, barred⟩

theorem Lives.accounted {i j : Invocation} {w w' : World} {st : Statement} (lives : Lives i w st j w')
    (acc : Accounted w.host.storage (i.context.lock.toList ++ tokensOf w.live)) :
    Accounted w'.host.storage (j.context.lock.toList ++ tokensOf w'.live) := by
  cases lives with
  | goesOn ready step => exact (Invocation.Moves.of_step step).accounted acc
  | @sleeps s g _ ready step others wait =>
      have asleep := (Invocation.Moves.of_step step).accounted acc
      exact others.accounted_beside (s := s) asleep

/-- **A run beside others and the others are accounted for together.** -/
theorem Beside.accounted {host : Host} {storage : Storage} (configured : host.storage = some storage)
    (free : storage.holder = none) (closed : storage.opened = none) {i : Invocation} {w : World}
    (beside : Beside host i w) :
    Accounted w.host.storage (i.context.lock.toList ++ tokensOf w.live) := by
  induction beside with
  | @starts w script inputs arguments i h others bound wait =>
      have acc : Accounted w.host.storage (tokensOf w.live) := by
        refine others.accounted ?_
        rw [configured]
        refine ⟨by simp [free, live, Scheduler.contexts, Scheduler.empty], fun name ho => ?_⟩
        rw [closed] at ho
        cases ho
      have lock : i.context.lock = none := Invocation.start_lock bound
      rw [Invocation.start_storage bound]
      have hnone : (i.setLockWait wait).context.lock.toList = [] := by simp [Invocation.setLockWait, lock]
      rw [hnone]
      exact acc
  | lives _ lives ih => exact lives.accounted ih

end World

/-! ### What the holder stores -/

/-- The holder of the token has a document open in which a key has a value. -/
structure Storage.Keeps (s : Storage) (token : LockToken) (name key : String) (v : Value) : Prop where
  held : s.holder = some token
  opened : s.opened = some name
  kept : ∃ document, s.documents.get? name = some document ∧ document.get? key = some v

namespace Storage

variable {s t : Storage} {token : LockToken} {name key : String} {v : Value}

theorem Keeps.of_guarded_eq (k : s.Keeps token name key v) (same : t.guarded = s.guarded) :
    t.Keeps token name key v := by
  have held : t.holder = s.holder := congrArg (·.holder) same
  have opened : t.opened = s.opened := congrArg (·.opened) same
  have documents : t.documents = s.documents := congrArg (·.documents) same
  exact ⟨held.trans k.held, opened.trans k.opened, by rw [documents]; exact k.kept⟩

end Storage

namespace Session

/-- The session holds the lock and has a document open in which a key has a value. -/
structure Keeps (s : Session) (token : LockToken) (name key : String) (v : Value) : Prop where
  lock : s.context.lock = some token
  storage : ∃ st, s.host.storage = some st ∧ st.Keeps token name key v

/-- **The statement spares the key of the open document**: it neither sets nor removes it, does not
clear or close the document, and opens no other. -/
def Spares (name key : String) (s : Session) : Statement → Prop
  | .storage (.set k _) => (s.value k).text ≠ key
  | .storage (.remove k) => (s.value k).text ≠ key
  | .storage .clear => False
  | .storage .close => False
  | .storage (.open n) => (s.value n).text = name
  | _ => True

variable {s t : Session} {token : LockToken} {name key : String} {v : Value}

theorem Keeps.of_guarded_eq (k : s.Keeps token name key v) (same : t.guarded = s.guarded) :
    t.Keeps token name key v := by
  have lock : t.context.lock = s.context.lock := congrArg Prod.fst same
  have host : t.host.guarded = s.host.guarded := congrArg Prod.snd same
  obtain ⟨st, there, keeps⟩ := k.storage
  rw [Host.guarded, Host.guarded, there] at host
  obtain ⟨st', there', same'⟩ := Option.map_eq_some_iff.1 host
  exact ⟨lock.trans k.lock, st', there', keeps.of_guarded_eq same'⟩

/-- A statement that spares the key leaves the value in the open document. -/
theorem get?_edited {q : StorageStatement} (spares : Spares name key s (.storage q)) {document : Document}
    (kept : document.get? key = some v) : (s.edited q document).get? key = some v := by
  cases q with
  | clear => exact spares.elim
  | set k value => exact (KeyMap.get?_insert_of_ne document (Ne.symm spares) _).trans kept
  | remove k => exact (KeyMap.get?_erase_of_ne document (Ne.symm spares)).trans kept
  | _ => exact kept

/-- What is granted to a statement that spares the key leaves the value where it is. -/
theorem Keeps.granted {q : StorageStatement} {u : Session} (k : t.Keeps token name key v)
    (spares : Spares name key s (.storage q)) (granted : s.Granted t q u) : u.Keeps token name key v := by
  obtain ⟨st, there, keeps⟩ := k.storage
  obtain ⟨document, known, kept⟩ := keeps.kept
  cases granted with
  | @opens st' _ n there' _ held named =>
      obtain rfl : st' = st := Option.some.inj (there'.symm.trans there)
      have text : (s.value n).text = name := spares
      have inside : st'.documents.contains name = true := by simp [KeyMap.contains, known]
      refine ⟨k.lock, _, rfl, keeps.held, congrArg some text, ?_⟩
      rw [text, if_pos inside]
      exact ⟨document, known, kept⟩
  | closes => exact spares.elim
  | @edits st' _ _ other document' _ there' _ _ _ opened known' saves plain =>
      obtain rfl : st' = st := Option.some.inj (there'.symm.trans there)
      obtain rfl : other = name := Option.some.inj (opened.symm.trans keeps.opened)
      obtain rfl : document' = document := Option.some.inj (known'.symm.trans known)
      refine foldl_plain (P := fun u => u.Keeps token other key v) plain
        (fun k => k.of_guarded_eq rfl) (fun _ k => k.of_guarded_eq rfl) ?_
      exact ⟨k.lock, _, rfl, keeps.held, opened, _, KeyMap.get?_insert_self .., get?_edited spares kept⟩
  | @lists st' _ n there' =>
      obtain rfl : st' = st := Option.some.inj (there'.symm.trans there)
      exact ⟨k.lock, _, rfl, keeps.held, keeps.opened, document, known, kept⟩

/-- **A statement that spares the key leaves the value where it is.** -/
theorem Keeps.exec (k : s.Keeps token name key v) {st : Statement} (spares : Spares name key s st) :
    (s.exec st).2.Keeps token name key v := by
  by_cases hq : ∃ q, st = .storage q
  · obtain ⟨q, rfl⟩ := hq
    refine execStorage_keeps (P := fun t => t.Keeps token name key v) (fun k => k.of_guarded_eq rfl) k fun _ => ?_
    rcases s.storedEffect_cases q with ⟨e, _, failed⟩ | ⟨t, ready, ended⟩
    · rw [failed]
      exact k.of_guarded_eq (guarded_reading s q)
    · have read : t.Keeps token name key v := by
        rcases locking_eq_ok ready with rfl | ⟨_, _, _, lock, _⟩
        · exact k.of_guarded_eq (guarded_reading s q)
        · cases lock.symm.trans k.lock
      rcases ended with ⟨e, _, failed⟩ | ⟨u, done, granted⟩
      · rw [failed]
        exact read
      · rw [done]
        exact read.granted spares granted
  · exact k.of_guarded_eq (guarded_exec s fun q h => hq ⟨q, h⟩)

/-- **The holder reads what is kept.** -/
theorem Keeps.get (k : s.Keeps token name key v) (target : ScopedName) {o : Operand}
    (text : (s.value o).text = key) :
    (s.exec (.storage (.get target o))).1 = .next ∧
      (s.exec (.storage (.get target o))).2.valueOf target = v ∧
      (s.exec (.storage (.get target o))).2.host.emitted = s.host.emitted := by
  obtain ⟨st, there, held, opened, document, known, hv⟩ := k.storage
  have current : st.current? = some (name, document) := Storage.current?_eq_some.2 ⟨opened, known⟩
  have found : st.get token key = .ok (some v, { st with
      documents := st.documents.insert name document }) := by
    simp [Storage.get, Storage.edit, Storage.guard, held, current, hv, bind, Except.bind, pure,
      Except.pure]
  have got : (s.touch o).onStorage (fun storage token => storage.get token key) =
      .ok (some v, (s.touch o).setStorage { st with
        documents := st.documents.insert name document }) := by
    have lock : (s.touch o).context.lock = some token := k.lock
    have storage : (s.touch o).storage = .ok st := by
      have there' : (s.touch o).host.storage = some st := there
      simp [Session.storage, there']
    simp only [Session.onStorage, storage, lock, bind, Except.bind, found, pure, Except.pure]
  have done : s.exec (.storage (.get target o)) = (.next, ((s.touch o).setStorage { st with
      documents := st.documents.insert name document }).assign target v) := by
    simp only [Session.exec, execStorage, there, Option.isNone_some, Bool.false_eq_true, if_false,
      Session.storedEffect, text, got]
    rfl
  rw [done]
  refine ⟨rfl, ?_, rfl⟩
  simp [valueOf, Session.values, Session.assign, Session.setValues, ValueMap.read, ValueMap.set]

/-- **What the holder sets in an open document is kept**, and without an open document nothing is. -/
theorem set_keeps {st : Storage} (there : s.host.storage = some st) (held : st.holder = some token)
    (lock : s.context.lock = some token)
    (known : ∀ name, st.opened = some name → st.documents.contains name = true) (o value : Operand) :
    (st.opened = none → (s.storedEffect (.set o value)).1 = .error .notOpen) ∧
      ∀ name, st.opened = some name →
        (s.exec (.storage (.set o value))).2.Keeps token name (s.value o).text (s.value value) := by
  have lock' : ((s.touch o).touch value).context.lock = some token := lock
  have storage : ((s.touch o).touch value).storage = .ok st := by
    have there' : ((s.touch o).touch value).host.storage = some st := there
    simp [Session.storage, there']
  constructor
  · intro hnone
    have current : st.current? = Option.none := by simp [Storage.current?, hnone]
    simp [Session.storedEffect, Session.onStorageOnly, Session.onStorage, storage, lock', Storage.set,
      Storage.edit, Storage.guard, held, current, bind, Except.bind, throw, throwThe,
      MonadExceptOf.throw, orElseSame, Except.map]
  · intro name opened
    obtain ⟨document, there'⟩ := Option.isSome_iff_exists.1 (known name opened)
    have current : st.current? = some (name, document) :=
      Storage.current?_eq_some.2 ⟨opened, there'⟩
    have stored : s.storedEffect (.set o value) = (.ok (), ((s.touch o).touch value).setStorage { st with
        documents := st.documents.insert name (document.insert (s.value o).text (s.value value)) }) := by
      simp [Session.storedEffect, Session.onStorageOnly, Session.onStorage, storage, lock',
        Storage.set, Storage.edit, Storage.guard, held, current, bind, Except.bind, pure,
        Except.pure, orElseSame, Except.map]
    simp only [Session.exec, execStorage, there, Option.isNone_some, Bool.false_eq_true, if_false,
      stored]
    exact ⟨lock, _, rfl, held, opened, _, KeyMap.get?_insert_self .., KeyMap.get?_insert_self ..⟩

end Session

namespace Invocation

/-- Where a step goes on, the session is the one that the statement has left. -/
theorem Moves.session_of_goesOn {i j : Invocation} {h g : Host} {st : Statement}
    (m : i.Moves h (.goesOn j) g) (ready : i.ready? = some st) :
    j.session g = ((i.session h).exec st).2 := by
  cases m with
  | next ready' exec =>
      obtain rfl := Option.some_inj.1 (ready.symm.trans ready')
      rw [exec]
      rfl
  | jumps ready' exec found =>
      obtain rfl := Option.some_inj.1 (ready.symm.trans ready')
      rw [exec]
      rfl

/-- Where it is suspended, the statement was a sleep. -/
theorem Moves.exec_of_suspended {i : Invocation} {s : Suspension} {h g : Host} {st : Statement}
    (m : i.Moves h (.stops (.suspended s)) g) (ready : i.ready? = some st) :
    ∃ n t, (i.session h).exec st = (.delay n, t) ∧
      s.invocation = i.continueAt (i.cursor + 1) t ∧ g = hostAsleep n t := by
  cases m with
  | @sleeps _ t n ready' exec pos =>
      obtain rfl := Option.some_inj.1 (ready.symm.trans ready')
      exact ⟨n, t, exec, rfl, rfl⟩

theorem Moves.guarded_of_suspended {i : Invocation} {s : Suspension} {h g : Host} {st : Statement}
    (m : i.Moves h (.stops (.suspended s)) g) (ready : i.ready? = some st) :
    (s.invocation.session g).guarded = ((i.session h).exec st).2.guarded := by
  obtain ⟨n, t, exec, invocation, rfl⟩ := m.exec_of_suspended ready
  have lock : s.invocation.context.lock = t.context.lock := by
    rw [invocation]
    rfl
  have same : (hostAsleep n t).guarded = t.host.guarded := by
    rw [Host.guarded, Host.guarded, hostAsleep_storage]
  calc (s.invocation.session (hostAsleep n t)).guarded
      = (s.invocation.context.lock, (hostAsleep n t).guarded) := rfl
    _ = (t.context.lock, t.host.guarded) := by rw [lock, same]
    _ = ((i.session h).exec st).2.guarded := by rw [exec, Session.guarded]

end Invocation

namespace World

variable {host : Host} {storage : Storage} {token : LockToken} {name key : String} {v : Value}

/-- What a statement of the holder has left stored is still stored when its next comes, whatever the
others do when it sleeps. -/
theorem Lives.keeps_of_exec {i j : Invocation} {w w' : World} {st : Statement}
    (lives : Lives i w st j w')
    (acc : Accounted w.host.storage (i.context.lock.toList ++ tokensOf w.live))
    (keeps : ((i.session w.host).exec st).2.Keeps token name key v) :
    (j.session w'.host).Keeps token name key v := by
  cases lives with
  | goesOn ready step =>
      rw [(Invocation.Moves.of_step step).session_of_goesOn ready]
      exact keeps
  | @sleeps s g _ ready step others wait =>
      have m := Invocation.Moves.of_step step
      have asleep : (s.invocation.session g).Keeps token name key v :=
        keeps.of_guarded_eq (m.guarded_of_suspended ready)
      have same : w'.host.guarded = g.guarded := others.guarded_eq asleep.lock (m.accounted acc)
      exact asleep.of_guarded_eq (Prod.ext rfl same)

/-- **What the holder has stored stays stored** while it executes statements that spare it. -/
theorem LivesOn.keeps {i j : Invocation} {w w' : World}
    (lives : LivesOn (Session.Spares name key) i w j w')
    (acc : Accounted w.host.storage (i.context.lock.toList ++ tokensOf w.live))
    (keeps : (i.session w.host).Keeps token name key v) :
    (j.session w'.host).Keeps token name key v := by
  induction lives with
  | refl => exact keeps
  | head first allowed _ ih => exact ih (first.accounted acc) (first.keeps_of_exec acc (keeps.exec allowed))

/-- The name of the open document. -/
def opened? (w : World) : Option String := w.host.storage.bind (·.opened)

/-- **The lock isolates its holder.**  Whatever others do beside a run that holds it, nothing that the
lock guards is changed, and each of their statements on storage fails.  So what the holder sets in its
open document it reads again, unless it sets or removes that key itself, or clears, closes or leaves the
document. -/
theorem lock_isolates {host : Host} {storage : Storage} (configured : host.storage = some storage)
    (free : storage.holder = none) (closed : storage.opened = none) {i : Invocation} {w : World}
    (beside : Beside host i w) {token : LockToken} (holds : i.context.lock = some token) :
    (∀ w', w.Meantime w' →
      w'.host.guarded = w.host.guarded ∧
      ∀ j g, w'.Acts j g →
        g.guarded = w.host.guarded ∧ j.context.lock = none ∧
        (∀ q, ((j.session g).storedEffect q).1 = .error ((j.session g).refusal q)) ∧
        ∀ p g', j.step g = (p, g') → g'.guarded = w.host.guarded) ∧
    ∀ key value, i.ready? = some (.storage (.set key value)) →
      (w.opened? = none → ((i.session w.host).storedEffect (.set key value)).1 = .error .notOpen) ∧
      ∀ name, w.opened? = some name →
        ∀ j w₁, Lives i w (.storage (.set key value)) j w₁ →
          ∀ k w₂, LivesOn (Session.Spares name ((i.session w.host).value key).text) j w₁ k w₂ →
            ∀ target o, k.ready? = some (.storage (.get target o)) →
              ((k.session w₂.host).value o).text = ((i.session w.host).value key).text →
                ∃ k' g, k.step w₂.host = (.goesOn k', g) ∧
                  (k'.session g).valueOf target = (i.session w.host).value value := by
  have acc := beside.accounted configured free closed
  refine ⟨fun w' meantime => ?_, fun key value ready => ?_⟩
  · have same : w'.host.guarded = w.host.guarded :=
      meantime.guarded_eq (s := ⟨i, .zero⟩) holds acc
    have acc' := meantime.accounted_beside (s := ⟨i, .zero⟩) acc
    refine ⟨same, fun j g acts => ?_⟩
    have out : w'.KeptOut := by
      rw [show (⟨i, .zero⟩ : Suspension).invocation.context.lock = some token from holds] at acc'
      exact keptOut_of_accounted acc'
    obtain ⟨found, barred⟩ := acts.barred out
    refine ⟨found.trans same, barred.lock, barred.storedEffect_eq, fun p g' step => ?_⟩
    exact ((Invocation.Moves.of_step step).barred barred).1.trans (found.trans same)
  · obtain ⟨st, there, held, _, known⟩ : ∃ st, w.host.storage = some st ∧ st.holder = some token ∧
        tokensOf w.live = [] ∧ ∀ name, st.opened = some name → st.documents.contains name = true := by
      rw [holds] at acc
      exact acc.holder
    have here : (i.session w.host).host.storage = some st := there
    obtain ⟨unopened, kept⟩ := Session.set_keeps here held holds known key value
    have opened : w.opened? = st.opened := by simp [opened?, there]
    rw [opened]
    refine ⟨unopened, fun name is_open j w₁ sets k w₂ lives target o gets text => ?_⟩
    have stored := lives.keeps (sets.accounted acc) (sets.keeps_of_exec acc (kept name is_open))
    obtain ⟨next, got, _⟩ := stored.get target text
    refine ⟨k.continueAt (k.cursor + 1) ((k.session w₂.host).exec (.storage (.get target o))).2, _, ?_,
      got⟩
    rw [Invocation.step_of_ready gets, next]
    rfl

/-- A script that stores a value, sleeps and reads it. -/
def keeper : Script :=
  { statements :=
      #[.storage (.open (.constant (.ofText "d"))),
        .storage (.set (.constant (.ofText "k")) (.constant (.ofText "v"))),
        .sleep (.constant (.ofNumber 5)),
        .storage (.get ⟨.script, "t", false⟩ (.constant (.ofText "k"))), .finish] }

/-- What it comes through until it sleeps; whoever wants the lock then goes to sleep without. -/
theorem keeper_sleeps :
    ∃ i₁ h₁ i₂ h₂ s h₃,
      Invocation.step { script := keeper, context := .ofInputs "" {} } { storage := some .empty } =
        (.goesOn i₁, h₁) ∧
      i₁.step h₁ = (.goesOn i₂, h₂) ∧ i₂.step h₂ = (.stops (.suspended s), h₃) ∧
      i₁.context.lock = some ⟨0⟩ ∧ h₁.storage.bind (·.opened) = some "d" ∧
      i₁.ready? = some (.storage (.set (.constant (.ofText "k")) (.constant (.ofText "v")))) ∧
      i₂.ready? = some (.sleep (.constant (.ofNumber 5))) ∧
      s.invocation.ready? =
        some (.storage (.get ⟨.script, "t", false⟩ (.constant (.ofText "k")))) ∧
      (Invocation.run 5 { script := sleeper, context := .ofInputs "" {} } h₃).1.sleeping.length = 1 := by
  refine ⟨_, _, _, _, _, _, rfl, rfl, rfl, ?_, ?_, rfl, rfl, rfl, ?_⟩ <;> decide +kernel

/-- While it sleeps with the lock, another run tries to open a document and goes to sleep as well; the
value is still there. -/
theorem lock_isolates_keeper :
    ∃ i w j w₁ k w₂, Beside { storage := some .empty } i w ∧ i.context.lock = some ⟨0⟩ ∧
      Lives i w (.storage (.set (.constant (.ofText "k")) (.constant (.ofText "v")))) j w₁ ∧
      LivesOn (Session.Spares "d" "k") j w₁ k w₂ ∧ w₂.kept.length = 1 ∧
      ∃ k' g, k.step w₂.host = (.goesOn k', g) ∧
        (k'.session g).valueOf ⟨.script, "t", false⟩ = .ofText "v" := by
  obtain ⟨i₁, h₁, i₂, h₂, s, h₃, opens, sets, sleeps, holds, opened, ready, ready', ready'', asleep⟩ :=
    keeper_sleeps
  let i : Invocation := { script := keeper, context := .ofInputs "" {} }
  have bound : Invocation.start keeper {} "" { storage := some .empty } =
      (.ok i, { storage := some .empty }) := rfl
  have starts : Beside { storage := some .empty } i { host := { storage := some .empty } } :=
    .starts .refl bound i.context.lockWait
  have ready₀ : i.ready? = some (.storage (.open (.constant (.ofText "d")))) := rfl
  have beside : Beside { storage := some .empty } i₁ { host := h₁ } :=
    starts.lives (.goesOn ready₀ opens)
  have first : Lives i₁ { host := h₁ } _ i₂ { host := h₂ } := .goesOn ready sets
  rcases run : Invocation.run 5 { script := sleeper, context := .ofInputs "" {} } h₃ with ⟨o, h₄⟩
  rw [run] at asleep
  have finished : o.Finished := by
    cases o with
    | unfinished => cases asleep
    | _ => trivial
  let other : Invocation := { script := sleeper, context := .ofInputs "" {} }
  have bound' : Invocation.start sleeper {} "" h₃ = (.ok other, h₃) := rfl
  have run' : (other.setLockWait other.context.lockWait).run 5 h₃ = (o, h₄) := run
  have intrudes := Step.start (w := { host := h₃ }) bound' run' finished
  have second := Lives.sleeps (w := { host := h₂ }) ready' sleeps (.single (.step intrudes)) .zero
  have lives : LivesOn (Session.Spares "d" "k") i₂ { host := h₂ } _ _ := .head second trivial (.refl ..)
  obtain ⟨_, isolated⟩ := lock_isolates rfl rfl rfl beside holds
  obtain ⟨_, reads⟩ := isolated _ _ ready
  refine ⟨_, _, _, _, _, _, beside, holds, first, lives, by simpa using asleep, ?_⟩
  exact reads "d" opened _ _ first _ _ lives _ _ ready'' rfl

end World

end LineScript
