import LineScript.Proofs.Stores

/-!
**What statements do not look at.**

A statement that is about neither lists nor storage works on the values and on the buffer, draws by
chance, looks at the clock and emits.  Whatever else there is in a session can be changed behind its
back: the statement does the same, and the change might as well be made after it.  Of a statement on
storage this holds for changes that keep away from storage and from the lock as well.

A change that does nothing to the session before a statement does nothing to the one after it.  So
the same result also says what a statement leaves alone.

Main definitions:

* `LineScript.Session.Aside` — a change of something that plain statements do not look at;
* `LineScript.Session.SameStock` — nothing is different in desk, lock, storage and lists of the host;
* `LineScript.Session.FarAside` — one of something that statements on storage do not look at either.

Main results:

* `LineScript.Session.Aside.exec` — **a plain statement does the same after such a change**;
* `LineScript.Session.sameStock_exec` — it leaves desk, lock, storage and lists of the host alone;
* `LineScript.Session.FarAside.execStorage` — so does a statement on storage, if opening a stored
  list does;
* `LineScript.Session.FarAside.exec` — both in one.
-/

set_option autoImplicit false

namespace LineScript.Session

/-! ### Plain statements -/

/-- The change keeps away from values, buffer, chance, clock and emissions: they are the same after
it, and they can be changed before it or after it. -/
structure Aside (change : Session → Session) : Prop where
  values (s : Session) : (change s).values = s.values
  buffer (s : Session) : (change s).context.buffer = s.context.buffer
  script (s : Session) : (change s).context.script = s.context.script
  draws (s : Session) : (change s).host.draws = s.host.draws
  clock (s : Session) : (change s).host.clock = s.host.clock
  setValues (s : Session) (values : ValueMap) :
    (change s).setValues values = change (s.setValues values)
  setBuffer (s : Session) (buffer : String) :
    { change s with context.buffer := buffer } = change { s with context.buffer := buffer }
  setDraws (s : Session) (draws : Draws) :
    { change s with host.draws := draws } = change { s with host.draws := draws }
  emit (s : Session) (e : Emission) : (change s).emit e = change (s.emit e)

namespace Aside

variable {change : Session → Session} (a : Aside change) (s : Session)

include a

theorem value (o : Operand) : (change s).value o = s.value o := by
  unfold Session.value
  rw [a.values]

theorem valueOf (name : ScopedName) : (change s).valueOf name = s.valueOf name := by
  unfold Session.valueOf
  rw [a.values]

theorem touch (o : Operand) : (change s).touch o = change (s.touch o) := by
  unfold Session.touch
  rw [a.values, a.setValues]

theorem touchName (name : ScopedName) : (change s).touchName name = change (s.touchName name) := by
  unfold Session.touchName
  rw [a.values, a.setValues]

theorem assign (name : ScopedName) (v : Value) :
    (change s).assign name v = change (s.assign name v) := by
  unfold Session.assign
  rw [a.values, a.setValues]

theorem remark (r : Remark) : (change s).remark r = change (s.remark r) := by
  unfold Session.remark Session.broadcast
  rw [a.script, a.emit]

theorem write (text : String) : (change s).write text = change (s.write text) := by
  unfold Session.write
  rw [a.buffer, a.setBuffer]

theorem flush : (change s).flush = change s.flush := by
  have cleared : (change s).clearBuffer = change s.clearBuffer := a.setBuffer s ""
  simp only [Session.flush, a.buffer, cleared]
  split
  · rfl
  · unfold Session.broadcast
    rw [a.script, a.emit]

theorem foldl_touch (operands : List Operand) :
    operands.foldl Session.touch (change s) = change (operands.foldl Session.touch s) := by
  induction operands generalizing s with
  | nil => rfl
  | cons o operands ih => rw [List.foldl_cons, a.touch, ih, List.foldl_cons]

theorem execFold (op : FoldOp) (target : ScopedName) (operands : List Operand) :
    (change s).execFold op target operands = change (s.execFold op target operands) := by
  have given : operands.map (change s).value = operands.map s.value :=
    List.map_congr_left fun o _ => a.value s o
  -- a single operand is combined with the target, which is then read as well
  have read : ∀ (p : Prop) [Decidable p],
      (if p then (operands.foldl Session.touch (change s)).touchName target
        else operands.foldl Session.touch (change s)) =
      change (if p then (operands.foldl Session.touch s).touchName target
        else operands.foldl Session.touch s) := by
    intro p _
    split
    · rw [a.foldl_touch, a.touchName]
    · exact a.foldl_touch s operands
  simp only [Session.execFold, given, a.valueOf, read]
  split
  · rfl
  · split
    · exact a.assign _ target _
    · exact a.remark _ _

theorem execHurl (o : Operand) : (change s).execHurl o = change (s.execHurl o) := by
  have payload : (change s).payloadOf o = s.payloadOf o := by
    cases o with
    | named name => simp only [payloadOf, a.values, a.valueOf]
    | constant v => rfl
  simp only [Session.execHurl, payload, a.touch, a.script]
  split
  · exact a.remark _ _
  · exact a.emit _ _

/-- **A plain statement does the same after such a change**, which might as well be made after it. -/
theorem exec {st : Statement} (noList : ∀ q, st ≠ .list q) (noStorage : ∀ q, st ≠ .storage q) :
    (change s).exec st = ((s.exec st).1, change (s.exec st).2) := by
  cases st with
  | fold op target operands => exact Prod.ext rfl (a.execFold s op target operands)
  | not target operand =>
      cases operand with
      | none => simp only [Session.exec, execNot, a.valueOf, a.touchName, a.assign]
      | some o => simp only [Session.exec, execNot, a.value, a.touch, a.assign]
  | jump label condition =>
      cases condition with
      | none => rfl
      | some o => simp only [Session.exec, execJump, a.value, a.touch]
  | leap labels =>
      simp only [Session.exec, execLeap, a.draws, a.setDraws]
      split
      · rfl
      · split <;> rfl
  | sleep seconds => simp only [Session.exec, execSleep, a.value, a.touch]
  | finish => rfl
  | has target name => simp only [Session.exec, a.values, a.assign]
  | write text => simp only [Session.exec, a.write]
  | print o => simp only [Session.exec, a.value, a.touch, a.write]
  | stash target =>
      have cleared : (change s).clearBuffer = change s.clearBuffer := a.setBuffer s ""
      simp only [Session.exec, a.buffer, cleared, a.assign]
  | flush => exact Prod.ext rfl (a.flush s)
  | randomize target x y =>
      simp only [Session.exec, execRandomize, bounds, a.value, a.touch, a.draws, a.setDraws, a.assign]
  | clamp target x y =>
      simp only [Session.exec, execClamp, bounds, a.value, a.valueOf, a.touch, a.touchName, a.assign]
  | timestamp format =>
      simp only [Session.exec, execTimestamp, a.clock, a.values, a.setValues, a.remark]
      split <;> rfl
  | drop name => simp only [Session.exec, a.values, a.setValues]
  | «match» target o literal => simp only [Session.exec, a.value, a.touch, a.assign]
  | hurl o => exact Prod.ext rfl (a.execHurl s o)
  | list q => exact absurd rfl (noList q)
  | storage q => exact absurd rfl (noStorage q)

end Aside

/-- The two sessions have the same desk, the same token of the lock, the same storage and the same
lists of the host. -/
structure SameStock (s t : Session) : Prop where
  desk : t.context.desk = s.context.desk
  lock : t.context.lock = s.context.lock
  storage : t.host.storage = s.host.storage
  catalogue : t.host.catalogue = s.host.catalogue

/-- The session with the stock of another. -/
def stockedAs (s t : Session) : Session :=
  { context := { s.context with desk := t.context.desk, lock := t.context.lock }
    host := { s.host with storage := t.host.storage, catalogue := t.host.catalogue } }

theorem aside_stockedAs (t : Session) : Aside fun s => s.stockedAs t where
  values _ := rfl
  buffer _ := rfl
  script _ := rfl
  draws _ := rfl
  clock _ := rfl
  setValues _ _ := rfl
  setBuffer _ _ := rfl
  setDraws _ _ := rfl
  emit _ _ := rfl

theorem sameStock_of_eq {s t : Session} (same : t = t.stockedAs s) : s.SameStock t := by
  rw [same]
  exact ⟨rfl, rfl, rfl, rfl⟩

/-- **A plain statement leaves desk, lock, storage and lists of the host alone.** -/
theorem sameStock_exec (s : Session) {st : Statement} (noList : ∀ q, st ≠ .list q)
    (noStorage : ∀ q, st ≠ .storage q) : s.SameStock (s.exec st).2 := by
  -- the stock of the session itself makes no difference before the statement, so it makes none after
  have same := (aside_stockedAs s).exec s noList noStorage
  exact sameStock_of_eq (congrArg Prod.snd same)

/-! ### Statements on storage -/

/-- The change keeps away from storage and from the lock too. -/
structure FarAside (change : Session → Session) : Prop extends Aside change where
  storage (s : Session) : (change s).host.storage = s.host.storage
  lock (s : Session) : (change s).context.lock = s.context.lock
  lockWait (s : Session) : (change s).context.lockWait = s.context.lockWait
  setStorage (s : Session) (storage : Storage) :
    (change s).setStorage storage = change (s.setStorage storage)
  setLock (s : Session) (lock : Option LockToken) :
    { change s with context.lock := lock } = change { s with context.lock := lock }

namespace FarAside

variable {change : Session → Session} (a : FarAside change) (s : Session)

include a

theorem releaseLock : (change s).releaseLock = change s.releaseLock := by
  unfold Session.releaseLock
  simp only [a.lock, a.storage, a.setLock, a.setStorage]
  split
  · rfl
  · split
    · rfl
    · split <;> rfl

theorem onStorage {α : Type} (f : Storage → LockToken → Except StorageError (α × Storage)) :
    (change s).onStorage f = (s.onStorage f).map fun r => (r.1, change r.2) := by
  simp only [Session.onStorage, Session.storage, a.lock, a.storage, a.setStorage]
  cases s.host.storage with
  | none => rfl
  | some st =>
      cases s.context.lock with
      | none => rfl
      | some token =>
          simp only [bind, Except.bind]
          cases f st token <;> rfl

theorem ensureLock : (change s).ensureLock = s.ensureLock.map change := by
  simp only [Session.ensureLock, Session.storage, a.lock, a.storage, a.lockWait s]
  cases s.context.lock with
  | some token => rfl
  | none =>
      cases s.host.storage with
      | none => rfl
      | some st =>
          simp only [bind, Except.bind]
          cases st.acquire s.context.lockWait with
          | error e => rfl
          | ok taken =>
              have stored := a.setStorage s taken.2
              have locked := a.setLock (s.setStorage taken.2) (some taken.1)
              rw [← stored] at locked
              exact congrArg Except.ok locked

theorem reading (q : StorageStatement) : (change s).reading q = change (s.reading q) := by
  cases q <;> simp only [Session.reading, a.touch]

theorem locking (q : StorageStatement) : (change s).locking q = (s.locking q).map change := by
  cases q with
  | «open» name =>
      simp only [Session.locking, a.touch]
      exact a.ensureLock (s.touch name)
  | _ => exact congrArg Except.ok (a.reading s _)

theorem request (q : StorageStatement) : (change s).request q = s.request q := by
  funext st token
  cases q <;> simp only [Session.request, a.value]

/-- What follows does the same after such a change, if the change allows to open a stored list. -/
theorem foldl_after (sequels : List Sequel)
    (opens : ∀ name, .opensList name ∈ sequels → ∀ s, (change s).openedStored name = change (s.openedStored name)) :
    sequels.foldl Sequel.after (change s) = change (sequels.foldl Sequel.after s) := by
  induction sequels generalizing s with
  | nil => rfl
  | cons x sequels ih =>
      have first : x.after (change s) = change (x.after s) := by
        cases x with
        | releases => exact a.releaseLock s
        | remarks r => exact a.remark s r
        | assigns target v => exact a.assign s target v
        | opensList name => exact opens name List.mem_cons_self s
      rw [List.foldl_cons, first]
      exact ih _ fun name later => opens name (List.mem_cons_of_mem x later)

/-- A statement on storage has the same effect after such a change.  One that opens a stored list
tells the script about it, which the change has to allow. -/
theorem storedEffect {q : StorageStatement}
    (opens : ∀ o, q = .list o → ∀ s name, (change s).openedStored name = change (s.openedStored name)) :
    (change s).storedEffect q = ((s.storedEffect q).1, change (s.storedEffect q).2) := by
  rw [storedEffect_eq, storedEffect_eq, a.locking, a.reading]
  cases s.locking q with
  | error e => rfl
  | ok t =>
      simp only [Except.map, granting, a.request, a.onStorage]
      cases asked : t.onStorage (s.request q) with
      | error e => rfl
      | ok r =>
          obtain ⟨_, _, _, _, _, done, _⟩ := onStorage_eq_ok asked
          refine Prod.ext rfl (a.foldl_after r.2 r.1 fun name follows s => ?_)
          obtain ⟨o, is⟩ := eq_list_of_mem done follows
          exact opens o is s name

/-- So has the statement as a whole, with the remark on its failure. -/
theorem execStorage {q : StorageStatement}
    (opens : ∀ o, q = .list o → ∀ s name, (change s).openedStored name = change (s.openedStored name)) :
    (change s).execStorage q = change (s.execStorage q) := by
  simp only [Session.execStorage, a.storage, a.storedEffect s opens]
  cases s.host.storage with
  | none => exact a.remark s _
  | some storage =>
      simp only [Option.isNone_some, Bool.false_eq_true, if_false]
      rcases s.storedEffect q with ⟨_ | _, t⟩
      · exact a.remark t _
      · rfl

/-- **A statement that is not about lists does the same after such a change.** -/
theorem exec {st : Statement} (noList : ∀ q, st ≠ .list q)
    (opens : ∀ o, st = .storage (.list o) →
      ∀ s name, (change s).openedStored name = change (s.openedStored name)) :
    (change s).exec st = ((s.exec st).1, change (s.exec st).2) := by
  by_cases about : ∃ q, st = .storage q
  · obtain ⟨q, rfl⟩ := about
    exact Prod.ext rfl (a.execStorage s fun o same => opens o (congrArg _ same))
  · exact a.toAside.exec s noList fun q same => about ⟨q, same⟩

end FarAside

end LineScript.Session
