import LineScript.Proofs.Budget
import LineScript.Proofs.HandsBack
import LineScript.Proofs.OwnVariables

/-!
**What a statement on storage leaves behind when it fails.**

A statement on storage reads its operands, makes sure of the lock, asks the storage for something and
keeps the result.  Each of these may fail, and then the statement says so and does no more.  This module
shows that what was done before the failure is never more than reading, with one exception: to open a
document takes the lock before it looks at the name, so that it keeps the lock if the name is empty.

Main definitions:

* `LineScript.Session.ReportsError` — something that was said since then is an error;
* `LineScript.Session.Intact` — all that was there is still there as it was;
* `LineScript.Session.LocksInVain` — a statement is about to take the lock for a document without a name.

Main results:

* `LineScript.Session.storedEffect_failed` — all that a statement that fails can have done;
* `LineScript.Session.reportsError_iff` — a statement reports an error just if it fails;
* `LineScript.Session.failure_intact` — **a statement that fails leaves all as it was, unless it has taken
  the lock in vain**;
* `LineScript.Session.open_keeps_lock` — one that has.
-/

set_option autoImplicit false

namespace LineScript

/-- A value that is there stays when an operand is read. -/
theorem Operand.get?_touch (o : Operand) {values : ValueMap} {key : String} {v : Value}
    (there : values.get? key = some v) : (o.touch values).get? key = some v := by
  cases o with
  | constant c => exact there
  | named name =>
      simp only [Operand.touch]
      split
      · exact there
      · -- a key that comes to be there was not there before
        rcases ValueMap.get?_touch values name.key key with same | ⟨_, missing, _⟩
        · rw [same]
          exact there
        · rw [missing] at there
          cases there

namespace Session

variable {s t u : Session} {q : StorageStatement} {e : StorageError}

/-! ### Sessions that are intact -/

/-- Something that was said from the first session to the second is an error. -/
def ReportsError (s t : Session) : Prop :=
  Emission.messagesAt .error (t.host.emitted.drop s.host.emitted.length) ≠ []

instance (s t : Session) : Decidable (s.ReportsError t) := inferInstanceAs (Decidable (_ ≠ _))

/-- **All that was there is still there as it was**: in the context the lock, the open list with its
cursor and all else but the values, and every value that was there; in the host the storage and all else
but what was emitted. -/
structure Intact (s t : Session) : Prop where
  context : t.context = { s.context with values := t.values }
  host : t.host = { s.host with emitted := t.host.emitted }
  values : ∀ key v, s.values.get? key = some v → t.values.get? key = some v

theorem Intact.refl (s : Session) : s.Intact s := ⟨rfl, rfl, fun _ _ => id⟩

theorem Intact.touch (intact : s.Intact t) (o : Operand) : s.Intact (t.touch o) where
  context := congrArg (fun c : Context => { c with values := o.touch t.values }) intact.context
  host := intact.host
  values key v there := Operand.get?_touch o (intact.values key v there)

theorem Intact.remark (intact : s.Intact t) (r : Remark) : s.Intact (t.remark r) where
  context := intact.context
  host := congrArg (fun h : Host => { h with emitted := (t.remark r).host.emitted }) intact.host
  values := intact.values

theorem Intact.lock (intact : s.Intact t) : t.context.lock = s.context.lock := by
  rw [intact.context]

/-! ### Failures -/

theorem intact_reading (s : Session) (q : StorageStatement) : s.Intact (s.reading q) := by
  cases q with
  | close => exact .refl s
  | clear => exact .refl s
  | save => exact .refl s
  | set key value => exact ((Intact.refl s).touch key).touch value
  | _ => exact (Intact.refl s).touch _

/-- **The statement is about to take the lock in vain**: it opens a document, the name is empty, and the
lock is free. -/
def LocksInVain (s : Session) (q : StorageStatement) : Prop :=
  ∃ name st, q = .open name ∧ (s.value name).text = "" ∧ s.context.lock = none ∧
    s.host.storage = some st ∧ st.holder = none

/-- Whoever has just taken the lock opens any document that has a name. -/
theorem request_locked (st : Storage) (name : Operand) :
    s.request (.open name) { st with minted := st.minted + 1, holder := some ⟨st.minted⟩ } ⟨st.minted⟩ =
      if (s.value name).text = "" then .error .emptyName
      else .ok ([], { st with
        documents := if st.documents.contains (s.value name).text then st.documents
          else st.documents.insert (s.value name).text .empty
        opened := some (s.value name).text, minted := st.minted + 1, holder := some ⟨st.minted⟩ }) := by
  simp only [request]
  rw [Storage.openDocument_eq rfl]
  split <;> rfl

theorem onStorage_locked {α : Type} (s : Session) (st : Storage)
    (f : Storage → LockToken → Except StorageError (α × Storage)) :
    (s.locked st).onStorage f =
      (f { st with minted := st.minted + 1, holder := some ⟨st.minted⟩ } ⟨st.minted⟩).map fun r =>
        (r.1, (s.locked st).setStorage r.2) := by
  simp only [onStorage, Session.storage, locked, setStorage, bind, Except.bind]
  cases f _ _ <;> rfl

/-- **All that a statement that fails can have done**: it has read its operands, and it may have taken the
lock in vain. -/
theorem storedEffect_failed (failed : s.storedEffect q = (.error e, t)) :
    t = s.reading q ∨
      ∃ st, s.LocksInVain q ∧ s.host.storage = some st ∧ t = (s.reading q).locked st := by
  rcases s.storedEffect_cases q with ⟨_, _, is⟩ | ⟨u, ready, ⟨_, refused, is⟩ | ⟨_, is, _⟩⟩
  · exact .inl (congrArg Prod.snd (failed.symm.trans is))
  · obtain rfl : t = u := congrArg Prod.snd (failed.symm.trans is)
    rcases locking_eq_ok ready with same | ⟨name, st, rfl, lock, there, free, rfl⟩
    · exact .inl same
    · -- the lock is taken now, so that nothing but the name can be wrong
      rw [onStorage_locked, request_locked] at refused
      split at refused
      · rename_i unnamed
        exact .inr ⟨st, ⟨name, st, rfl, unnamed, lock, there, free⟩, there, rfl⟩
      · cases refused
  · cases failed.symm.trans is

/-- A statement that is about to take the lock in vain does so. -/
theorem storedEffect_of_locksInVain (vain : s.LocksInVain q) {st : Storage}
    (there : s.host.storage = some st) :
    s.storedEffect q = (.error .emptyName, (s.reading q).locked st) := by
  obtain ⟨name, st', rfl, unnamed, lock, there', free⟩ := vain
  obtain rfl : st' = st := Option.some.inj (there'.symm.trans there)
  have ready : s.locking (.open name) = .ok ((s.reading (.open name)).locked st') :=
    ensureLock_of_free (s := s.touch name) lock there free
  simp only [storedEffect_eq, ready, granting]
  rw [onStorage_locked, request_locked, if_pos unnamed]
  rfl

/-! ### What is said -/

/-- Nothing that is said from one session to the next is an error. -/
def Quiet (s t : Session) : Prop :=
  ∃ said, t.host.emitted = s.host.emitted ++ said ∧ Emission.messagesAt .error said = []

theorem Quiet.refl (s : Session) : s.Quiet s := ⟨[], (List.append_nil _).symm, rfl⟩

theorem Quiet.remark (quiet : s.Quiet t) (keyword key : String) :
    s.Quiet (t.remark (.notStored keyword key)) := by
  obtain ⟨said, emitted, clean⟩ := quiet
  let r := Remark.notStored keyword key
  refine ⟨said ++ [.broadcast ⟨r.level, t.context.script, r.message⟩], ?_, ?_⟩
  · rw [← List.append_assoc, ← emitted]
    rfl
  · rw [Emission.messagesAt, List.filterMap_append] at *
    rw [clean]
    rfl

/-- **Until it is known that a statement has failed nothing is said that is an error.** -/
theorem quiet_storedEffect (s : Session) (q : StorageStatement) : s.Quiet (s.storedEffect q).2 := by
  have read : s.Quiet (s.reading q) := by cases q <;> exact .refl s
  refine storedEffect_keeps read (fun _ _ => read) fun {t u} quiet granted => ?_
  cases granted with
  | opens => exact quiet
  | closes => exact quiet
  | edits _ _ _ _ _ _ _ plain =>
      exact foldl_plain (P := s.Quiet) plain (fun said => said.remark _ _) (fun _ said => said) quiet
  | lists => exact quiet

theorem Quiet.not_reportsError (quiet : s.Quiet t) : ¬ s.ReportsError t := by
  obtain ⟨said, emitted, clean⟩ := quiet
  simp [ReportsError, emitted, clean]

/-- What is said of a failure is an error. -/
theorem Quiet.reportsError_remark (quiet : s.Quiet t) (keyword : String) (e : StorageError) :
    s.ReportsError (t.remark (.storageFailed keyword e)) := by
  obtain ⟨said, emitted, _⟩ := quiet
  simp [ReportsError, Session.remark, broadcast, emit, Host.emit, emitted, Emission.messagesAt, Remark.level]

/-- **A statement on storage reports an error just if it fails**, which it does without storage. -/
theorem reportsError_iff :
    s.ReportsError (s.exec (.storage q)).2 ↔
      s.host.storage = none ∨ ∃ e, (s.storedEffect q).1 = .error e := by
  cases there : s.host.storage with
  | none =>
      rw [exec_storage_of_none there]
      simp [(Quiet.refl s).reportsError_remark]
  | some st =>
      rw [exec_storage_of_some there]
      have quiet := s.quiet_storedEffect q
      generalize s.storedEffect q = done at quiet ⊢
      obtain ⟨_ | _, t⟩ := done
      · simp [quiet.reportsError_remark]
      · simp [quiet.not_reportsError]

/-- **A statement on storage that fails leaves all as it was, unless it has taken the lock in vain.**  If it
reports an error, then storage, lock, open list, cursor and all values that were there are as they were,
except just if it was to open a document without a name and the lock was free.  In that case the lock is
taken now, and all else is as it was. -/
theorem failure_intact (reported : s.ReportsError (s.exec (.storage q)).2) :
    (s.Intact (s.exec (.storage q)).2 ↔ ¬ s.LocksInVain q) ∧
    ∀ st, s.host.storage = some st → s.LocksInVain q →
      ∃ t, s.Intact t ∧ (s.exec (.storage q)).2 = t.locked st := by
  have taken : ∀ st, s.host.storage = some st → s.LocksInVain q →
      ∃ t, s.Intact t ∧ (s.exec (.storage q)).2 = t.locked st := by
    intro st there vain
    refine ⟨_, (s.intact_reading q).remark (.storageFailed q.keyword .emptyName), ?_⟩
    rw [exec_storage_of_some there, storedEffect_of_locksInVain vain there]
    rfl
  refine ⟨⟨?_, ?_⟩, taken⟩
  · rintro intact ⟨name, st, rfl, unnamed, lock, there, free⟩
    obtain ⟨t, _, after⟩ := taken st there ⟨name, st, rfl, unnamed, lock, there, free⟩
    rw [after] at intact
    have held : some ⟨st.minted⟩ = s.context.lock := intact.lock
    rw [lock] at held
    cases held
  · intro fine
    cases there : s.host.storage with
    | none =>
        rw [exec_storage_of_none there]
        exact (Intact.refl s).remark _
    | some st =>
        obtain ⟨e, failed⟩ : ∃ e, (s.storedEffect q).1 = .error e := by
          simpa [there] using reportsError_iff.1 reported
        have effect : s.storedEffect q = (.error e, (s.storedEffect q).2) := Prod.ext failed rfl
        rw [exec_storage_of_some there, effect]
        rcases storedEffect_failed effect with same | ⟨_, vain, _⟩
        · rw [same]
          exact (s.intact_reading q).remark _
        · exact absurd vain fine

/-- To open a document without a name fails while somebody else holds the lock, and changes nothing. -/
theorem failure_intact_busy :
    let s : Session := ⟨.ofInputs "s" {}, { storage := some { holder := some ⟨7⟩ } }⟩
    let q : StorageStatement := .open (.named ⟨.script, "name", false⟩)
    s.ReportsError (s.exec (.storage q)).2 ∧ s.Intact (s.exec (.storage q)).2 := by
  intro s q
  have reported : s.ReportsError (s.exec (.storage q)).2 := by decide +kernel
  refine ⟨reported, (failure_intact reported).1.2 ?_⟩
  rintro ⟨name, st, _, _, _, there, free⟩
  cases there
  cases free

/-- **The lock stays taken though the statement has failed**: it was free before, and the document has no
name. -/
theorem open_keeps_lock :
    let s : Session := ⟨.ofInputs "s" {}, { storage := some .empty }⟩
    let q : StorageStatement := .open (.named ⟨.script, "name", false⟩)
    s.ReportsError (s.exec (.storage q)).2 ∧ s.context.lock = none ∧
      (s.exec (.storage q)).2.context.lock = some ⟨0⟩ ∧
      (s.exec (.storage q)).2.host.storage.bind (·.holder) = some ⟨0⟩ ∧
      ¬ s.Intact (s.exec (.storage q)).2 := by
  intro s q
  have kept : (s.exec (.storage q)).2.context.lock = some ⟨0⟩ := by decide +kernel
  refine ⟨by decide +kernel, rfl, kept, by decide +kernel, ?_⟩
  intro intact
  have free : (s.exec (.storage q)).2.context.lock = none := intact.lock
  rw [kept] at free
  cases free

end Session

end LineScript
