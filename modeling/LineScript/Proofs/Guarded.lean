import LineScript.Proofs.Aside

/-!
**What statements do to the lock and to what it guards.**

The lock guards the documents of the storage: which ones there are, which one is open, who holds the
lock, how often was saved.  The stored lists are not among them, since a list that is open can be
changed without the lock.  This module says once what a statement can do to the token of the
invocation and to the guarded part of the storage: a statement that is not about storage does nothing
to either, and one that is does one of five things, or takes the lock first and then one of them.

Main definitions:

* `LineScript.Storage.guarded` — the storage without its lists;
* `LineScript.Session.guarded` — the token of an invocation and the guarded part of the storage;
* `LineScript.Storage.Turns` — **all that an operation can do to them**.

Main results:

* `LineScript.Session.guarded_exec` — a statement that is not about storage does nothing to them;
* `LineScript.Session.turns_exec` — **a statement on storage does at most two of the things listed**.
-/

set_option autoImplicit false

namespace LineScript

/-! ### The guarded part -/

/-- The part of the storage that the lock guards: all but the lists. -/
def Storage.guarded (s : Storage) : Storage := { s with lists := .empty }

/-- The guarded part of the host's storage. -/
def Host.guarded (h : Host) : Option Storage := h.storage.map Storage.guarded

/-- The token of the invocation, and the guarded part of the storage. -/
def Session.guarded (s : Session) : Option LockToken × Option Storage :=
  (s.context.lock, s.host.guarded)

/-! ### Lists -/

theorem OpenList.guarded_setRecords (l : OpenList) (h : Host) (records : List Record) :
    (l.setRecords h records).2.guarded = h.guarded := by
  cases l with
  | supplied name number => rfl
  | stored name =>
      simp only [setRecords, Host.guarded, Option.map_map]
      rfl
  | own name old => rfl

namespace ListDesk

variable {α : Type}

theorem guarded_edit (d : ListDesk) (h : Host) (f : ListView → Except ListError α × ListView) :
    (d.edit h f).2.2.guarded = h.guarded := by
  unfold edit
  split
  · rfl
  · exact OpenList.guarded_setRecords _ h _

theorem guarded_rearrange (d : ListDesk) (h : Host) (f : List Record → List Record) :
    (d.rearrange h f).2.2.guarded = h.guarded := guarded_edit d h _

theorem guarded_select (d : ListDesk) (h : Host) (f : List Record → List Record) :
    (d.select h f).2.2.guarded = h.guarded := by
  unfold select
  split <;> rfl

theorem guarded_load (d : ListDesk) (h : Host) (name : String) :
    (d.load h name).2.2.guarded = h.guarded := by
  unfold load
  split
  · rfl
  · split
    · rfl
    · split
      · rfl
      · split <;> rfl

theorem guarded_move (d : ListDesk) (h : Host) (m : CursorMove) :
    (d.move h m).2.2.guarded = h.guarded := by
  unfold move
  split
  · rfl
  · exact guarded_edit d _ _

theorem guarded_shuffle (d : ListDesk) (h : Host) : (d.shuffle h).2.2.guarded = h.guarded := by
  unfold shuffle
  split
  · rfl
  · exact guarded_rearrange d _ _

theorem guarded_limit (d : ListDesk) (h : Host) (count : Int) (last : Bool) :
    (d.limit h count last).2.2.guarded = h.guarded := by
  unfold limit
  split
  · rfl
  · exact guarded_rearrange d _ _

end ListDesk

/-! ### Sessions -/

namespace Session

@[simp] theorem guarded_assign (s : Session) (name : ScopedName) (v : Value) :
    (s.assign name v).guarded = s.guarded := rfl

@[simp] theorem guarded_touch (s : Session) (o : Operand) : (s.touch o).guarded = s.guarded := rfl

@[simp] theorem guarded_touchName (s : Session) (name : ScopedName) :
    (s.touchName name).guarded = s.guarded := rfl

@[simp] theorem guarded_remark (s : Session) (r : Remark) : (s.remark r).guarded = s.guarded := rfl

@[simp] theorem guarded_flush (s : Session) : s.flush.guarded = s.guarded := by
  unfold flush
  dsimp only
  split <;> rfl

/-- An operation of the desk that keeps the guarded part of the storage keeps the token too. -/
theorem guarded_onDesk {α : Type} (s : Session) (f : ListDesk → Host → ListDesk.Result α)
    (hf : ∀ d h, (f d h).2.2.guarded = h.guarded) : (s.onDesk f).2.guarded = s.guarded :=
  congrArg (Prod.mk s.context.lock) (hf s.context.desk s.host)

@[simp] theorem guarded_storeRecord (s : Session) (target : ScopedName) (r : Record) :
    (s.storeRecord target r).guarded = s.guarded := by
  unfold storeRecord
  split
  · rfl
  · split <;> rfl

@[simp] theorem guarded_storeFound (target : ScopedName)
    (found : Except ListError (Option Record) × Session) :
    (storeFound target found).2.guarded = found.2.guarded := by
  obtain ⟨result, s⟩ := found
  cases result with
  | error e => rfl
  | ok r =>
      cases r with
      | none => rfl
      | some r => exact guarded_storeRecord s target r

@[simp] theorem guarded_ignoring {α : Type} (r : Except ListError α × Session) :
    (ignoring r).2.guarded = r.2.guarded := rfl

@[simp] theorem guarded_collected (s : Session) (source : ScopedName) :
    (s.collected source).guarded = s.guarded := by
  unfold collected
  split <;> rfl

theorem guarded_listEffect (s : Session) (st : ListStatement) :
    (s.listEffect st).2.guarded = s.guarded := by
  cases st with
  | load name => exact guarded_onDesk _ _ fun d h => d.guarded_load h _
  | get target index =>
      simp only [listEffect, guarded_storeFound]
      exact guarded_onDesk _ _ fun d h => d.guarded_edit h _
  | move m target =>
      simp only [listEffect, guarded_storeFound]
      exact guarded_onDesk _ _ fun d h => d.guarded_move h m
  | add source =>
      simp only [listEffect]
      split
      · simp
      · refine (guarded_onDesk _ _ fun d h => ?_).trans (guarded_collected s source)
        exact d.guarded_edit h _
  | remove index =>
      cases index with
      | none =>
          simp only [listEffect, guarded_ignoring]
          exact guarded_onDesk _ _ fun d h => d.guarded_edit h _
      | some index =>
          simp only [listEffect, guarded_ignoring]
          exact guarded_onDesk _ _ fun d h => d.guarded_edit h _
  | clear => exact guarded_onDesk _ _ fun d h => d.guarded_rearrange h _
  | filter field value => exact guarded_onDesk _ _ fun d h => d.guarded_select h _
  | unique field => exact guarded_onDesk _ _ fun d h => d.guarded_select h _
  | sort field descending => exact guarded_onDesk _ _ fun d h => d.guarded_rearrange h _
  | shuffle => exact guarded_onDesk _ _ fun d h => d.guarded_shuffle h
  | limit count last => exact guarded_onDesk _ _ fun d h => d.guarded_limit h _ last

theorem guarded_execList (s : Session) (st : ListStatement) :
    (s.execList st).guarded = s.guarded := by
  rw [← guarded_listEffect s st]
  unfold execList
  rcases s.listEffect st with ⟨_ | _, t⟩ <;> rfl

theorem guarded_of_sameStock {s t : Session} (same : s.SameStock t) : t.guarded = s.guarded := by
  unfold guarded Host.guarded
  rw [same.lock, same.storage]

/-- **A statement that is not about storage leaves the lock and what it guards alone.** -/
theorem guarded_exec (s : Session) {st : Statement} (hst : ∀ q, st ≠ .storage q) :
    (s.exec st).2.guarded = s.guarded := by
  by_cases list : ∃ q, st = .list q
  · obtain ⟨q, rfl⟩ := list
    exact guarded_execList s q
  · exact guarded_of_sameStock (s.sameStock_exec (fun q same => list ⟨q, same⟩) hst)

end Session

/-! ### What operations on storage can do -/

/-- **All that an operation can do** to the token of an invocation and to the guarded part of the
storage. -/
inductive Storage.Turns :
    Option LockToken × Option Storage → Option LockToken × Option Storage → Prop
  | stays (p : Option LockToken × Option Storage) : Turns p p
  /-- takes the lock, which was free -/
  | takes {s : Storage} (free : s.holder = none) :
      Turns (none, some s)
        (some ⟨s.minted⟩, some { s with minted := s.minted + 1, holder := some ⟨s.minted⟩ })
  /-- opens a document, a new one if there is none of that name -/
  | opens {s : Storage} {token : LockToken} {name : String} (held : s.holder = some token)
      (named : name ≠ "") :
      Turns (some token, some s) (some token, some { s with
        documents := if s.documents.contains name then s.documents
          else s.documents.insert name .empty
        opened := some name })
  /-- changes the open document, and may count a save -/
  | edits {s : Storage} {token : LockToken} {name : String} {document : Document}
      (held : s.holder = some token) (opened : s.opened = some name)
      (there : s.documents.get? name = some document) (after : Document) (saves : Nat) :
      Turns (some token, some s)
        (some token, some { s with documents := s.documents.insert name after, saves })
  /-- closes the document and gives the lock back -/
  | closes {s : Storage} {token : LockToken} (held : s.holder = some token)
      (opened : s.opened.isSome = true) :
      Turns (some token, some s) (none, some { s with holder := none, opened := none })

namespace Session

open Storage (Turns)

variable {s t u : Session} {st : Storage}

theorem guarded_of_there (there : s.host.storage = some st) :
    s.guarded = (s.context.lock, some st.guarded) := by
  simp [guarded, Host.guarded, there]

theorem guarded_reading (s : Session) (q : StorageStatement) : (s.reading q).guarded = s.guarded := by
  cases q <;> rfl

/-- Making sure of the lock takes it, or finds it held already. -/
theorem turns_locking {q : StorageStatement} (ready : s.locking q = .ok t) : Turns s.guarded t.guarded := by
  rcases locking_eq_ok ready with rfl | ⟨_, st, _, lock, there, free, rfl⟩
  · rw [guarded_reading]
    exact Turns.stays _
  · rw [guarded_of_there there, lock]
    exact Turns.takes (s := st.guarded) free

/-- What is granted is one of the things listed. -/
theorem turns_granted {q : StorageStatement} (granted : s.Granted t q u) : Turns t.guarded u.guarded := by
  cases granted with
  | @opens st _ _ there lock held named =>
      rw [guarded_of_there there, lock]
      exact lock ▸ Turns.opens (s := st.guarded) held named
  | @closes st _ there lock held opened =>
      rw [guarded_of_there there, lock]
      exact Turns.closes (s := st.guarded) held opened
  | @edits st _ _ _ _ _ there lock held _ opened known saves plain =>
      rw [guarded_of_there there, lock]
      refine foldl_plain (P := fun u => Turns _ u.guarded) plain id (fun _ => id) ?_
      exact lock ▸ Turns.edits (s := st.guarded) held opened known _ saves
  | @lists st _ _ there lock held named =>
      rw [guarded_of_there there]
      exact Turns.stays _

/-- **A statement does at most two of the things listed**: if it is not about storage, none. -/
theorem turns_exec (s : Session) (st : Statement) :
    ∃ mid, Turns s.guarded mid ∧ Turns mid (s.exec st).2.guarded := by
  by_cases hq : ∃ q, st = .storage q
  · obtain ⟨q, rfl⟩ := hq
    refine execStorage_keeps (P := fun u => ∃ mid, Turns s.guarded mid ∧ Turns mid u.guarded) id
      ⟨_, Turns.stays _, Turns.stays _⟩ fun _ => ?_
    rcases s.storedEffect_cases q with ⟨e, _, failed⟩ | ⟨t, ready, ⟨e, _, failed⟩ | ⟨u, done, granted⟩⟩
    · rw [failed, guarded_reading]
      exact ⟨_, Turns.stays _, Turns.stays _⟩
    · rw [failed]
      exact ⟨_, turns_locking ready, Turns.stays _⟩
    · rw [done]
      exact ⟨_, turns_locking ready, turns_granted granted⟩
  · refine ⟨_, Turns.stays _, ?_⟩
    rw [guarded_exec s fun q h => hq ⟨q, h⟩]
    exact Turns.stays _

end Session

end LineScript
