import LineScript.Exec

/-!
**What a statement on storage does.**

A statement on storage reads its operands, makes sure of the lock if it opens a document, and then asks
storage for one thing with the token of the invocation.  If that is granted, something may follow in the
session, for instance what was found is assigned.  Here this is said once for all statements: once as an
equation, and once as a list of all that can have happened.

Main definitions:

* `LineScript.Session.reading`, `LineScript.Session.locking` — the session when the operands are read, and
  when the lock is sure;
* `LineScript.Session.Sequel`, `LineScript.Session.request` — what may follow in the session, and what
  storage is asked for;
* `LineScript.Session.Granted` — **all that can have happened when it is granted**.

Main results:

* `LineScript.Session.storedEffect_eq` — **a statement on storage, in its parts**;
* `LineScript.Session.storedEffect_cases` — it fails before or after the lock is sure, or it is granted;
* `LineScript.Session.storedEffect_keeps` — what the parts keep, the statement keeps.
-/

set_option autoImplicit false

namespace LineScript

/-- A computation in steps succeeds when every step does. -/
theorem bind_eq_ok {ε α β : Type} {x : Except ε α} {f : α → Except ε β} {b : β} :
    (x >>= f) = .ok b ↔ ∃ a, x = .ok a ∧ f a = .ok b := by
  cases x <;> simp [bind, Except.bind]

theorem map_eq_ok {ε α β : Type} {x : Except ε α} {f : α → β} {b : β} :
    x.map f = .ok b ↔ ∃ a, x = .ok a ∧ f a = b := by
  cases x <;> simp [Except.map]

/-! ### Operations of storage -/

namespace Storage

variable {st st' : Storage} {token : LockToken} {name : String}

theorem guard_eq_ok : st.guard token = .ok () ↔ st.holder = some token := by
  unfold guard
  split <;> simp_all

theorem current?_eq_some {document : Document} :
    st.current? = some (name, document) ↔
      st.opened = some name ∧ st.documents.get? name = some document := by
  simp only [current?, Option.bind_eq_bind, Option.bind_eq_some_iff]
  constructor
  · rintro ⟨opened, ho, d, hd, same⟩
    cases same
    exact ⟨ho, hd⟩
  · rintro ⟨ho, hd⟩
    exact ⟨name, ho, document, hd, rfl⟩

theorem openDocument_eq (held : st.holder = some token) (name : String) :
    st.openDocument token name =
      if name = "" then .error .emptyName
      else .ok { st with
        documents := if st.documents.contains name then st.documents else st.documents.insert name .empty
        opened := some name } := by
  have passes : st.guard token = .ok () := guard_eq_ok.2 held
  by_cases unnamed : name = ""
  · simp [openDocument, passes, unnamed, bind, Except.bind, throw, throwThe, MonadExceptOf.throw]
  · simp [openDocument, passes, unnamed, bind, Except.bind, pure, Except.pure]

theorem openDocument_eq_ok (done : st.openDocument token name = .ok st') :
    st.holder = some token ∧ name ≠ "" ∧ st' = { st with
      documents := if st.documents.contains name then st.documents else st.documents.insert name .empty
      opened := some name } := by
  obtain ⟨_, passes, _⟩ := bind_eq_ok.1 done
  have held := guard_eq_ok.1 passes
  rw [openDocument_eq held] at done
  split at done
  · cases done
  · rename_i named
    cases done
    exact ⟨held, named, rfl⟩

theorem close_eq_ok (done : st.close token = .ok st') :
    st.holder = some token ∧ st.opened.isSome = true ∧ st' = { st with opened := none } := by
  obtain ⟨_, passes, done⟩ := bind_eq_ok.1 done
  cases opened : st.opened with
  | none => simp [opened, throw, throwThe, MonadExceptOf.throw, bind, Except.bind] at done
  | some name =>
      rw [opened] at done
      cases done
      exact ⟨guard_eq_ok.1 passes, rfl, rfl⟩

theorem list_eq_ok (done : st.list token name = .ok st') :
    st.holder = some token ∧ name ≠ "" ∧ st' = { st with
      lists := if st.lists.contains name then st.lists else st.lists.insert name [] } := by
  obtain ⟨_, passes, done⟩ := bind_eq_ok.1 done
  by_cases unnamed : name = ""
  · simp [unnamed, throw, throwThe, MonadExceptOf.throw, bind, Except.bind] at done
  · rw [if_neg (by simpa using unnamed)] at done
    cases done
    refine ⟨guard_eq_ok.1 passes, unnamed, ?_⟩
    split <;> rfl

/-- An operation on the open document succeeds under the lock with a document open. -/
theorem edit_eq_ok {α : Type} {f : Document → α × Document} {a : α} (done : st.edit token f = .ok (a, st')) :
    st.holder = some token ∧ ∃ name document, st.opened = some name ∧
      st.documents.get? name = some document ∧ a = (f document).1 ∧
      st' = { st with documents := st.documents.insert name (f document).2 } := by
  obtain ⟨_, passes, done⟩ := bind_eq_ok.1 done
  cases found : st.current? with
  | none => simp [found, throw, throwThe, MonadExceptOf.throw] at done
  | some current =>
      obtain ⟨name, document⟩ := current
      obtain ⟨opened, there⟩ := current?_eq_some.1 found
      simp only [found, pure, Except.pure, Except.ok.injEq, Prod.mk.injEq] at done
      exact ⟨guard_eq_ok.1 passes, name, document, opened, there, done.1.symm, done.2.symm⟩

end Storage

/-- The statement is about what is in the open document. -/
def StorageStatement.looksInside : StorageStatement → Bool
  | .open _ | .close | .list _ => false
  | _ => true

namespace Session

variable {s t u : Session} {q : StorageStatement} {st : Storage} {token : LockToken}

/-! ### The parts of a statement -/

/-- The session after the operands of a statement were read. -/
def reading (s : Session) : StorageStatement → Session
  | .open o | .get _ o | .has _ o | .remove o | .list o => s.touch o
  | .set key value => (s.touch key).touch value
  | .close | .clear | .save => s

/-- The session in which storage is asked: to open a document takes the lock, unless it is held. -/
def locking (s : Session) : StorageStatement → Except StorageError Session
  | .open o => (s.touch o).ensureLock
  | q => .ok (s.reading q)

/-- The session with a stored list open, and told where it is in it. -/
def openedStored (s : Session) (name : String) : Session :=
  { s with context.desk := s.context.desk.opening (.stored name) }.publishList

/-- What follows in the session when storage has done its part. -/
inductive Sequel where
  | releases
  | remarks (r : Remark)
  | assigns (target : ScopedName) (v : Value)
  | opensList (name : String)

def Sequel.after (s : Session) : Sequel → Session
  | releases => s.releaseLock
  | remarks r => s.remark r
  | assigns target v => s.assign target v
  | opensList name => s.openedStored name

/-- What follows when a value was looked for. -/
def Sequel.ofGet (target : ScopedName) (key : String) : Option Value → List Sequel
  | none => [remarks (.notStored "storage:get" key), assigns target .empty]
  | some v => [assigns target v]

/-- What follows when a key was removed that was there or not. -/
def Sequel.ofRemove (key : String) : Bool → List Sequel
  | true => []
  | false => [remarks (.notStored "storage:remove" key)]

/-- What a statement asks storage for, and what follows. -/
def request (s : Session) (q : StorageStatement) (st : Storage) (token : LockToken) :
    Except StorageError (List Sequel × Storage) :=
  match q with
  | .open name => (st.openDocument token (s.value name).text).map fun st => ([], st)
  | .close => (st.close token).map fun st => ([.releases], st)
  | .clear => (st.clear token).map fun st => ([], st)
  | .save => (st.save token).map fun st => ([], st)
  | .get target key => (st.get token (s.value key).text).map fun r =>
      (Sequel.ofGet target (s.value key).text r.1, r.2)
  | .set key value => (st.set token (s.value key).text (s.value value)).map fun st => ([], st)
  | .has target key => (st.has token (s.value key).text).map fun r => ([.assigns target (.ofBool r.1)], r.2)
  | .remove key => (st.remove token (s.value key).text).map fun r =>
      (Sequel.ofRemove (s.value key).text r.1, r.2)
  | .list name => (st.list token (s.value name).text).map fun st => ([.opensList (s.value name).text], st)

/-- Asks storage for something, and does what follows.  If it fails, the session stays. -/
def granting (s : Session) (f : Storage → LockToken → Except StorageError (List Sequel × Storage)) :
    Except StorageError Unit × Session :=
  match s.onStorage f with
  | .error e => (.error e, s)
  | .ok (sequels, t) => (.ok (), sequels.foldl Sequel.after t)

/-- What follows an operation without a result is known beforehand. -/
theorem granting_only (s : Session) (f : Storage → LockToken → Except StorageError Storage)
    (sequels : List Sequel) :
    s.granting (fun st token => (f st token).map fun st => (sequels, st)) =
      match s.onStorageOnly f with
      | (.ok (), t) => (.ok (), sequels.foldl Sequel.after t)
      | failed => failed := by
  unfold granting onStorageOnly onStorage
  cases s.storage with
  | error e => rfl
  | ok st =>
      cases s.context.lock with
      | none => rfl
      | some token =>
          simp only [bind, Except.bind]
          cases f st token <;> rfl

/-- An operation that nothing follows. -/
theorem granting_plain (s : Session) (f : Storage → LockToken → Except StorageError Storage) :
    s.granting (fun st token => (f st token).map fun st => ([], st)) = s.onStorageOnly f := by
  rw [granting_only]
  rcases s.onStorageOnly f with ⟨_ | _, t⟩ <;> rfl

/-- What follows an operation with a result is up to the result. -/
theorem granting_found {α : Type} (s : Session)
    (f : Storage → LockToken → Except StorageError (α × Storage)) (g : α → List Sequel) :
    s.granting (fun st token => (f st token).map fun r => (g r.1, r.2)) =
      s.orElseSame ((s.onStorage f).map fun r => (g r.1).foldl Sequel.after r.2) := by
  unfold granting onStorage
  cases s.storage with
  | error e => rfl
  | ok st =>
      cases s.context.lock with
      | none => rfl
      | some token =>
          simp only [bind, Except.bind]
          cases f st token <;> rfl

/-- **A statement on storage, in its parts.** -/
theorem storedEffect_eq (s : Session) (q : StorageStatement) :
    s.storedEffect q =
      match s.locking q with
      | .error e => (.error e, s.reading q)
      | .ok t => t.granting (s.request q) := by
  cases q with
  | «open» name =>
      simp only [storedEffect, locking, reading]
      cases (s.touch name).ensureLock with
      | error e => rfl
      | ok t => exact (granting_plain t _).symm
  | close => exact (granting_only s Storage.close [.releases]).symm
  | clear => exact (granting_plain s Storage.clear).symm
  | save => exact (granting_plain s Storage.save).symm
  | set key value => exact (granting_plain ((s.touch key).touch value) _).symm
  | get target key =>
      refine Eq.trans ?_ (granting_found (s.touch key) (fun st token => st.get token (s.value key).text)
        (Sequel.ofGet target (s.value key).text)).symm
      simp only [storedEffect]
      rcases (s.touch key).onStorage fun st token => st.get token (s.value key).text with
        e | ⟨_ | v, t⟩ <;> rfl
  | has target key =>
      refine Eq.trans ?_ (granting_found (s.touch key) (fun st token => st.has token (s.value key).text)
        fun found => [.assigns target (.ofBool found)]).symm
      simp only [storedEffect]
      rcases (s.touch key).onStorage fun st token => st.has token (s.value key).text with
        e | ⟨found, t⟩ <;> rfl
  | remove key =>
      refine Eq.trans ?_ (granting_found (s.touch key) (fun st token => st.remove token (s.value key).text)
        (Sequel.ofRemove (s.value key).text)).symm
      simp only [storedEffect]
      rcases (s.touch key).onStorage fun st token => st.remove token (s.value key).text with
        e | ⟨_ | _, t⟩ <;> rfl
  | list name => exact (granting_only (s.touch name) _ [.opensList (s.value name).text]).symm

/-- Only a statement that opens a stored list is followed by that. -/
theorem eq_list_of_mem {sequels : List Sequel} {st' : Storage} {name : String}
    (asked : s.request q st token = .ok (sequels, st')) (follows : .opensList name ∈ sequels) :
    ∃ o, q = .list o := by
  cases q with
  | list o => exact ⟨o, rfl⟩
  | get target key =>
      obtain ⟨⟨_ | v, _⟩, _, ended⟩ := map_eq_ok.1 asked <;> cases ended <;> simp [Sequel.ofGet] at follows
  | remove key =>
      obtain ⟨⟨_ | _, _⟩, _, ended⟩ := map_eq_ok.1 asked <;> cases ended <;> simp [Sequel.ofRemove] at follows
  | _ =>
      obtain ⟨r, _, ended⟩ := map_eq_ok.1 asked
      cases ended
      simp at follows

/-! ### What can have happened -/

theorem storage_eq_ok (found : s.storage = .ok st) : s.host.storage = some st := by
  unfold storage at found
  split at found
  · rename_i there
    cases found
    exact there
  · cases found

/-- An operation with the token of the invocation needs storage and the token. -/
theorem onStorage_eq_ok {α : Type} {f : Storage → LockToken → Except StorageError (α × Storage)} {a : α}
    (done : s.onStorage f = .ok (a, t)) :
    ∃ st token st', s.host.storage = some st ∧ s.context.lock = some token ∧
      f st token = .ok (a, st') ∧ t = s.setStorage st' := by
  obtain ⟨st, found, done⟩ := bind_eq_ok.1 done
  cases lock : s.context.lock with
  | none => simp [lock, throw, throwThe, MonadExceptOf.throw] at done
  | some token =>
      rw [lock] at done
      obtain ⟨r, ran, done⟩ := bind_eq_ok.1 done
      cases done
      exact ⟨st, token, r.2, storage_eq_ok found, rfl, ran, rfl⟩

/-- The session with the lock, which was free. -/
def locked (s : Session) (st : Storage) : Session :=
  { s.setStorage { st with minted := st.minted + 1, holder := some ⟨st.minted⟩ } with
    context.lock := some ⟨st.minted⟩ }

/-- To make sure of the lock takes it if it is free; otherwise it does nothing or fails. -/
theorem ensureLock_eq_ok (ensured : s.ensureLock = .ok t) :
    t = s ∨ ∃ st, s.context.lock = none ∧ s.host.storage = some st ∧ st.holder = none ∧
      t = s.locked st := by
  unfold ensureLock at ensured
  cases lock : s.context.lock with
  | some token =>
      rw [lock] at ensured
      cases ensured
      exact .inl rfl
  | none =>
      rw [lock] at ensured
      obtain ⟨st, found, ensured⟩ := bind_eq_ok.1 ensured
      obtain ⟨taken, acquired, ensured⟩ := bind_eq_ok.1 ensured
      unfold Storage.acquire at acquired
      split at acquired
      · cases acquired
      · rename_i free
        cases acquired
        cases ensured
        exact .inr ⟨st, rfl, storage_eq_ok found, free, rfl⟩

theorem ensureLock_of_free (lock : s.context.lock = none) (there : s.host.storage = some st)
    (free : st.holder = none) : s.ensureLock = .ok (s.locked st) := by
  simp [ensureLock, lock, Session.storage, there, Storage.acquire, Storage.mint, free, bind, Except.bind,
    pure, Except.pure, locked]

/-- Only to open a document takes the lock. -/
theorem locking_eq_ok (ready : s.locking q = .ok t) :
    t = s.reading q ∨ ∃ name st, q = .open name ∧ s.context.lock = none ∧ s.host.storage = some st ∧
      st.holder = none ∧ t = (s.reading q).locked st := by
  cases q with
  | «open» name =>
      rcases ensureLock_eq_ok ready with rfl | ⟨st, lock, there, free, rfl⟩
      · exact .inl rfl
      · exact .inr ⟨name, st, rfl, lock, there, free, rfl⟩
  | _ =>
      cases ready
      exact .inl rfl

/-- **Giving the lock back, for whoever holds it.** -/
theorem releaseLock_of_held (there : s.host.storage = some st) (lock : s.context.lock = some token)
    (held : st.holder = some token) :
    s.releaseLock =
      { s.setStorage { st with holder := none, opened := none } with context.lock := none } := by
  simp [releaseLock, lock, there, Storage.release, Storage.guard, held, setStorage, bind, Except.bind, pure,
    Except.pure]

/-- What a statement does to the open document. -/
def edited (s : Session) : StorageStatement → Document → Document
  | .clear, _ => .empty
  | .set key value, d => d.insert (s.value key).text (s.value value)
  | .remove key, d => d.erase (s.value key).text
  | _, d => d

/-- What may follow when the open document was looked at. -/
def Sequel.Plain (q : StorageStatement) : Sequel → Prop
  | remarks r => ∃ keyword key, r = .notStored keyword key
  | assigns target _ => (∃ key, q = .get target key) ∨ ∃ key, q = .has target key
  | releases | opensList _ => False

theorem Sequel.plain_ofGet (target : ScopedName) (key : Operand) (text : String) (found : Option Value) :
    ∀ x ∈ ofGet target text found, x.Plain (.get target key) := by
  cases found <;> simp [ofGet, Plain]

theorem Sequel.plain_ofRemove (key : Operand) (text : String) (found : Bool) :
    ∀ x ∈ ofRemove text found, x.Plain (.remove key) := by
  cases found <;> simp [ofRemove, Plain]

/-- **All that can have happened when a statement was granted what it asked for**: in the session in which
storage is asked, and what comes of it. -/
inductive Granted (s t : Session) : StorageStatement → Session → Prop
  /-- opens a document, a new one if there is none of that name -/
  | opens {st : Storage} {token : LockToken} {name : Operand} (there : t.host.storage = some st)
      (lock : t.context.lock = some token) (held : st.holder = some token) (named : (s.value name).text ≠ "") :
      Granted s t (.open name) (t.setStorage { st with
        documents := if st.documents.contains (s.value name).text then st.documents
          else st.documents.insert (s.value name).text .empty
        opened := some (s.value name).text })
  /-- closes the document and gives the lock back -/
  | closes {st : Storage} {token : LockToken} (there : t.host.storage = some st)
      (lock : t.context.lock = some token) (held : st.holder = some token) (opened : st.opened.isSome = true) :
      Granted s t .close
        { t.setStorage { st with holder := none, opened := none } with context.lock := none }
  /-- looks at the open document and may change it, and may count a save -/
  | edits {st : Storage} {token : LockToken} {q : StorageStatement} {name : String} {document : Document}
      {sequels : List Sequel} (there : t.host.storage = some st) (lock : t.context.lock = some token)
      (held : st.holder = some token) (inside : q.looksInside = true) (opened : st.opened = some name)
      (known : st.documents.get? name = some document) (saves : Nat)
      (plain : ∀ x ∈ sequels, x.Plain q) :
      Granted s t q (sequels.foldl Sequel.after (t.setStorage { st with
        documents := st.documents.insert name (s.edited q document), saves }))
  /-- opens a stored list, a new one if there is none of that name -/
  | lists {st : Storage} {token : LockToken} {name : Operand} (there : t.host.storage = some st)
      (lock : t.context.lock = some token) (held : st.holder = some token) (named : (s.value name).text ≠ "") :
      Granted s t (.list name) (openedStored (t.setStorage { st with
        lists := if st.lists.contains (s.value name).text then st.lists
          else st.lists.insert (s.value name).text [] }) (s.value name).text)

theorem granted_of_edit {α : Type} {f : Document → α × Document} {a : α} {st' : Storage}
    (there : t.host.storage = some st) (lock : t.context.lock = some token)
    (done : st.edit token f = .ok (a, st')) (inside : q.looksInside = true)
    (same : ∀ d, (f d).2 = s.edited q d) (saves : Nat) (sequels : List Sequel)
    (plain : ∀ x ∈ sequels, x.Plain q) :
    s.Granted t q (sequels.foldl Sequel.after (t.setStorage { st' with saves })) := by
  obtain ⟨held, name, document, opened, known, _, rfl⟩ := Storage.edit_eq_ok done
  rw [same]
  exact .edits there lock held inside opened known saves plain

/-- Nothing else happens. -/
theorem granted_of_request {sequels : List Sequel} {st' : Storage} (there : t.host.storage = some st)
    (lock : t.context.lock = some token) (asked : s.request q st token = .ok (sequels, st')) :
    s.Granted t q (sequels.foldl Sequel.after (t.setStorage st')) := by
  cases q with
  | «open» name =>
      obtain ⟨after, done, ended⟩ := map_eq_ok.1 asked
      cases ended
      obtain ⟨held, named, rfl⟩ := Storage.openDocument_eq_ok done
      exact .opens there lock held named
  | close =>
      obtain ⟨after, done, ended⟩ := map_eq_ok.1 asked
      cases ended
      obtain ⟨held, opened, rfl⟩ := Storage.close_eq_ok done
      have released := releaseLock_of_held (s := t.setStorage { st with opened := none }) rfl lock held
      change s.Granted t .close (t.setStorage { st with opened := none }).releaseLock
      rw [released]
      exact @Granted.closes s t st token there lock held opened
  | clear =>
      obtain ⟨after, done, ended⟩ := map_eq_ok.1 asked
      cases ended
      obtain ⟨r, edited, done⟩ := bind_eq_ok.1 done
      cases done
      exact granted_of_edit there lock edited rfl (fun _ => rfl) _ [] (by simp)
  | save =>
      obtain ⟨after, done, ended⟩ := map_eq_ok.1 asked
      cases ended
      obtain ⟨r, edited, done⟩ := bind_eq_ok.1 done
      cases done
      exact granted_of_edit there lock edited rfl (fun _ => rfl) _ [] (by simp)
  | set key value =>
      obtain ⟨after, done, ended⟩ := map_eq_ok.1 asked
      cases ended
      obtain ⟨r, edited, done⟩ := bind_eq_ok.1 done
      cases done
      exact granted_of_edit there lock edited rfl (fun _ => rfl) _ [] (by simp)
  | get target key =>
      obtain ⟨r, done, ended⟩ := map_eq_ok.1 asked
      cases ended
      exact granted_of_edit there lock done rfl (fun _ => rfl) _ _ (Sequel.plain_ofGet target key _ _)
  | has target key =>
      obtain ⟨r, done, ended⟩ := map_eq_ok.1 asked
      cases ended
      exact granted_of_edit there lock done rfl (fun _ => rfl) _ _ (by simp [Sequel.Plain])
  | remove key =>
      obtain ⟨r, done, ended⟩ := map_eq_ok.1 asked
      cases ended
      exact granted_of_edit there lock done rfl (fun _ => rfl) _ _ (Sequel.plain_ofRemove key _ _)
  | list name =>
      obtain ⟨after, done, ended⟩ := map_eq_ok.1 asked
      cases ended
      obtain ⟨held, named, rfl⟩ := Storage.list_eq_ok done
      exact .lists there lock held named

/-- **How a statement on storage can end**: the lock cannot be had, or storage refuses what it is asked for,
or it grants it. -/
theorem storedEffect_cases (s : Session) (q : StorageStatement) :
    (∃ e, s.locking q = .error e ∧ s.storedEffect q = (.error e, s.reading q)) ∨
      ∃ t, s.locking q = .ok t ∧
        ((∃ e, t.onStorage (s.request q) = .error e ∧ s.storedEffect q = (.error e, t)) ∨
          ∃ u, s.storedEffect q = (.ok (), u) ∧ s.Granted t q u) := by
  rw [storedEffect_eq]
  cases ready : s.locking q with
  | error e => exact .inl ⟨e, rfl, rfl⟩
  | ok t =>
      refine .inr ⟨t, rfl, ?_⟩
      simp only [granting]
      cases asked : t.onStorage (s.request q) with
      | error e => exact .inl ⟨e, rfl, rfl⟩
      | ok r =>
          obtain ⟨st, token, st', there, lock, done, after⟩ := onStorage_eq_ok asked
          refine .inr ⟨_, rfl, ?_⟩
          rw [after]
          exact granted_of_request there lock done

/-- To open a stored list opens it, or nothing happens but that the operand is read. -/
theorem storedEffect_list_cases (s : Session) (o : Operand) :
    (∃ e, s.storedEffect (.list o) = (.error e, s.touch o)) ∨
      ∃ st, s.host.storage = some st ∧
        s.storedEffect (.list o) = (.ok (), openedStored ((s.touch o).setStorage { st with
          lists := if st.lists.contains (s.value o).text then st.lists
            else st.lists.insert (s.value o).text [] }) (s.value o).text) := by
  rcases s.storedEffect_cases (.list o) with ⟨e, _, failed⟩ | ⟨t, ready, ⟨e, _, failed⟩ | ⟨u, done, granted⟩⟩
  · exact .inl ⟨e, failed⟩
  · cases ready
    exact .inl ⟨e, failed⟩
  · cases ready
    cases granted with
    | edits _ _ _ inside => cases inside
    | lists there => exact .inr ⟨_, there, done⟩

/-- What holds when the operands are read, also with the lock taken, and holds after whatever is granted,
holds after the statement. -/
theorem storedEffect_keeps {P : Session → Prop} (reads : P (s.reading q))
    (takes : ∀ {name st}, q = .open name → s.host.storage = some st → P ((s.reading q).locked st))
    (grants : ∀ {t u}, P t → s.Granted t q u → P u) : P (s.storedEffect q).2 := by
  rcases s.storedEffect_cases q with ⟨e, _, failed⟩ | ⟨t, ready, ended⟩
  · rw [failed]
    exact reads
  · have locked : P t := by
      rcases locking_eq_ok ready with rfl | ⟨name, st, opens, _, there, _, rfl⟩
      · exact reads
      · exact takes opens there
    rcases ended with ⟨e, _, failed⟩ | ⟨u, done, granted⟩
    · rw [failed]
      exact locked
    · rw [done]
      exact grants locked granted

/-- What remarks keep, and assignments to what the statement names, is kept by what follows. -/
theorem foldl_plain {P : Session → Prop} {sequels : List Sequel} (plain : ∀ x ∈ sequels, x.Plain q)
    (remarks : ∀ {t keyword key}, P t → P (t.remark (.notStored keyword key)))
    (assigns : ∀ {t target v}, ((∃ key, q = .get target key) ∨ ∃ key, q = .has target key) → P t →
      P (t.assign target v))
    (start : P t) : P (sequels.foldl Sequel.after t) := by
  induction sequels generalizing t with
  | nil => exact start
  | cons x sequels ih =>
      refine ih (fun y later => plain y (List.mem_cons_of_mem x later)) ?_
      have first := plain x List.mem_cons_self
      cases x with
      | releases => exact first.elim
      | remarks r =>
          obtain ⟨keyword, key, rfl⟩ := first
          exact remarks start
      | assigns target v => exact assigns first start
      | opensList name => exact first.elim

/-! ### Statements as a whole -/

theorem exec_storage_of_none (out : s.host.storage = none) (q : StorageStatement) :
    s.exec (.storage q) = (.next, s.remark (.storageFailed q.keyword .unavailable)) := by
  simp [exec, execStorage, out]

theorem exec_storage_of_some (there : s.host.storage = some st) (q : StorageStatement) :
    s.exec (.storage q) = (.next,
      match s.storedEffect q with
      | (.ok (), t) => t
      | (.error e, t) => t.remark (.storageFailed q.keyword e)) := by
  simp only [exec, execStorage, there, Option.isNone_some, Bool.false_eq_true, if_false]
  rcases s.storedEffect q with ⟨_ | _, t⟩ <;> rfl

/-- A statement fails with a remark, which it does before anything else if there is no storage. -/
theorem execStorage_keeps {P : Session → Prop}
    (remarks : ∀ {t e}, P t → P (t.remark (.storageFailed q.keyword e))) (start : P s)
    (effect : s.host.storage.isSome = true → P (s.storedEffect q).2) : P (s.execStorage q) := by
  unfold execStorage
  cases there : s.host.storage with
  | none => exact remarks start
  | some st =>
      have after := effect (by simp [there])
      simp only [Option.isNone_some, Bool.false_eq_true, if_false]
      generalize s.storedEffect q = done at after ⊢
      obtain ⟨_ | _, t⟩ := done
      · exact remarks after
      · exact after

end Session

end LineScript
