import LineScript.Record
import LineScript.Time.Duration
import LineScript.ValueMap

/-!
**Storage.**

Storage keeps documents, which are values by key, and lists, both by name.  It is guarded by one
lock: whoever takes it gets a token, and every operation wants the token of the one who holds the
lock.  At most one document is open at a time, and it is closed when the lock is given back.

Main definitions:

* `LineScript.LockToken`, `LineScript.StorageError` — tokens, and why an operation fails;
* `LineScript.Storage` — documents, lists and the lock;
* `LineScript.Storage.acquire`, `LineScript.Storage.release` — takes the lock and gives it back;
* `LineScript.Storage.edit` — an operation on the open document.
-/

set_option autoImplicit false

namespace LineScript

/-- The proof that one holds the lock. -/
structure LockToken where
  id : Nat
deriving DecidableEq

/-- Why an operation on storage fails. -/
inductive StorageError where
  | lockTimeout (waited : Duration)
  | lockBusy
  | notLockHolder
  | notLocked
  | notOpen
  | emptyName
  | unavailable
deriving DecidableEq

/-- What is said about a failure. -/
def StorageError.message : StorageError → String
  | lockTimeout waited => s!"timed out after {waited.text} waiting for the storage lock"
  | lockBusy => "the storage lock is busy"
  | notLockHolder => "the storage lock is held by another invocation"
  | notLocked => "this invocation does not hold the storage lock"
  | notOpen => "no storage document is open"
  | emptyName => "storage name is empty"
  | unavailable => "no storage is configured"

/-- A document: values by key. -/
abbrev Document := KeyMap Value

/-- Documents, lists and the lock. -/
structure Storage where
  documents : KeyMap Document := .empty
  lists : KeyMap (List Record) := .empty
  /-- the name of the open document -/
  opened : Option String := none
  holder : Option LockToken := none
  /-- how many tokens were made -/
  minted : Nat := 0
  /-- how often the storage was saved -/
  saves : Nat := 0

namespace Storage

/-- Storage with nothing in it. -/
def empty : Storage := {}

/-! ### The lock -/

/-- A token that was never made before. -/
def mint (s : Storage) : LockToken × Storage := (⟨s.minted⟩, { s with minted := s.minted + 1 })

/-- Takes the lock.  Nobody gives it back while this one waits, so waiting is of no use. -/
def acquire (s : Storage) (wait : Duration) : Except StorageError (LockToken × Storage) :=
  match s.holder with
  | some _ => .error (if wait = .zero then .lockBusy else .lockTimeout wait)
  | none =>
    let (token, s) := s.mint
    .ok (token, { s with holder := some token })

/-- Fails unless the token is the one of the holder. -/
def guard (s : Storage) (token : LockToken) : Except StorageError Unit :=
  if s.holder = some token then .ok () else .error .notLockHolder

/-- Gives the lock back and closes the document. -/
def release (s : Storage) (token : LockToken) : Except StorageError Storage := do
  s.guard token
  return { s with holder := none, opened := none }

/-- Does something under the lock, which is taken without waiting and given back afterwards. -/
def exclusively {α : Type} (s : Storage)
    (f : Storage → LockToken → Except StorageError (α × Storage)) :
    Except StorageError α × Storage :=
  match s.acquire .zero with
  | .error e => (.error e, s)
  | .ok (token, locked) =>
    match f locked token with
    | .ok (a, after) => (.ok a, { after with holder := none, opened := none })
    | .error e => (.error e, { locked with holder := none, opened := none })

/-! ### Documents -/

/-- Opens a document, a new one if there is none of that name. -/
def openDocument (s : Storage) (token : LockToken) (name : String) : Except StorageError Storage := do
  s.guard token
  if name.isEmpty then throw .emptyName
  let documents := if s.documents.contains name then s.documents else s.documents.insert name .empty
  return { s with documents, opened := some name }

/-- Closes the document.  The lock is kept. -/
def close (s : Storage) (token : LockToken) : Except StorageError Storage := do
  s.guard token
  if s.opened.isNone then throw .notOpen
  return { s with opened := none }

/-- The open document and its name. -/
def current? (s : Storage) : Option (String × Document) := do
  let name ← s.opened
  return (name, ← s.documents.get? name)

/-- An operation on the open document, which gives a result and may change the document. -/
def edit {α : Type} (s : Storage) (token : LockToken) (f : Document → α × Document) :
    Except StorageError (α × Storage) := do
  s.guard token
  match s.current? with
  | none => throw .notOpen
  | some (name, document) =>
    let (a, document) := f document
    return (a, { s with documents := s.documents.insert name document })

/-- Removes everything from the open document. -/
def clear (s : Storage) (token : LockToken) : Except StorageError Storage := do
  let (_, s) ← s.edit token fun _ => ((), .empty)
  return s

/-- Saves, which is only counted. -/
def save (s : Storage) (token : LockToken) : Except StorageError Storage := do
  let (_, s) ← s.edit token fun d => ((), d)
  return { s with saves := s.saves + 1 }

/-- The value of a key in the open document. -/
def get (s : Storage) (token : LockToken) (key : String) :
    Except StorageError (Option Value × Storage) :=
  s.edit token fun d => (d.get? key, d)

/-- Gives a key of the open document a value. -/
def set (s : Storage) (token : LockToken) (key : String) (value : Value) :
    Except StorageError Storage := do
  let (_, s) ← s.edit token fun d => ((), d.insert key value)
  return s

/-- Whether the open document has the key. -/
def has (s : Storage) (token : LockToken) (key : String) : Except StorageError (Bool × Storage) :=
  s.edit token fun d => (d.contains key, d)

/-- Removes a key from the open document; whether it was there. -/
def remove (s : Storage) (token : LockToken) (key : String) : Except StorageError (Bool × Storage) :=
  s.edit token fun d => (d.contains key, d.erase key)

/-- The value of a key in a document, open or not.  This is for the host and needs no token. -/
def peek (s : Storage) (name key : String) : Option Value := do
  (← s.documents.get? name).get? key

/-! ### Lists -/

/-- Makes sure that there is a list of that name. -/
def list (s : Storage) (token : LockToken) (name : String) : Except StorageError Storage := do
  s.guard token
  if name.isEmpty then throw .emptyName
  return if s.lists.contains name then s else { s with lists := s.lists.insert name [] }

/-- The records of a list. -/
def records (s : Storage) (name : String) : List Record := (s.lists.get? name).getD []

/-- Gives a list other records. -/
def setRecords (s : Storage) (name : String) (records : List Record) : Storage :=
  { s with lists := s.lists.insert name records }

end Storage

end LineScript
