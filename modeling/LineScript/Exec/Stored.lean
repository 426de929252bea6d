import LineScript.Exec.Lists

/-!
**Statements on storage, executed.**

Main definitions:

* `LineScript.Session.onStorage` — an operation on storage with the token of the invocation;
* `LineScript.Session.ensureLock` — takes the lock unless it is held;
* `LineScript.Session.execStorage` — **executes a statement on storage**.
-/

set_option autoImplicit false

namespace LineScript.Session

/-- The storage of the host. -/
def storage (s : Session) : Except StorageError Storage :=
  match s.host.storage with
  | some storage => .ok storage
  | none => .error .unavailable

/-- An operation on storage with the token of the invocation. -/
def onStorage {α : Type} (s : Session)
    (f : Storage → LockToken → Except StorageError (α × Storage)) :
    Except StorageError (α × Session) := do
  let storage ← s.storage
  match s.context.lock with
  | none => throw .notLocked
  | some token =>
    let (a, storage) ← f storage token
    return (a, s.setStorage storage)

/-- Takes the lock, unless the invocation holds it already. -/
def ensureLock (s : Session) : Except StorageError Session :=
  match s.context.lock with
  | some _ => .ok s
  | none => do
    let storage ← s.storage
    let (token, storage) ← storage.acquire s.context.lockWait
    return { s.setStorage storage with context.lock := some token }

/-- The session an operation comes to, or the one before it if it fails. -/
def orElseSame (s : Session) : Except StorageError Session → Except StorageError Unit × Session
  | .ok s => (.ok (), s)
  | .error e => (.error e, s)

/-- An operation on storage that has no result. -/
def onStorageOnly (s : Session) (f : Storage → LockToken → Except StorageError Storage) :
    Except StorageError Unit × Session :=
  s.orElseSame ((s.onStorage fun storage token => do return ((), ← f storage token)).map Prod.snd)

/-- What a statement does to storage that is there.  Operands are read first, and stay read when the
statement fails. -/
def storedEffect (s : Session) : StorageStatement → Except StorageError Unit × Session
  | .open name =>
    let text := (s.value name).text
    let s := s.touch name
    match s.ensureLock with
    | .error e => (.error e, s)
    | .ok s => s.onStorageOnly fun storage token => storage.openDocument token text
  | .close =>
    match s.onStorageOnly Storage.close with
    | (.ok (), s) => (.ok (), s.releaseLock)
    | failed => failed
  | .clear => s.onStorageOnly Storage.clear
  | .save => s.onStorageOnly Storage.save
  | .get target key =>
    let text := (s.value key).text
    let s := s.touch key
    s.orElseSame do
      let (found, s) ← s.onStorage fun storage token => storage.get token text
      let s := if found.isNone then s.remark (.notStored "storage:get" text) else s
      return s.assign target (found.getD .empty)
  | .set key value =>
    let text := (s.value key).text
    let stored := s.value value
    ((s.touch key).touch value).onStorageOnly fun storage token => storage.set token text stored
  | .has target key =>
    let text := (s.value key).text
    let s := s.touch key
    s.orElseSame do
      let (found, s) ← s.onStorage fun storage token => storage.has token text
      return s.assign target (.ofBool found)
  | .remove key =>
    let text := (s.value key).text
    let s := s.touch key
    s.orElseSame do
      let (found, s) ← s.onStorage fun storage token => storage.remove token text
      return if found then s else s.remark (.notStored "storage:remove" text)
  | .list name =>
    let text := (s.value name).text
    let s := s.touch name
    match s.onStorageOnly fun storage token => storage.list token text with
    | (.ok (), s) =>
      let desk := s.context.desk.opening (.stored text)
      (.ok (), { s with context.desk := desk }.publishList)
    | failed => failed

/-- **Executes a statement on storage.**  Without storage, nothing is read. -/
def execStorage (s : Session) (st : StorageStatement) : Session :=
  let (result, s) :=
    if s.host.storage.isNone then (.error .unavailable, s) else s.storedEffect st
  match result with
  | .ok () => s
  | .error e => s.remark (.storageFailed st.keyword e)

end LineScript.Session
