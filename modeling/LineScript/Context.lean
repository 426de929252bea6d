import LineScript.List.Desk
import LineScript.Operand
import LineScript.Remark
import LineScript.Settings

/-!
**Contexts and sessions.**

An invocation has a context of its own: values, an output buffer, a list desk, and the token of the
storage lock if it holds it.  A session is such a context together with the host it works on;
executing a statement takes one session to the next.

Main definitions:

* `LineScript.Inputs` — what the host supplies for an invocation;
* `LineScript.Context` — the state of one invocation;
* `LineScript.Session` — a context and the host;
* `LineScript.Session.flush` — broadcasts the buffer;
* `LineScript.Session.releaseLock` — gives the lock back.
-/

set_option autoImplicit false

namespace LineScript

/-- What the host supplies for an invocation. -/
structure Inputs where
  sender : String := ""
  channel : String := ""
  selfName : String := ""
  /-- values that are set from the start -/
  values : ValueMap := .empty
  settings : Settings := {}

/-- The inputs that follow from the settings. -/
def Inputs.ofSettings (settings : Settings) : Inputs :=
  { channel := settings.channel, selfName := settings.selfName, settings }

/-- The state of one invocation. -/
structure Context where
  /-- the name of the script -/
  script : String
  values : ValueMap
  /-- text that was written and not broadcast yet -/
  buffer : String := ""
  desk : ListDesk := .empty
  lock : Option LockToken := none
  /-- how long to wait for the lock -/
  lockWait : Duration
  settings : Settings

/-- The context a script starts in. -/
def Context.ofInputs (script : String) (inputs : Inputs) : Context :=
  { script
    values := inputs.values
      |>.set "$sender" (.ofText inputs.sender)
      |>.set "$channel" (.ofText inputs.channel)
      |>.set "$self" (.ofText inputs.selfName)
    lockWait := inputs.settings.lockTimeout
    settings := inputs.settings }

/-- A context and the host it works on. -/
structure Session where
  context : Context
  host : Host

namespace Session

/-! ### Values -/

/-- The values of the invocation. -/
def values (s : Session) : ValueMap := s.context.values

/-- Changes the values. -/
def setValues (s : Session) (values : ValueMap) : Session := { s with context.values := values }

/-- Gives a name a value.  Of a wildcard the part before the mark counts. -/
def assign (s : Session) (name : ScopedName) (v : Value) : Session :=
  s.setValues (s.values.set name.key v)

/-- The value of an operand. -/
def value (s : Session) (o : Operand) : Value := o.value s.values

/-- The session after an operand was read. -/
def touch (s : Session) (o : Operand) : Session := s.setValues (o.touch s.values)

/-- The value of a name itself. -/
def valueOf (s : Session) (name : ScopedName) : Value := s.values.read name.key

/-- The session after a name itself was read. -/
def touchName (s : Session) (name : ScopedName) : Session :=
  s.setValues (s.values.touch name.key)

/-! ### Output -/

/-- Shows something to the outside. -/
def emit (s : Session) (e : Emission) : Session := { s with host := s.host.emit e }

/-- Broadcasts a message. -/
def broadcast (s : Session) (level : Level) (message : String) : Session :=
  s.emit (.broadcast ⟨level, s.context.script, message⟩)

/-- Broadcasts a remark. -/
def remark (s : Session) (r : Remark) : Session := s.broadcast r.level r.message

/-- Appends text to the buffer. -/
def write (s : Session) (text : String) : Session :=
  { s with context.buffer := s.context.buffer ++ text }

/-- Empties the buffer. -/
def clearBuffer (s : Session) : Session := { s with context.buffer := "" }

/-- Broadcasts the buffer, unless it is blank, and empties it. -/
def flush (s : Session) : Session :=
  let text := s.context.buffer
  if Text.isBlank text then s.clearBuffer else s.clearBuffer.broadcast .flush text

/-! ### Storage -/

/-- Changes the storage. -/
def setStorage (s : Session) (storage : Storage) : Session :=
  { s with host.storage := some storage }

/-- Gives the lock back, if it is held. -/
def releaseLock (s : Session) : Session :=
  match s.context.lock with
  | none => s
  | some token =>
    let freed := { s with context.lock := none }
    match s.host.storage with
    | none => freed
    | some storage =>
      match storage.release token with
      | .ok storage => freed.setStorage storage
      | .error _ => freed

end Session

end LineScript
