import LineScript.Value
import LineScript.KeyMap

/-!
**What a script shows to the outside.**

Everything that can be observed of a script is emitted as one of two things: a *broadcast*, which is
a message with a level and a note of where it comes from, or a *payload*, a map of values that is
hurled into a second channel.  Broadcasts at the level `flush` are the output proper; the others
are diagnostics.

Main definitions:

* `LineScript.Level`, `LineScript.Broadcast` — messages;
* `LineScript.Emission` — a message or a payload;
* `LineScript.Emission.messagesAt`, `LineScript.Emission.payloads` — what was emitted of one kind;
* `LineScript.Channel` — a queue of emissions between a script and its host.
-/

set_option autoImplicit false

namespace LineScript

/-- The level of a message, in increasing order. -/
inductive Level where
  | info
  | warning
  | error
  /-- output to be delivered -/
  | flush
deriving DecidableEq, Ord

/-- The name of a level. -/
def Level.name : Level → String
  | info => "info"
  | warning => "warning"
  | error => "error"
  | flush => "flush"

/-- A message: its level, a word on where it comes from, and its text. -/
structure Broadcast where
  level : Level
  origin : String
  message : String
deriving DecidableEq

/-- A message on one line. -/
def Broadcast.display (b : Broadcast) : String :=
  s!"[{b.level.name}] {b.origin}: {b.message}"

/-- The values of a payload, by name. -/
abbrev Payload := KeyMap Value

/-- Something a script shows to the outside. -/
inductive Emission where
  | broadcast (b : Broadcast)
  | payload (origin : String) (values : Payload)

namespace Emission

/-- The texts of the messages at a level, in order. -/
def messagesAt (level : Level) (es : List Emission) : List String :=
  es.filterMap fun
    | broadcast b => if b.level = level then some b.message else none
    | payload _ _ => none

/-- The output texts, in order. -/
def flushes (es : List Emission) : List String := messagesAt .flush es

/-- The payloads, in order. -/
def payloads (es : List Emission) : List Payload :=
  es.filterMap fun
    | broadcast _ => none
    | payload _ values => some values

end Emission

/-- A queue of emissions.  Once its receiver has gone, what is sent is lost. -/
structure Channel where
  waiting : List Emission
  isOpen : Bool

namespace Channel

/-- A queue with nothing in it. -/
def empty : Channel := ⟨[], true⟩

/-- Puts an emission at the end of the queue. -/
def send (c : Channel) (e : Emission) : Channel :=
  if c.isOpen then { c with waiting := c.waiting ++ [e] } else c

/-- Takes the first emission out of the queue. -/
def receive (c : Channel) : Option Emission × Channel :=
  match c.waiting with
  | [] => (none, c)
  | e :: rest => (some e, { c with waiting := rest })

/-- The receiver goes, and with it what was waiting. -/
def hangUp (_ : Channel) : Channel := ⟨[], false⟩

end Channel

end LineScript
