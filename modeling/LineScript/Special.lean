import LineScript.Text.Case

/-!
**Events that trigger a script.**

Besides commands, patterns and timers, a script can ask to be run when the host observes an event of
its platform.

Main definitions:

* `LineScript.Special` — the events;
* `LineScript.SpecialSet` — a set of them.
-/

set_option autoImplicit false

namespace LineScript

/-- An event of the platform. -/
inductive Special where
  /-- a message carried emotes -/
  | emotes
  /-- a user joined -/
  | join
  /-- a user left -/
  | part
deriving DecidableEq

namespace Special

/-- All events. -/
def all : List Special := [emotes, join, part]

/-- The name of an event. -/
def name : Special → String
  | emotes => "twitch:emotes"
  | join => "twitch:join"
  | part => "twitch:part"

/-- The event a word stands for, in any case. -/
def ofName? (word : String) : Option Special :=
  all.find? fun t => t.name == Case.asciiLowercase word

end Special

/-- A set of events. -/
structure SpecialSet where
  emotes : Bool := false
  join : Bool := false
  part : Bool := false
deriving DecidableEq

namespace SpecialSet

/-- No event. -/
def empty : SpecialSet := {}

/-- The event is in the set. -/
def contains (s : SpecialSet) : Special → Bool
  | .emotes => s.emotes
  | .join => s.join
  | .part => s.part

/-- Puts an event into the set. -/
def insert (s : SpecialSet) : Special → SpecialSet
  | .emotes => { s with emotes := true }
  | .join => { s with join := true }
  | .part => { s with part := true }

/-- The set of one event. -/
def single (t : Special) : SpecialSet := empty.insert t

/-- The events of the set, in order. -/
def toList (s : SpecialSet) : List Special := Special.all.filter s.contains

/-- No event is in the set. -/
def isEmpty (s : SpecialSet) : Bool := s.toList.isEmpty

end SpecialSet

end LineScript
