import LineScript.KeyMap
import LineScript.Name
import LineScript.Value

/-!
**The values of an invocation.**

A value map holds values under their keys, sigil included.  Reading never fails: a key without a
value reads as the empty value, and the read leaves the empty value behind under that key.  The two
halves of a read are kept apart here: `read` says what is read, `touch` what is left behind.  A
value is *set* when its text is not empty, and only set values show up in wildcards, so that what a
read leaves behind is never seen again.

Main definitions:

* `LineScript.ValueMap.read`, `LineScript.ValueMap.touch` — the value under a key, and the map after
  it was read;
* `LineScript.ValueMap.isSet` — the key has a value with text;
* `LineScript.ValueMap.members` — the set values whose keys begin with a given text;
* `LineScript.ValueMap.has` — a name, or some member of a wildcard, is set.

Main results:

* `LineScript.ValueMap.read_touch` — **a read changes no later read**;
* `LineScript.ValueMap.isSet_touch` — nor what is set.
-/

set_option autoImplicit false

namespace LineScript

/-- Values under their keys. -/
abbrev ValueMap := KeyMap Value

namespace ValueMap

/-- The value under a key; the empty value if there is none. -/
def read (m : ValueMap) (key : String) : Value := (m.get? key).getD .empty

/-- The map after the key was read: a missing key now holds the empty value. -/
def touch (m : ValueMap) (key : String) : ValueMap :=
  if m.contains key then m else m.insert key .empty

/-- Puts a value under a key. -/
def set (m : ValueMap) (key : String) (value : Value) : ValueMap := m.insert key value

/-- The key has a value with text. -/
def isSet (m : ValueMap) (key : String) : Bool := (m.get? key).any fun v => !v.isEmpty

/-- The set values whose keys begin with `stem`: what each key has after it, and the value, in the
order of the keys. -/
def members (m : ValueMap) (stem : String) : List (String × Value) :=
  ((m.span stem).filter fun e => !e.2.isEmpty).map fun e => (KeyMap.after stem e.1, e.2)

/-- The name is set, or some member of the wildcard is. -/
def has (m : ValueMap) (name : ScopedName) : Bool :=
  if name.wildcard then !(m.members name.key).isEmpty else m.isSet name.key

/-- Removes what the name stands for: one key, or all that a wildcard covers. -/
def drop (m : ValueMap) (name : ScopedName) : ValueMap :=
  if name.wildcard then m.eraseSpan name.key else m.erase name.key

/-! ### Reads leave no trace -/

theorem read_touch (m : ValueMap) (key other : String) : (m.touch key).read other = m.read other := by
  unfold touch
  split
  · rfl
  · rename_i h
    have hk : m.get? key = none := by simpa [KeyMap.contains] using h
    by_cases ho : other = key
    · subst ho
      simp [read, hk]
    · simp [read, KeyMap.get?_insert_of_ne m ho]

theorem isSet_touch (m : ValueMap) (key other : String) :
    (m.touch key).isSet other = m.isSet other := by
  unfold touch
  split
  · rfl
  · rename_i h
    have hk : m.get? key = none := by simpa [KeyMap.contains] using h
    by_cases ho : other = key
    · subst ho
      simp [isSet, hk, Value.isEmpty, Value.empty]
    · simp [isSet, KeyMap.get?_insert_of_ne m ho]

end ValueMap

end LineScript
