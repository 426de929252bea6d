/-!
**Sets of code points as run lengths.**

A property of characters, such as being a letter, is a set of code points that consists of many
short intervals.  It is written down as the lengths of its runs: how many code points lie outside
the set, then how many inside, then outside again, and so on from code point 0 up.

Main definition:

* `LineScript.CodeRuns.contains` — membership of a character in the set a list of run lengths
  describes.
-/

set_option autoImplicit false

namespace LineScript

/-- Run lengths from code point 0: outside the set, inside it, outside, inside, …  Whatever follows
the last run lies outside. -/
abbrev CodeRuns := List Nat

namespace CodeRuns

/-- The code point `n` places after the start of the runs lies in the set. -/
def containsFrom : CodeRuns → Nat → Bool
  | outside :: inside :: rest, n =>
    if n < outside then false
    else if n < outside + inside then true
    else containsFrom rest (n - (outside + inside))
  | _, _ => false

/-- The character lies in the set. -/
def contains (runs : CodeRuns) (c : Char) : Bool :=
  runs.containsFrom c.toNat

end CodeRuns

end LineScript
