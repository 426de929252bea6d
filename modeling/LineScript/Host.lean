import LineScript.Broadcast
import LineScript.Draws
import LineScript.List.Catalogue
import LineScript.Storage
import LineScript.Time.Moment

/-!
**The host.**

What all invocations share: storage, the lists of the host, chance, the time, and the outside world,
which sees what they emit.

Main definitions:

* `LineScript.Host` — the shared state;
* `LineScript.Host.emit` — shows something to the outside.
-/

set_option autoImplicit false

namespace LineScript

/-- What all invocations share. -/
structure Host where
  storage : Option Storage := none
  catalogue : Option Catalogue := none
  draws : Draws := .zeros
  /-- the present time -/
  clock : Moment := ⟨0, 0, 0⟩
  /-- what was shown to the outside, in order -/
  emitted : List Emission := []

namespace Host

/-- Shows something to the outside. -/
def emit (h : Host) (e : Emission) : Host := { h with emitted := h.emitted ++ [e] }

end Host

end LineScript
