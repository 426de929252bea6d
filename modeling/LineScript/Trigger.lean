import LineScript.Pattern
import LineScript.Special

/-!
**What a script is triggered by.**

A script may have any number of commands, one pattern, one interval and any of the events.  A
message is a command if, after blanks, it starts with the sign for commands and its first word is one
of the command words, in any case; what follows the word is the text the arguments are taken from.

Main definitions:

* `LineScript.Triggers` — the triggers of a script;
* `LineScript.Triggers.commandTail?` — **recognises a command in a message**.
-/

set_option autoImplicit false

namespace LineScript

/-- The triggers of a script. -/
structure Triggers where
  /-- command words, in lower case and in the order they were declared -/
  commands : List String := []
  pattern : Option Pattern := none
  /-- seconds between two runs; zero for never -/
  interval : Nat := 0
  specials : SpecialSet := .empty

namespace Triggers

/-- Nothing triggers the script. -/
def isEmpty (t : Triggers) : Bool :=
  t.commands.isEmpty && t.pattern.isNone && t.interval == 0 && t.specials.isEmpty

/-- **Recognises a command in a message**: the text after the command word, without the blanks
between. -/
def commandTail? (t : Triggers) (sign : Char) (message : String) : Option String :=
  match (Text.trimStart message).toList with
  | [] => none
  | c :: rest =>
    if c = sign then
      let (word, tail) := Text.cutOrAll (.ofList rest)
      if Case.lowercase word ∈ t.commands then some (Text.trimStart tail) else none
    else none

end Triggers

end LineScript
