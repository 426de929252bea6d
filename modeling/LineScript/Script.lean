import LineScript.KeyMap
import LineScript.Parameter
import LineScript.Statement
import LineScript.Trigger

/-!
**Scripts.**

A script is a sequence of statements with labels into it, together with what the host has to know in
order to call it: name, description, triggers and parameters.

Main definitions:

* `LineScript.Script` — a script;
* `LineScript.Script.usage` — the line on how to call it;
* `LineScript.Script.closed` — statements that end in `end`.
-/

set_option autoImplicit false

namespace LineScript

/-- A script. -/
structure Script where
  name : String := ""
  description : String := ""
  triggers : Triggers := {}
  parameters : List Parameter := []
  statements : Array Statement := #[]
  /-- the index of the statement each label stands before -/
  labels : KeyMap Nat := .empty

namespace Script

/-- How the script is called: its first command, or else its name, and its parameters. -/
def usage (s : Script) (sign : Char) : String :=
  let head :=
    match s.triggers.commands with
    | command :: _ => sign.toString ++ command
    | [] => s.name
  " ".intercalate (head :: s.parameters.map Parameter.usage)

/-- The statements, with an `end` after the last one unless there is one already or there are no
statements at all. -/
def closed (statements : Array Statement) : Array Statement :=
  match statements.back? with
  | none => statements
  | some .finish => statements
  | some _ => statements.push .finish

end Script

end LineScript
