import LineScript.Broadcast
import LineScript.List.View
import LineScript.Parameter
import LineScript.Storage

/-!
**What is said while a script runs.**

A statement that fails does not end the invocation: a remark is broadcast, and the next statement is
executed.

Main definitions:

* `LineScript.Remark` — the remarks, with their levels and texts.
-/

set_option autoImplicit false

namespace LineScript

/-- Something to be said while a script runs. -/
inductive Remark where
  | cannotDivide (dividend divisor : Int64)
  | cannotFormat (format : String)
  /-- a statement found no values under a name -/
  | nothingSet (keyword source : String)
  /-- a record has more fields than its target takes -/
  | wideRecord (size : Nat) (target : ScopedName)
  | notStored (keyword key : String)
  | listFailed (keyword : String) (e : ListError)
  | storageFailed (keyword : String) (e : StorageError)
  | extraArguments (words : List String)
  | unbound (e : BindError) (usage : String)
  | pastLast (index : Nat)
  | overBudget (budget : Nat)
  | unknownLabel (label : String)
  | shortened (seconds : Nat) (longest : Duration)
deriving DecidableEq

namespace Remark

/-- The level of a remark. -/
def level : Remark → Level
  | extraArguments _ => .info
  | nothingSet _ _ | wideRecord _ _ | notStored _ _ | shortened _ _ => .warning
  | cannotDivide _ _ | cannotFormat _ | listFailed _ _ | storageFailed _ _ | unbound _ _
  | pastLast _ | overBudget _ | unknownLabel _ => .error

/-- The text of a remark. -/
def message : Remark → String
  | cannotDivide dividend divisor =>
    s!"divide: cannot divide {Text.ofInt64 dividend} by {Text.ofInt64 divisor}"
  | cannotFormat format => s!"cannot format the time with '{format}'"
  | nothingSet keyword source => s!"{keyword}: nothing is set under {source}"
  | wideRecord size target =>
    s!"record has {size} fields; only the first is stored in {target.display}"
  | notStored keyword key => s!"{keyword}: no value stored under '{key}'"
  | listFailed keyword e => s!"{keyword}: {e.message}"
  | storageFailed keyword e => s!"{keyword}: {e.message}"
  | extraArguments words =>
    let joined := " ".intercalate words
    s!"ignoring extra arguments: {joined}"
  | unbound e usage => s!"{e.message} (usage: {usage})"
  | pastLast index => s!"execution ran past the last statement (index {index})"
  | overBudget budget => s!"stopped after {budget} statements"
  | unknownLabel label => s!"unknown label '{label}'"
  | shortened seconds longest => s!"sleep of {seconds}s shortened to {longest.seconds}s"

end Remark

end LineScript
