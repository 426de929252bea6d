import LineScript.Finding

/-!
**Operands.**

Where a statement expects a value, a script may write a scoped name, a word after a double quote or
a whole number.  A name is looked up when the statement is executed; the other two are constants.

Main definitions:

* `LineScript.Operand` — a name or a constant;
* `LineScript.Operand.read` — reads one from a word;
* `LineScript.Operand.display` — writes one;
* `LineScript.Operand.value`, `LineScript.Operand.touch` — its value among the values of an
  invocation, and these after it was read.
-/

set_option autoImplicit false

namespace LineScript

/-- What stands for a value in a script. -/
inductive Operand where
  | named (name : ScopedName)
  | constant (value : Value)
deriving DecidableEq

namespace Operand

/-- The scoped name a word is, if it is well-formed. -/
def scopedName (word : String) (wild : Bool) : Reading ScopedName := do
  Reading.valueName word wild
  Reading.check
  match ScopedName.parse? word with
  | some name => pure name
  | none => failure

/-- Reads an operand: text after a double quote, a whole number, or a scoped name. -/
def read (word : String) (wild : Bool) : Reading Operand :=
  match word.toList with
  | '"' :: text =>
    if text.isEmpty then Reading.refuse .emptyConstant
    else pure (.constant (.ofText (.ofList text)))
  | cs =>
    match Decimal.int64? cs with
    | some n => pure (.constant (.ofNumber n))
    | none => do return .named (← scopedName word wild)

/-- The operand as it is written in a script. -/
def display : Operand → String
  | named name => name.display
  | constant v => if v.isNumeric then v.text else .ofList ('"' :: v.text.toList)

/-- The name, if the operand is one. -/
def name? : Operand → Option ScopedName
  | named name => some name
  | constant _ => none

/-- The value of the operand.  A wildcard has no value of its own and counts as empty. -/
def value (o : Operand) (values : ValueMap) : Value :=
  match o with
  | named name => if name.wildcard then .empty else values.read name.key
  | constant v => v

/-- The values after the operand was read. -/
def touch (o : Operand) (values : ValueMap) : ValueMap :=
  match o with
  | named name => if name.wildcard then values else values.touch name.key
  | constant _ => values

end Operand

end LineScript
