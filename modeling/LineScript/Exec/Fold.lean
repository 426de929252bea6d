import LineScript.Remark
import LineScript.Statement

/-!
**Combining operands.**

The operations of `FoldOp` combine a first value with the others, from left to right.  Numbers stay
within 64 bits: a sum, difference or product that would leave the range stops at its end, and a
quotient that does not exist fails.

Main definitions:

* `LineScript.saturate` — the number of 64 bits that is nearest to an integer;
* `LineScript.divide?` — the quotient, if there is one;
* `LineScript.FoldOp.combine` — **the value of an operation**.
-/

set_option autoImplicit false

namespace LineScript

/-- The number of 64 bits that is nearest to an integer. -/
def saturate (n : Int) : Int64 :=
  if n < -9223372036854775808 then Int64.minValue
  else if n ≥ 9223372036854775808 then Int64.maxValue
  else Int64.ofInt n

/-- The quotient, toward zero.  There is none by zero, and none that leaves the range. -/
def divide? (a b : Int64) : Option Int64 :=
  if b = 0 ∨ (a = Int64.minValue ∧ b = -1) then none else some (a / b)

namespace FoldOp

/-- Combines numbers by an operation on integers. -/
def arithmetic (f : Int → Int → Int) (first : Value) (rest : List Value) : Value :=
  .ofNumber (rest.foldl (fun acc v => saturate (f acc.toInt v.number.toInt)) first.number)

/-- Divides by one number after the other. -/
def quotient (acc : Int64) : List Value → Except Remark Int64
  | [] => .ok acc
  | v :: vs =>
    match divide? acc v.number with
    | some q => quotient q vs
    | none => .error (.cannotDivide acc v.number)

/-- The texts one after the other. -/
def joined (vs : List Value) : String := .ofList (vs.flatMap fun v => v.text.toList)

/-- **The value of an operation** on a first operand and the others. -/
def combine (op : FoldOp) (first : Value) (rest : List Value) : Except Remark Value :=
  match op with
  | set => .ok first
  | add => .ok (arithmetic (· + ·) first rest)
  | subtract => .ok (arithmetic (· - ·) first rest)
  | multiply => .ok (arithmetic (· * ·) first rest)
  | divide => (quotient first.number rest).map Value.ofNumber
  | and => .ok (.ofBool ((first :: rest).all Value.isTrue))
  | or => .ok (.ofBool ((first :: rest).any Value.isTrue))
  | equal => .ok (.ofBool (rest.all (· = first)))
  | concat => .ok (.ofText (joined (first :: rest)))

end FoldOp

end LineScript
