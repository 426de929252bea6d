import LineScript.Operand

/-!
**The tail of a line.**

After its keyword a line has a tail, and every keyword has a grammar for it.  The grammars are put
together from the few shapes defined here.

Main definitions:

* `LineScript.Tail.singleWord`, `LineScript.Tail.none`, `LineScript.Tail.text` — a word, nothing, or
  free text;
* `LineScript.Tail.operand`, `LineScript.Tail.operands` — one or several operands;
* `LineScript.Tail.target` — a variable, and the rest of the tail.
-/

set_option autoImplicit false

namespace LineScript.Tail

open Reading

/-- One word; more are worth a warning. -/
def singleWord (tail : String) : Reading String := do
  let words := Text.words tail
  argCount words.length 1 1 false
  check
  match words with
  | word :: _ => pure word
  | [] => failure

/-- No words; any are worth a warning. -/
def none (tail : String) : Reading Unit := do
  argCount (Text.words tail).length 0 0 false
  check

/-- Free text without the blanks around it, which is not empty. -/
def text (tail what : String) : Reading String :=
  let text := Text.trim tail
  if text.isEmpty then refuse (.expected what) else pure text

/-- One operand. -/
def operand (tail : String) (wild : Bool) : Reading Operand := do
  Operand.read (← singleWord tail) wild

/-- At least `least` operands, and no more than `expected` unless `more` may come.  All of them are
read, so that all that are wrong are found together. -/
def operands (tail : String) (least expected : Nat) (more : Bool) : Reading (List Operand) := do
  let words := Text.words tail
  argCount words.length least expected more
  check
  let kept := if more then words else words.take expected
  every (Operand.read · false) kept

/-- A variable, and what follows it. -/
def target (tail : String) (wild : Bool) : Reading (ScopedName × String) := do
  let (word, rest) := Text.cutOrAll (Text.trimStart tail)
  if word.isEmpty then refuse (.expected "a target variable")
  else
    variableName word wild
    check
    match ScopedName.parse? word with
    | some name => pure (name, rest)
    | .none => failure

/-- A word that is the name of a variable, alone in the tail. -/
def soleTarget (tail : String) (wild : Bool) : Reading ScopedName := do
  let word ← singleWord tail
  variableName word wild
  check
  Operand.scopedName word wild

/-- A target and two operands. -/
def targetAndTwo (tail : String) : Reading (ScopedName × Operand × Operand) := do
  let (name, rest) ← target tail false
  match ← operands rest 2 2 false with
  | [a, b] => pure (name, a, b)
  | _ => failure

/-- The name of a list or a document: a bare word, perhaps with the sigil of reserved lists, stands
for itself; anything else is an operand. -/
def listName (tail : String) : Reading Operand := do
  let word ← singleWord tail
  let bare := if Name.isReserved word then word.toList.tail else word.toList
  if Name.isPlainChars bare && (Decimal.int64? bare).isNone then pure (.constant (.ofText word))
  else Operand.read word false

/-- One of two words, in any case, or neither; whether it is the second. -/
def eitherWord (word? : Option String) (first second : String) : Reading Bool :=
  match word?.map Case.asciiLowercase with
  | .none => pure false
  | some word =>
    if word = first then pure false
    else if word = second then pure true
    else refuse (.neither first second word)

end LineScript.Tail
