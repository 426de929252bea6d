import LineScript.Statement
import LineScript.Tail
import LineScript.Time.Format

/-!
**How the tail of a statement is read.**

Every keyword of a statement has a reader for the tail of its line.  `statements` lists the keywords
with their readers.

Main definitions:

* `LineScript.Grammar.statements` — **the readers of all statements, by keyword**.
-/

set_option autoImplicit false

namespace LineScript.Grammar

open Reading

/-! ### Values and control -/

/-- A target and its operands: one for `set`, any number for the others. -/
def fold (op : FoldOp) (tail : String) : Reading Statement := do
  let (target, rest) ← Tail.target tail false
  let most := if op = .set then 1 else 2
  let operands ← Tail.operands rest 1 most (op ≠ .set)
  return .fold op target operands

/-- A target and perhaps an operand. -/
def not (tail : String) : Reading Statement := do
  let (target, rest) ← Tail.target tail false
  let operands ← Tail.operands rest 0 1 false
  return .not target operands.head?

/-- A label and perhaps a condition. -/
def jump (tail : String) : Reading Statement := do
  let words := Text.words tail
  argCount words.length 1 2 false
  check
  match words with
  | [] => failure
  | label :: rest =>
    labelName label
    check
    match rest with
    | [] => return .jump label none
    | word :: _ => return .jump label (some (← Operand.read word false))

/-- One or more labels. -/
def leap (tail : String) : Reading Statement := do
  let words := Text.words tail
  argCount words.length 1 1 true
  words.forM labelName
  check
  return .leap words

/-- A target and the name to look for. -/
def has (tail : String) : Reading Statement := do
  let (target, rest) ← Tail.target tail false
  let name ← Operand.scopedName (← Tail.singleWord rest) true
  return .has target name

/-- Text, kept as it is, the blanks around it included. -/
def write (tail : String) : Reading Statement :=
  if Text.isBlank tail then refuse (.expected "text to write") else pure (.write tail)

/-- The format of a time when none is given. -/
def defaultTimeFormat : String := "%Y-%m-%d %H:%M:%S"

/-- The format of a time. -/
def timestamp (tail : String) : Reading Statement :=
  let text := Text.trim tail
  let format := if text.isEmpty then defaultTimeFormat else text
  if (TimeFormat.parse? format).isSome then pure (.timestamp format)
  else refuse (.badTimeFormat format)

/-- A target, an operand and the text to compare with. -/
def matchText (tail : String) : Reading Statement := do
  let (target, rest) ← Tail.target tail false
  let (word, literal) := Text.cutOrAll (Text.trimStart rest)
  if word.isEmpty then refuse (.expected "a value to match")
  else
    let value ← Operand.read word false
    let literal ← Tail.text literal "literal text to match against"
    return .match target value literal

/-! ### Lists -/

/-- A target, which may be a wildcard, and an index. -/
def listGet (tail : String) : Reading Statement := do
  let (target, rest) ← Tail.target tail true
  return .list (.get target (← Tail.operand rest false))

/-- The name of the values to add. -/
def listAdd (tail : String) : Reading Statement := do
  return .list (.add (← Operand.scopedName (← Tail.singleWord tail) true))

/-- Perhaps an index. -/
def listRemove (tail : String) : Reading Statement := do
  return .list (.remove (← Tail.operands tail 0 1 false).head?)

/-- A field and a value. -/
def listFilter (tail : String) : Reading Statement := do
  let words := Text.words tail
  argCount words.length 2 2 false
  check
  match words with
  | field :: word :: _ =>
    plainName field
    check
    return .list (.filter field (← Operand.read word false))
  | _ => failure

/-- A field. -/
def listUnique (tail : String) : Reading Statement := do
  let field ← Tail.singleWord tail
  plainName field
  check
  return .list (.unique field)

/-- A field and perhaps a direction. -/
def listSort (tail : String) : Reading Statement := do
  let words := Text.words tail
  argCount words.length 1 2 false
  check
  match words with
  | [] => failure
  | field :: rest =>
    plainName field
    check
    return .list (.sort field (← Tail.eitherWord rest.head? "asc" "desc"))

/-- A count and perhaps the end to keep. -/
def listLimit (tail : String) : Reading Statement := do
  let words := Text.words tail
  argCount words.length 1 2 false
  check
  match words with
  | [] => failure
  | word :: rest =>
    let count ← Operand.read word false
    return .list (.limit count (← Tail.eitherWord rest.head? "head" "tail"))

/-! ### Storage -/

/-- A target and the key to look for. -/
def targetAndKey (make : ScopedName → Operand → StorageStatement) (tail : String) :
    Reading Statement := do
  let (target, rest) ← Tail.target tail false
  return .storage (make target (← Tail.operand rest false))

/-- A key and a value. -/
def storageSet (tail : String) : Reading Statement := do
  match ← Tail.operands tail 2 2 false with
  | [key, value] => return .storage (.set key value)
  | _ => failure

/-! ### The table -/

/-- A statement without a tail. -/
def bare (s : Statement) (tail : String) : Reading Statement := do
  Tail.none tail
  return s

/-- A statement of one operand. -/
def unary (make : Operand → Statement) (wild : Bool) (tail : String) : Reading Statement := do
  return make (← Tail.operand tail wild)

/-- A statement of the name of a list or document. -/
def naming (make : Operand → Statement) (tail : String) : Reading Statement := do
  return make (← Tail.listName tail)

/-- A statement of one target. -/
def storing (make : ScopedName → Statement) (wild : Bool) (tail : String) : Reading Statement := do
  return make (← Tail.soleTarget tail wild)

/-- A statement of a target and two bounds. -/
def bounded (make : ScopedName → Operand → Operand → Statement) (tail : String) :
    Reading Statement := do
  let (target, a, b) ← Tail.targetAndTwo tail
  return make target a b

/-- **The readers of all statements, by keyword.** -/
def statements : List (String × (String → Reading Statement)) :=
  FoldOp.all.map (fun op => (op.keyword, fold op)) ++
  [("not", not),
   ("jump", jump),
   ("leap", leap),
   ("sleep", unary .sleep false),
   ("end", bare .finish),
   ("has", has),
   ("write", write),
   ("print", unary .print false),
   ("stash", storing .stash false),
   ("flush", bare .flush),
   ("randomize", bounded .randomize),
   ("range", bounded .clamp),
   ("timestamp", timestamp),
   ("drop", fun tail => do return .drop (← Operand.scopedName (← Tail.singleWord tail) true)),
   ("match", matchText),
   ("hurl", unary .hurl true),
   ("list:load", naming fun name => .list (.load name)),
   ("list:get", listGet)] ++
  CursorMove.all.map (fun m => (m.keyword, storing (fun target => .list (.move m target)) true)) ++
  [("list:add", listAdd),
   ("list:remove", listRemove),
   ("list:clear", bare (.list .clear)),
   ("list:filter", listFilter),
   ("list:unique", listUnique),
   ("list:sort", listSort),
   ("list:shuffle", bare (.list .shuffle)),
   ("list:limit", listLimit),
   ("storage:open", naming fun name => .storage (.open name)),
   ("storage:close", bare (.storage .close)),
   ("storage:clear", bare (.storage .clear)),
   ("storage:save", bare (.storage .save)),
   ("storage:get", targetAndKey .get),
   ("storage:set", storageSet),
   ("storage:has", targetAndKey .has),
   ("storage:remove", unary (fun key => .storage (.remove key)) false),
   ("storage:list", naming fun name => .storage (.list name))]

end LineScript.Grammar
