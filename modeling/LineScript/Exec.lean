import LineScript.Exec.Fold
import LineScript.Exec.Stored
import LineScript.Time.Format

/-!
**Statements, executed.**

Executing a statement changes the session and says how the script goes on.

Main definitions:

* `LineScript.Flow` — how a script goes on;
* `LineScript.Session.exec` — **executes a statement**.
-/

set_option autoImplicit false

namespace LineScript

/-- How a script goes on after a statement. -/
inductive Flow where
  /-- at the next statement -/
  | next
  /-- not at all -/
  | exit
  /-- at a label -/
  | jump (label : String)
  /-- at the next statement, after so many seconds -/
  | delay (seconds : Nat)
  /-- not at all, since the statement broke down -/
  | breakdown
deriving DecidableEq

namespace Session

/-! ### Values -/

/-- Executes an operation on operands.  A single operand is combined with the target's own value,
except by `set`. -/
def execFold (s : Session) (op : FoldOp) (target : ScopedName) (operands : List Operand) :
    Session :=
  let given := operands.map s.value
  let read := operands.foldl touch s
  let alone := given.length = 1 ∧ op ≠ .set
  let vals := if alone then s.valueOf target :: given else given
  let read := if alone then read.touchName target else read
  match vals with
  | [] => read
  | first :: rest =>
    match op.combine first rest with
    | .ok v => read.assign target v
    | .error r => read.remark r

/-- Executes `not`. -/
def execNot (s : Session) (target : ScopedName) : Option Operand → Session
  | some o => (s.touch o).assign target (.ofBool !(s.value o).isTrue)
  | none => (s.touchName target).assign target (.ofBool !(s.valueOf target).isTrue)

/-- The two bounds in order. -/
def bounds (s : Session) (a b : Operand) : Int64 × Int64 :=
  let a := (s.value a).number
  let b := (s.value b).number
  if a ≤ b then (a, b) else (b, a)

/-- Executes `randomize`. -/
def execRandomize (s : Session) (target : ScopedName) (a b : Operand) : Session :=
  let (lo, hi) := s.bounds a b
  let s := (s.touch a).touch b
  let (n, draws) := s.host.draws.uniform lo hi
  { s with host.draws := draws }.assign target (.ofNumber n)

/-- The number between two bounds that is nearest to a number. -/
def clamped (lo hi n : Int64) : Int64 := if n < lo then lo else if hi < n then hi else n

/-- Executes `range`. -/
def execClamp (s : Session) (target : ScopedName) (a b : Operand) : Session :=
  let (lo, hi) := s.bounds a b
  (((s.touch a).touch b).touchName target).assign target
    (.ofNumber (clamped lo hi (s.valueOf target).number))

/-- The name the present time is kept under. -/
def timestampKey : String := "$timestamp"

/-- Executes `timestamp`. -/
def execTimestamp (s : Session) (format : String) : Session :=
  match (TimeFormat.parse? format).bind fun items => TimeFormat.render? items s.host.clock with
  | some text => s.setValues (s.values.set timestampKey (.ofText text))
  | none => s.remark (.cannotFormat format)

/-! ### Output -/

/-- The values an operand hands to the host: the set members of a wildcard, the value of a name
under its base name, or a constant. -/
def payloadOf (s : Session) : Operand → Payload
  | .named name =>
    if name.wildcard then .ofList (s.values.members name.key)
    else .ofList [(name.base, s.valueOf name)]
  | .constant v => .ofList [("value", v)]

/-- Executes `hurl`. -/
def execHurl (s : Session) (o : Operand) : Session :=
  let payload := s.payloadOf o
  let s := s.touch o
  if payload.isEmpty then s.remark (.nothingSet "hurl" o.display)
  else s.emit (.payload s.context.script payload)

/-! ### Control -/

/-- A jump goes to its label if it has no condition or the condition is true. -/
def execJump (s : Session) (label : String) : Option Operand → Flow × Session
  | none => (.jump label, s)
  | some o => (if (s.value o).isTrue then .jump label else .next, s.touch o)

/-- Executes `leap`. -/
def execLeap (s : Session) (labels : List String) : Flow × Session :=
  if labels.isEmpty then (.next, s)
  else
    let (i, draws) := s.host.draws.index labels.length
    let s := { s with host.draws := draws }
    match labels[i]? with
    | some label => (.jump label, s)
    | none => (.next, s)

/-- A sleep is for as many seconds as the number says, if it is positive. -/
def execSleep (s : Session) (seconds : Operand) : Flow × Session :=
  let n := (s.value seconds).number.toInt
  (if n > 0 then .delay n.toNat else .next, s.touch seconds)

/-- **Executes a statement.** -/
def exec (s : Session) : Statement → Flow × Session
  | .fold op target operands => (.next, s.execFold op target operands)
  | .not target operand => (.next, s.execNot target operand)
  | .jump label condition => s.execJump label condition
  | .leap labels => s.execLeap labels
  | .sleep seconds => s.execSleep seconds
  | .finish => (.exit, s)
  | .has target name => (.next, s.assign target (.ofBool (s.values.has name)))
  | .write text => (.next, s.write text)
  | .print o => (.next, (s.touch o).write (s.value o).text)
  | .stash target => (.next, s.clearBuffer.assign target (.ofText s.context.buffer))
  | .flush => (.next, s.flush)
  | .randomize target a b => (.next, s.execRandomize target a b)
  | .clamp target a b => (.next, s.execClamp target a b)
  | .timestamp format => (.next, s.execTimestamp format)
  | .drop name => (.next, s.setValues (s.values.drop name))
  | .match target o literal =>
    (.next, (s.touch o).assign target (.ofBool ((s.value o).sameText literal)))
  | .hurl o => (.next, s.execHurl o)
  | .list st => (if s.breaksDown st then .breakdown else .next, s.execList st)
  | .storage st => (.next, s.execStorage st)

end Session

end LineScript
