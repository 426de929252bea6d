import LineScript.Operand

/-!
**Statements.**

A statement is what a line of a script has executed.  It holds the names and operands that the tail
of the line was read into; a name that a statement writes to is called its target.

Main definitions:

* `LineScript.FoldOp` — the operations that combine operands into a target;
* `LineScript.CursorMove` — the moves of a list's cursor;
* `LineScript.ListStatement`, `LineScript.StorageStatement` — statements on lists and on storage;
* `LineScript.Statement` — **all statements**;
* `LineScript.Statement.keyword` — the keyword a statement is written with.
-/

set_option autoImplicit false

namespace LineScript

/-- An operation that combines operands into a target. -/
inductive FoldOp where
  | set
  | add
  | subtract
  | multiply
  | divide
  | and
  | or
  | equal
  | concat
deriving DecidableEq

namespace FoldOp

/-- All operations. -/
def all : List FoldOp := [set, add, subtract, multiply, divide, and, or, equal, concat]

/-- The keyword of an operation. -/
def keyword : FoldOp → String
  | set => "set"
  | add => "add"
  | subtract => "subtract"
  | multiply => "multiply"
  | divide => "divide"
  | and => "and"
  | or => "or"
  | equal => "equal"
  | concat => "concat"

end FoldOp

/-- A move of the cursor over the open list. -/
inductive CursorMove where
  | first
  | last
  | next
  | previous
  /-- to a record chosen by chance -/
  | random
deriving DecidableEq

namespace CursorMove

/-- All moves. -/
def all : List CursorMove := [first, last, next, previous, random]

/-- The keyword of a move. -/
def keyword : CursorMove → String
  | first => "list:first"
  | last => "list:last"
  | next => "list:next"
  | previous => "list:previous"
  | random => "list:random"

end CursorMove

/-- A statement on lists.  All but `load` are about the list that is open. -/
inductive ListStatement where
  /-- opens the list of that name -/
  | load (name : Operand)
  /-- stores the record at an index and puts the cursor there -/
  | get (target : ScopedName) (index : Operand)
  /-- moves the cursor and stores the record under it -/
  | move (m : CursorMove) (target : ScopedName)
  /-- appends a record made of the values of that name -/
  | add (source : ScopedName)
  /-- removes the record at an index, or the one under the cursor -/
  | remove (index : Option Operand)
  | clear
  /-- keeps the records whose field has the value -/
  | filter (field : String) (value : Operand)
  /-- keeps the first record of each value of the field -/
  | unique (field : String)
  | sort (field : String) (descending : Bool)
  | shuffle
  /-- keeps the first so many records, or the last -/
  | limit (count : Operand) (last : Bool)
deriving DecidableEq

/-- The keyword of a statement on lists. -/
def ListStatement.keyword : ListStatement → String
  | load _ => "list:load"
  | get _ _ => "list:get"
  | move m _ => m.keyword
  | add _ => "list:add"
  | remove _ => "list:remove"
  | clear => "list:clear"
  | filter _ _ => "list:filter"
  | unique _ => "list:unique"
  | sort _ _ => "list:sort"
  | shuffle => "list:shuffle"
  | limit _ _ => "list:limit"

/-- A statement on storage.  `open` takes the lock; the others need it. -/
inductive StorageStatement where
  /-- takes the lock, if it is not held yet, and opens the document of that name -/
  | open (name : Operand)
  /-- closes the document and gives the lock back -/
  | close
  | clear
  | save
  | get (target : ScopedName) (key : Operand)
  | set (key value : Operand)
  | has (target : ScopedName) (key : Operand)
  | remove (key : Operand)
  /-- opens the stored list of that name -/
  | list (name : Operand)
deriving DecidableEq

/-- The keyword of a statement on storage. -/
def StorageStatement.keyword : StorageStatement → String
  | .open _ => "storage:open"
  | close => "storage:close"
  | clear => "storage:clear"
  | save => "storage:save"
  | get _ _ => "storage:get"
  | set _ _ => "storage:set"
  | has _ _ => "storage:has"
  | remove _ => "storage:remove"
  | list _ => "storage:list"

/-- A statement. -/
inductive Statement where
  /-- combines operands into the target; a single operand is combined with the target's own value -/
  | fold (op : FoldOp) (target : ScopedName) (operands : List Operand)
  /-- negates the operand, or the target itself, into the target -/
  | not (target : ScopedName) (operand : Option Operand)
  /-- goes on at the label, if the condition holds or there is none -/
  | jump (label : String) (condition : Option Operand)
  /-- goes on at one of the labels, chosen by chance -/
  | leap (labels : List String)
  /-- suspends the invocation for so many seconds -/
  | sleep (seconds : Operand)
  /-- ends the invocation -/
  | finish
  /-- whether any value of that name is set -/
  | has (target name : ScopedName)
  /-- appends text to the buffer -/
  | write (text : String)
  /-- appends a value to the buffer -/
  | print (value : Operand)
  /-- moves the buffer into the target -/
  | stash (target : ScopedName)
  /-- broadcasts the buffer -/
  | flush
  /-- a number between two bounds, chosen by chance -/
  | randomize (target : ScopedName) (a b : Operand)
  /-- moves the target's number between two bounds -/
  | clamp (target : ScopedName) (a b : Operand)
  /-- the text of the present time -/
  | timestamp (format : String)
  /-- forgets the values of that name -/
  | drop (name : ScopedName)
  /-- whether the value is the literal text, in any case -/
  | match (target : ScopedName) (value : Operand) (literal : String)
  /-- hands values to the host -/
  | hurl (value : Operand)
  | list (s : ListStatement)
  | storage (s : StorageStatement)
deriving DecidableEq

/-- **The keyword a statement is written with.** -/
def Statement.keyword : Statement → String
  | fold op _ _ => op.keyword
  | not _ _ => "not"
  | jump _ _ => "jump"
  | leap _ => "leap"
  | sleep _ => "sleep"
  | finish => "end"
  | has _ _ => "has"
  | write _ => "write"
  | print _ => "print"
  | stash _ => "stash"
  | flush => "flush"
  | randomize _ _ _ => "randomize"
  | clamp _ _ _ => "range"
  | timestamp _ => "timestamp"
  | drop _ => "drop"
  | .match _ _ _ => "match"
  | hurl _ => "hurl"
  | list s => s.keyword
  | storage s => s.keyword

end LineScript
