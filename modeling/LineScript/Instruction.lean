import LineScript.Declaration
import LineScript.Statement.Grammar

/-!
**Instructions.**

The first word of a line is its keyword, and the keyword decides how the rest is read.  Keywords are
found in any case.

Main definitions:

* `LineScript.Instruction` — a declaration or a statement;
* `LineScript.Instruction.table` — the readers of both, by keyword;
* `LineScript.Instruction.reader?` — **the reader of a keyword**;
* `LineScript.Instruction.keywords` — all keywords, in order.
-/

set_option autoImplicit false

namespace LineScript

/-- What a line with a keyword is read into. -/
inductive Instruction where
  | declare (d : Declaration)
  | execute (s : Statement)

namespace Instruction

/-- The readers of all instructions, by keyword. -/
def table : List (String × (String → Reading Instruction)) :=
  Grammar.declarations.map (fun (keyword, read) => (keyword, fun tail => declare <$> read tail)) ++
  Grammar.statements.map (fun (keyword, read) => (keyword, fun tail => execute <$> read tail))

/-- **The reader of a keyword**, which may be written in any case. -/
def reader? (keyword : String) : Option (String → Reading Instruction) :=
  table.lookup (Case.asciiLowercase keyword)

/-- All keywords, in order. -/
def keywords : List String := (table.map Prod.fst).mergeSort fun a b => !(b < a)

end Instruction

end LineScript
