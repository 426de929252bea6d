import LineScript.Regex.Matcher
import LineScript.Regex.Parser
import LineScript.Regex.Weight
import LineScript.ValueMap

/-!
**Patterns that trigger a script.**

A pattern ignores case as long as it is written in lower case: a single upper-case letter, unless
it is escaped or stands in brackets, makes it heed case.  When a message matches, what the groups
took of it is handed to the script as host values under `$match.`.

Main definitions:

* `LineScript.Pattern.heedsCase` — the pattern contains an upper-case letter that counts;
* `LineScript.Pattern` — the source of a pattern and its program;
* `LineScript.Pattern.ofSource` — reads a pattern;
* `LineScript.Pattern.isMatch`, `LineScript.Pattern.capture` — matches a text, and puts the texts of
  the groups into a value map.
-/

set_option autoImplicit false

namespace LineScript

/-- Why a text is no pattern. -/
inductive PatternError where
  | empty
  | invalid
deriving DecidableEq

/-- What is said about a text that is no pattern. -/
def PatternError.message : PatternError → String
  | empty => "empty pattern"
  | invalid => "regex error"

/-- A pattern: its source, and the program that matches it. -/
structure Pattern where
  source : String
  program : Regex.Program

namespace Pattern

/-- An upper-case letter counts unless it follows a backslash or stands in brackets. -/
def heedsCaseFrom (escaped inBrackets : Bool) : List Char → Bool
  | [] => false
  | c :: cs =>
    if escaped then heedsCaseFrom false inBrackets cs
    else if c == '\\' then heedsCaseFrom true inBrackets cs
    else if inBrackets then heedsCaseFrom false (c != ']') cs
    else if c == '[' then heedsCaseFrom false true cs
    else Case.isUpper c || heedsCaseFrom false false cs

/-- The pattern contains an upper-case letter that counts. -/
def heedsCase (source : String) : Bool := heedsCaseFrom false false source.toList

/-- The flags a pattern starts with: it heeds case or not, and a dot matches a line feed too. -/
def flags (source : String) : Regex.Flags where
  ignoreCase := !heedsCase source
  multiLine := false
  dotAll := true
  swapGreed := false
  unicode := true
  crlf := false
  verbose := false

/-- Reads a pattern.  One that is too heavy is refused like one that is not well-formed. -/
def ofSource (source : String) : Except PatternError Pattern :=
  if source.isEmpty then .error .empty
  else
    match Regex.parse? (flags source) source with
    | some r => if r.weight ≤ Regex.heaviest then .ok ⟨source, r.compile⟩ else .error .invalid
    | none => .error .invalid

/-- Some part of the text matches. -/
def isMatch (p : Pattern) (text : String) : Bool := p.program.isMatch text.toList

/-- The key under which the text of a group is kept. -/
def groupKey (name : String) : String := "$match." ++ name

/-- Matches a text, and on success puts the texts of the groups into the map, by index and by
name; those of groups that took no part are empty. -/
def capture (p : Pattern) (text : String) (values : ValueMap) : Option ValueMap :=
  (p.program.captures text.toList).map fun (byIndex, byName) =>
    let put := fun (m : ValueMap) (name : String) (cs : List Char) =>
      m.set (groupKey name) (.ofText (.ofList cs))
    let values := byIndex.foldl (fun m (i, cs) => put m (toString i) cs) values
    byName.foldl (fun m (name, cs) => put m name cs) values

end Pattern

end LineScript
