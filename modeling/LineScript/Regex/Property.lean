import LineScript.Regex.Age
import LineScript.Regex.Binary
import LineScript.Regex.Break
import LineScript.Regex.Category
import LineScript.Regex.CharSet
import LineScript.Regex.ScriptName
import LineScript.Text.Blank
import LineScript.Text.Decimal

/-!
**Properties of characters, by name.**

A pattern may ask for the characters with a named property.  The name is that of a property that
holds or does not (`Alphabetic`), of a general category (`Lu`, `Letter`) or of a script (`Greek`);
with `=` or `:` the kind of property is spelled out (`Script=Greek`).  Case, blanks, hyphens,
underscores and a leading `is` do not count.

Main definitions:

* `LineScript.Regex.Property.plainName` — a name without what does not count;
* `LineScript.Regex.Property.named?`, `LineScript.Regex.Property.valued?` — the characters a name
  asks for;
* `LineScript.Regex.Property.word`, `LineScript.Regex.Property.digit`,
  `LineScript.Regex.Property.space` — the classes with names of their own.
-/

set_option autoImplicit false

namespace LineScript.Regex.Property

/-- The set whose run lengths are written as numbers between blanks. -/
def setOfText (s : String) : CharSet :=
  .ofRuns ((Blank.words s.toList).filterMap Decimal.digits?)

/-! ### Names -/

/-- Drops blanks, hyphens and underscores, and everything outside ASCII, and lower-cases the
rest. -/
def squeeze (cs : List Char) : List Char :=
  (cs.filter fun c => c.toNat < 128 && c != ' ' && c != '_' && c != '-').map Char.toLower

/-- A name without what does not count.  A leading `is` is dropped, except where only `c` would be
left of it. -/
def plainName (cs : List Char) : String :=
  match cs with
  | i :: s :: rest =>
    if i.toLower == 'i' && s.toLower == 's' then
      let name := squeeze rest
      if name == ['c'] then "isc" else .ofList name
    else .ofList (squeeze cs)
  | _ => .ofList (squeeze cs)

/-- The first entry of a table that has the name. -/
def find? {α : Type} (table : List (List String × α)) (name : String) : Option α :=
  (table.find? fun e => e.1.contains name).map Prod.snd

/-- The set of the entry that has the name. -/
def findSet? (table : List (List String × String)) (name : String) : Option CharSet :=
  (find? table name).map setOfText

/-! ### Sets -/

/-- The characters of a general category, or of a group of them. -/
def category? (name : String) : Option CharSet :=
  match name with
  | "any" => some .all
  | "assigned" => (findSet? categories "cn").map CharSet.compl
  | "ascii" => some (.range '\x00' '\x7f')
  | _ =>
    match find? categoryGroups name with
    | some members => some (.unions (members.filterMap (findSet? categories)))
    | none => findSet? categories name

/-- The characters that belong to a script. -/
def script? (name : String) : Option CharSet := findSet? scripts name

/-- The characters used in a script. -/
def scriptExtension? (name : String) : Option CharSet :=
  (findSet? scriptExtensions name).or (script? name)

/-- The characters that a version knows: those that were new in it or in one before it. -/
def age? (name : String) : Option CharSet :=
  if ages.any (·.1.contains name) then
    let later := (ages.dropWhile fun e => !e.1.contains name).drop 1
    some (.unions ((ages.take (ages.length - later.length)).map fun e => setOfText e.2))
  else none

/-- Whether a name is one of a category before it is one of a property. -/
def isCategoryFirst (name : String) : Bool :=
  name == "cf" || name == "sc" || name == "lc"

/-- The characters that a name alone asks for. -/
def named? (cs : List Char) : Option CharSet :=
  let name := plainName cs
  let binary := if isCategoryFirst name then none else findSet? binaries name
  binary.or ((category? name).or (script? name))

/-- The characters for which the property of the first name has the value of the second. -/
def valued? (property value : List Char) : Option CharSet :=
  let name := plainName value
  match plainName property with
  | "gc" | "generalcategory" => category? name
  | "sc" | "script" => script? name
  | "scx" | "scriptextensions" => scriptExtension? name
  | "age" => age? name
  | "gcb" | "graphemeclusterbreak" => findSet? graphemeBreaks name
  | "wb" | "wordbreak" => findSet? wordBreaks name
  | "sb" | "sentencebreak" => findSet? sentenceBreaks name
  | _ => none

/-! ### Classes with names of their own -/

/-- The decimal digits. -/
def digit : CharSet := (findSet? categories "nd").getD .none

/-- The blanks. -/
def space : CharSet := (findSet? binaries "whitespace").getD .none

/-- The characters of words: letters, marks, digits, connectors and the two joiners. -/
def word : CharSet :=
  .unions (["alphabetic", "joincontrol"].filterMap (findSet? binaries)
    ++ ["mn", "mc", "me", "nd", "pc"].filterMap (findSet? categories))

end LineScript.Regex.Property
