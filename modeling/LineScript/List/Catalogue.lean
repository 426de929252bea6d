import LineScript.KeyMap
import LineScript.Name
import LineScript.Record

/-!
**The lists the host supplies.**

The host keeps lists by name.  When it puts a new list under a name, whoever has the old one open
keeps it; so the lists of one name are numbered in the order in which they came, and the last one is
the one that is found.

Main definitions:

* `LineScript.Catalogue` — lists by name and number;
* `LineScript.Catalogue.latest?` — the number of the list that is found under a name;
* `LineScript.Catalogue.put`, `LineScript.Catalogue.create?` — a new list from the host, and one for
  a script, which reserved names refuse.
-/

set_option autoImplicit false

namespace LineScript

/-- The lists the host supplies: under each name all lists that were ever put there, in order. -/
structure Catalogue where
  lists : KeyMap (List (List Record)) := .empty

namespace Catalogue

/-- No lists. -/
def empty : Catalogue := {}

/-- All lists of a name. -/
def generations (c : Catalogue) (name : String) : List (List Record) := (c.lists.get? name).getD []

/-- The number of the list that is found under a name. -/
def latest? (c : Catalogue) (name : String) : Option Nat :=
  match (c.generations name).length with
  | 0 => none
  | n + 1 => some n

/-- The records of a list. -/
def records (c : Catalogue) (name : String) (number : Nat) : List Record :=
  ((c.generations name)[number]?).getD []

/-- Gives a list other records. -/
def setRecords (c : Catalogue) (name : String) (number : Nat) (records : List Record) : Catalogue :=
  ⟨c.lists.insert name ((c.generations name).set number records)⟩

/-- Puts a new list under a name. -/
def put (c : Catalogue) (name : String) (records : List Record) : Catalogue :=
  ⟨c.lists.insert name (c.generations name ++ [records])⟩

/-- The list under a name, or a new one; none if the name is reserved. -/
def create? (c : Catalogue) (name : String) : Option (Nat × Catalogue) :=
  if Name.isReserved name then none
  else
    match c.latest? name with
    | some n => some (n, c)
    | none => some (0, c.put name [])

/-- The records found under a name. -/
def find? (c : Catalogue) (name : String) : Option (List Record) :=
  (c.latest? name).map (c.records name)

end Catalogue

end LineScript
