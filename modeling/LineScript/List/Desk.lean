import LineScript.Host
import LineScript.List.View
import LineScript.Statement

/-!
**The lists of an invocation.**

An invocation has at most one list open.  That list may be one of the host's, a stored one, or a copy
of its own; changes to the first two are seen by everybody who has the list open.

Main definitions:

* `LineScript.OpenList` — which list is open;
* `LineScript.ListDesk` — the open list, the cursor, and the lists the invocation has loaded;
* `LineScript.ListDesk.load` — **opens a list by name**;
* `LineScript.ListDesk.edit` — an operation on the open list;
* `LineScript.ListDesk.filter`, `LineScript.ListDesk.unique` — replace the open list by a copy.
-/

set_option autoImplicit false

namespace LineScript

/-- A list that is open. -/
inductive OpenList where
  /-- a list of the host, by name and number -/
  | supplied (name : String) (number : Nat)
  /-- a list in storage -/
  | stored (name : String)
  /-- a list nobody else has -/
  | own (name : String) (records : List Record)
deriving DecidableEq

namespace OpenList

/-- The name of the list. -/
def name : OpenList → String
  | supplied name _ => name
  | stored name => name
  | own name _ => name

/-- The records of the list. -/
def records (l : OpenList) (h : Host) : List Record :=
  match l with
  | supplied name number => (h.catalogue.map fun c => c.records name number).getD []
  | stored name => (h.storage.map fun s => s.records name).getD []
  | own _ records => records

/-- Gives the list other records. -/
def setRecords (l : OpenList) (h : Host) (records : List Record) : OpenList × Host :=
  match l with
  | supplied name number =>
    (l, { h with catalogue := h.catalogue.map fun c => c.setRecords name number records })
  | stored name => (l, { h with storage := h.storage.map fun s => s.setRecords name records })
  | own name _ => (own name records, h)

end OpenList

/-- The open list of an invocation and its cursor. -/
structure ListDesk where
  /-- the numbers of the host's lists that were loaded, by name -/
  loaded : KeyMap Nat := .empty
  current : Option OpenList := none
  cursor : Option Nat := none
  outOfBounds : Bool := false

namespace ListDesk

/-- No list is open. -/
def empty : ListDesk := {}

/-- The open list under its cursor; no records if no list is open. -/
def view (d : ListDesk) (h : Host) : ListView :=
  ⟨(d.current.map fun l => l.records h).getD [], d.cursor, d.outOfBounds⟩

/-- Opens a list. -/
def opening (d : ListDesk) (l : OpenList) : ListDesk :=
  { d with current := some l, cursor := none, outOfBounds := false }

/-- What an operation comes to: its result or why it failed, and the desk and the host after it. -/
abbrev Result (α : Type) := Except ListError α × ListDesk × Host

/-- Opens a list by name: one that was loaded before, or else the one of the host, which is made if
there is none and the name is not reserved. -/
def load (d : ListDesk) (h : Host) (name : String) : Result Unit :=
  if name.isEmpty then (.error .emptyName, d, h)
  else
    match d.loaded.get? name with
    | some number => (.ok (), d.opening (.supplied name number), h)
    | none =>
      match h.catalogue with
      | none => (.error .noCatalogue, d, h)
      | some c =>
        match (c.latest? name).map (·, c) <|> c.create? name with
        | none => (.error (.notFound name), d, h)
        | some (number, c) =>
          let d := { d with loaded := d.loaded.insert name number }
          (.ok (), d.opening (.supplied name number), { h with catalogue := some c })

/-- An operation on the open list under its cursor. -/
def edit {α : Type} (d : ListDesk) (h : Host) (f : ListView → Except ListError α × ListView) :
    Result α :=
  match d.current with
  | none => (.error .noListOpen, d, h)
  | some l =>
    let (a, v) := f ⟨l.records h, d.cursor, d.outOfBounds⟩
    let (l, h) := l.setRecords h v.records
    (a, { d with current := some l, cursor := v.cursor, outOfBounds := v.outOfBounds }, h)

/-- Gives the open list other records and unsets the cursor. -/
def rearrange (d : ListDesk) (h : Host) (f : List Record → List Record) : Result Unit :=
  d.edit h fun v => (.ok (), .ofRecords (f v.records))

/-- Replaces the open list by a copy of some of its records, which nobody else has. -/
def select (d : ListDesk) (h : Host) (f : List Record → List Record) : Result Unit :=
  match d.current with
  | none => (.error .noListOpen, d, h)
  | some l => (.ok (), d.opening (.own l.name (f (l.records h))), h)

/-! ### Operations -/

/-- Appends a record. -/
def add (d : ListDesk) (h : Host) (r : Record) : Result Unit :=
  d.edit h fun v => (.ok (), v.add r)

/-- The record at an index, to which the cursor moves. -/
def get (d : ListDesk) (h : Host) (index : Int) : Result Record :=
  d.edit h fun v => v.get index

/-- The index a move goes to, which may be chosen by chance. -/
def destination (v : ListView) (draws : Draws) : CursorMove → Option Nat × Draws
  | .first => (some 0, draws)
  | .last => (v.lastIndex, draws)
  | .next => (v.nextIndex, draws)
  | .previous => (v.previousIndex, draws)
  | .random =>
    if v.records.isEmpty then (none, draws)
    else
      let (i, draws) := draws.index v.records.length
      (some i, draws)

/-- Moves the cursor; the record it comes to, if it stays in the list. -/
def move (d : ListDesk) (h : Host) (m : CursorMove) : Result (Option Record) :=
  match d.current with
  | none => (.error .noListOpen, d, h)
  | some _ =>
    let (index, draws) := destination (d.view h) h.draws m
    d.edit { h with draws } fun v =>
      let (r, v) := v.moveTo index
      (.ok r, v)

/-- Removes the record at an index or under the cursor. -/
def remove (d : ListDesk) (h : Host) (index : Option Int) : Result Record :=
  d.edit h fun v => v.remove index

/-- Removes all records. -/
def clear (d : ListDesk) (h : Host) : Result Unit := d.rearrange h fun _ => []

/-- Keeps a copy of the records with a value in a field. -/
def filter (d : ListDesk) (h : Host) (field : String) (value : Value) : Result Unit :=
  d.select h (ListView.matching field value)

/-- Keeps a copy of the first record of each value of a field. -/
def unique (d : ListDesk) (h : Host) (field : String) : Result Unit :=
  d.select h (ListView.distinct field)

/-- Sorts the records by a field. -/
def sort (d : ListDesk) (h : Host) (field : String) (descending : Bool) : Result Unit :=
  d.rearrange h (ListView.sorted field descending)

/-- Sorting the records by a field breaks down. -/
def sortBreaks (d : ListDesk) (h : Host) (field : String) (descending : Bool) : Bool :=
  (ListView.sort field descending (d.view h).records).brokeDown

/-- Puts the records into random order. -/
def shuffle (d : ListDesk) (h : Host) : Result Unit :=
  match d.current with
  | none => (.error .noListOpen, d, h)
  | some l =>
    let (records, draws) := h.draws.shuffle (l.records h)
    d.rearrange { h with draws } fun _ => records

/-- Keeps the first so many records, or the last. -/
def limit (d : ListDesk) (h : Host) (count : Int) (last : Bool) : Result Unit :=
  match count.toNat? with
  | none => (.error (.negativeLimit count), d, h)
  | some n => d.rearrange h (ListView.limited n last)

/-- Tells a script where it is in the open list. -/
def publish (d : ListDesk) (h : Host) (values : ValueMap) : ValueMap := (d.view h).publish values

end ListDesk

end LineScript
