import LineScript.List.Sorting
import LineScript.Record
import LineScript.ValueMap

/-!
**A list under a cursor.**

Whoever has a list open sees its records and has a cursor, which is unset at first and otherwise
stands on an index.  A move that would leave the list does not move the cursor, and says so.

Main definitions:

* `LineScript.ListError` — why an operation on lists fails;
* `LineScript.ListView` — records, cursor, and whether the last move left the list;
* `LineScript.ListView.moveTo`, `LineScript.ListView.get`, `LineScript.ListView.remove` — moves and
  the removal of a record;
* `LineScript.ListView.sort`, `LineScript.ListView.sorted` — sorts records by a field, and what is there
  after it;
* `LineScript.ListView.publish` — the values under `$list.` that tell a script where it is.
-/

set_option autoImplicit false

namespace LineScript

/-- Why an operation on lists fails. -/
inductive ListError where
  | noListOpen
  | noCatalogue
  | notFound (name : String)
  | emptyName
  | outOfRange (index : Int) (size : Nat)
  | noCursor
  | negativeLimit (limit : Int)
deriving DecidableEq

/-- What is said about a failure. -/
def ListError.message : ListError → String
  | noListOpen => "no list is open"
  | noCatalogue => "no list provider is configured"
  | notFound name => s!"list '{name}' does not exist and cannot be created"
  | emptyName => "list name is empty"
  | outOfRange index size => s!"index {index} is out of range for a list of {size}"
  | noCursor => "the cursor is not on a record"
  | negativeLimit limit => s!"limit must not be negative, got {limit}"

/-- A list under a cursor. -/
structure ListView where
  records : List Record
  cursor : Option Nat := none
  /-- the last move would have left the list -/
  outOfBounds : Bool := false
deriving DecidableEq

namespace ListView

/-- Records that have just been opened: the cursor is unset. -/
def ofRecords (records : List Record) : ListView := { records }

/-! ### Moves -/

/-- Moves the cursor to an index and gives the record there.  If there is none, the cursor stays. -/
def moveTo (v : ListView) (index : Option Nat) : Option Record × ListView :=
  match index with
  | none => (none, { v with outOfBounds := true })
  | some i =>
    match v.records[i]? with
    | some r => (some r, { v with cursor := some i, outOfBounds := false })
    | none => (none, { v with outOfBounds := true })

/-- One step back.  There is none before the first index. -/
def stepBack : Nat → Option Nat
  | 0 => none
  | c + 1 => some c

/-- The last index, if there is one. -/
def lastIndex (v : ListView) : Option Nat := stepBack v.records.length

/-- The index after the cursor; the first one if the cursor is unset. -/
def nextIndex (v : ListView) : Option Nat :=
  match v.cursor with
  | none => some 0
  | some c => some (c + 1)

/-- The index before the cursor; the last one if the cursor is unset. -/
def previousIndex (v : ListView) : Option Nat :=
  match v.cursor with
  | none => v.lastIndex
  | some c => stepBack c

/-- Moves the cursor to an index that has to be one of the list. -/
def get (v : ListView) (index : Int) : Except ListError Record × ListView :=
  match v.moveTo index.toNat? with
  | (some r, v) => (.ok r, v)
  | (none, v) => (.error (.outOfRange index v.records.length), v)

/-! ### Changes -/

/-- Appends a record.  The cursor stays. -/
def add (v : ListView) (r : Record) : ListView := { v with records := v.records ++ [r] }

/-- The cursor after the record at an index was removed: it steps back if it stood there or later,
so that the next record is the one that slid into its place. -/
def cursorWithout (cursor : Option Nat) (index : Nat) : Option Nat :=
  cursor.bind fun c => if index ≤ c then stepBack c else some c

/-- Removes the record at an index, or else the one under the cursor. -/
def remove (v : ListView) (index : Option Int) : Except ListError Record × ListView :=
  match index <|> v.cursor.map Int.ofNat with
  | none => (.error .noCursor, v)
  | some i =>
    match i.toNat? with
    | none => (.error (.outOfRange i v.records.length), v)
    | some n =>
      match v.records[n]? with
      | none => (.error (.outOfRange i v.records.length), v)
      | some r =>
        (.ok r, { v with
          records := v.records.eraseIdx n
          cursor := cursorWithout v.cursor n })

/-- The first so many records, or the last. -/
def limited (count : Nat) (last : Bool) (records : List Record) : List Record :=
  if last then records.drop (records.length - count) else records.take count

/-! ### Selections -/

/-- The records that have the field, with the text in any case. -/
def matching (field : String) (value : Value) (records : List Record) : List Record :=
  records.filter fun r => (r.get? field).any fun w => w.sameText value.text

/-- The text of a field by which records are told apart. -/
def tag (field : String) (r : Record) : String := Case.lowercase (r.read field).text

/-- The records whose tag is not among those seen, and of these the first of each tag. -/
def distinctFrom (field : String) (seen : List String) : List Record → List Record
  | [] => []
  | r :: rs =>
    if tag field r ∈ seen then distinctFrom field seen rs
    else r :: distinctFrom field (tag field r :: seen) rs

/-- The first record of each text of the field, in any case. -/
def distinct (field : String) (records : List Record) : List Record := distinctFrom field [] records

/-! ### Order -/

/-- A record comes before another. -/
def before (field : String) (descending : Bool) (a b : Record) : Bool :=
  let order := (a.read field).compare (b.read field)
  if descending then order == .gt else order == .lt

/-- Sorts records by a field.  Those that are level in it keep their order; one without the field
counts as having it empty. -/
def sort (field : String) (descending : Bool) (records : List Record) :
    Sorting.Attempt Record (List Record) :=
  Sorting.sort (before field descending) records

/-- The records after they were sorted by a field. -/
def sorted (field : String) (descending : Bool) (records : List Record) : List Record :=
  (sort field descending records).items

/-! ### Publication -/

/-- The cursor is on a record, and the last move did not leave the list. -/
def hasItem (v : ListView) : Bool :=
  !v.outOfBounds && v.cursor.any fun c => c < v.records.length

/-- Tells a script where it is in the list. -/
def publish (v : ListView) (values : ValueMap) : ValueMap :=
  let count : Int := v.records.length
  let index : Int := match v.cursor with
    | some c => c
    | none => -1
  values
    |>.set "$list.count" (.ofInt count)
    |>.set "$list.lastIndex" (.ofInt (count - 1))
    |>.set "$list.index" (.ofInt index)
    |>.set "$list.hasItem" (.ofBool v.hasItem)
    |>.set "$list.outOfBounds" (.ofBool v.outOfBounds)

end ListView

end LineScript
