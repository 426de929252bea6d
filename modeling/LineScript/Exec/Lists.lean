import LineScript.Context

/-!
**Statements on lists, executed.**

After every statement on lists the values under `$list.` tell the script where it is, whether the
statement failed or not.

Main definitions:

* `LineScript.Session.recordOf` — the record made of the values of a name;
* `LineScript.Session.storeRecord` — stores a record in a target;
* `LineScript.Session.execList` — **executes a statement on lists**;
* `LineScript.Session.breaksDown` — a statement on lists breaks down.
-/

set_option autoImplicit false

namespace LineScript.Session

/-! ### Records and values -/

/-- The record made of the values of a name: the set members of a wildcard, each under what the
wildcard stands for, or the one value of a plain name, if it is set, under the base name. -/
def recordOf (s : Session) (source : ScopedName) : Record :=
  if source.wildcard then .ofList (s.values.members source.key)
  else
    let v := s.valueOf source
    if v.isEmpty then .empty else .ofList [(source.base, v)]

/-- The session after the values of a name were collected. -/
def collected (s : Session) (source : ScopedName) : Session :=
  if source.wildcard then s else s.touchName source

/-- Stores a record: in a wildcard every field, in a plain target the first one. -/
def storeRecord (s : Session) (target : ScopedName) (r : Record) : Session :=
  if target.wildcard then
    s.setValues (r.fields.foldl (fun values f => values.set (target.member f.1) f.2) s.values)
  else
    let s := if r.size > 1 then s.remark (.wideRecord r.size target) else s
    s.assign target (r.first?.getD .empty)

/-! ### Operations of the desk -/

/-- Lets the desk do something. -/
def onDesk {α : Type} (s : Session) (f : ListDesk → Host → ListDesk.Result α) :
    Except ListError α × Session :=
  let (result, desk, host) := f s.context.desk s.host
  (result, { context := { s.context with desk }, host })

/-- Stores the record an operation found, if it found one. -/
def storeFound (target : ScopedName) :
    Except ListError (Option Record) × Session → Except ListError Unit × Session
  | (.ok (some r), s) => (.ok (), s.storeRecord target r)
  | (.ok none, s) => (.ok (), s)
  | (.error e, s) => (.error e, s)

/-- The same operation, without its result. -/
def ignoring {α : Type} : Except ListError α × Session → Except ListError Unit × Session
  | (result, s) => (result.map fun _ => (), s)

/-! ### Statements -/

/-- What a statement on lists does, before the script is told where it is. -/
def listEffect (s : Session) : ListStatement → Except ListError Unit × Session
  | .load name => (s.touch name).onDesk fun d h => d.load h (s.value name).text
  | .get target index =>
    let (result, s) := (s.touch index).onDesk fun d h => d.get h (s.value index).number.toInt
    storeFound target (result.map some, s)
  | .move m target => storeFound target (s.onDesk fun d h => d.move h m)
  | .add source =>
    let r := s.recordOf source
    let s := s.collected source
    if r.isEmpty then (.ok (), s.remark (.nothingSet "list:add" source.display))
    else s.onDesk fun d h => d.add h r
  | .remove none => ignoring (s.onDesk fun d h => d.remove h none)
  | .remove (some index) =>
    ignoring ((s.touch index).onDesk fun d h => d.remove h (some (s.value index).number.toInt))
  | .clear => s.onDesk fun d h => d.clear h
  | .filter field value => (s.touch value).onDesk fun d h => d.filter h field (s.value value)
  | .unique field => s.onDesk fun d h => d.unique h field
  | .sort field descending => s.onDesk fun d h => d.sort h field descending
  | .shuffle => s.onDesk fun d h => d.shuffle h
  | .limit count last =>
    (s.touch count).onDesk fun d h => d.limit h (s.value count).number.toInt last

/-- Tells the script where it is in the open list. -/
def publishList (s : Session) : Session := s.setValues (s.context.desk.publish s.host s.values)

/-- **Executes a statement on lists.** -/
def execList (s : Session) (st : ListStatement) : Session :=
  match s.listEffect st with
  | (.ok (), s) => s.publishList
  | (.error e, s) => s.publishList.remark (.listFailed st.keyword e)

/-- A statement on lists breaks down: it is to sort records, and their order contradicts itself.  The
records are left as they stand at that time, and the run is over. -/
def breaksDown (s : Session) : ListStatement → Bool
  | .sort field descending => s.context.desk.sortBreaks s.host field descending
  | _ => false

end LineScript.Session
