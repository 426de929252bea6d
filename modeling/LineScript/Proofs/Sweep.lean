import LineScript.Proofs.CursorState

/-!
**Going through a list and removing records on the way.**

A script goes through the open list with `list:next` until it is told that it is out of bounds, and on the
way it may remove the record it is on.  The removal shortens the list under the loop, and the cursor steps
back, so that the next move comes to the record after the removed one.  Here it is shown that such a loop
comes to every record once, whichever records it removes.

The invariant is that the list consists of the records that were kept so far and the records that are still
to come, with the cursor on the last one kept, or unset if there is none.

Main definitions:

* `LineScript.Sweep` — **a loop over the open list**, and what is left open about it;
* `LineScript.Sweep.run` — the loop for at most so many moves;
* `LineScript.Session.Halfway` — the invariant.

Main results:

* `LineScript.ListView.next_halfway`, `LineScript.ListView.remove_at_cursor` — what a move and a removal do
  in such a list;
* `LineScript.Sweep.run_visits_all` — **the loop visits every record once and leaves those that it has not
  removed**.
-/

set_option autoImplicit false

namespace LineScript

theorem Value.isTrue_ofBool (b : Bool) : (Value.ofBool b).isTrue = b := by
  cases b <;> rfl

/-! ### Moves and removals in a list of two parts -/

namespace ListView

variable {v : ListView} {kept rest : List Record} {r : Record}

theorem nextIndex_halfway (cursor : v.cursor = stepBack kept.length) : v.nextIndex = some kept.length := by
  unfold nextIndex
  rw [cursor]
  cases kept.length <;> rfl

@[simp] theorem moveTo_records (v : ListView) (index : Option Nat) :
    (v.moveTo index).2.records = v.records := by
  rcases v.moveTo_cases index with ⟨c, r, _, _, moved⟩ | ⟨_, stayed⟩
  · rw [moved]
  · rw [stayed]

/-- From the last record of the first part the cursor moves to the first of the second. -/
theorem next_halfway (records : v.records = kept ++ r :: rest) (cursor : v.cursor = stepBack kept.length) :
    v.moveTo v.nextIndex = (some r, { v with cursor := some kept.length, outOfBounds := false }) := by
  have hat : v.records[kept.length]? = some r := by simp [records]
  rw [nextIndex_halfway cursor]
  simp only [moveTo, hat]

/-- From the last record of all it does not move. -/
theorem next_last (records : v.records = kept) (cursor : v.cursor = stepBack kept.length) :
    v.moveTo v.nextIndex = (none, { v with outOfBounds := true }) := by
  have hat : v.records[kept.length]? = none := by simp [records]
  rw [nextIndex_halfway cursor]
  simp only [moveTo, hat]

/-- The record under the cursor is removed, and the cursor is on the last record of the first part again. -/
theorem remove_at_cursor (records : v.records = kept ++ r :: rest) (cursor : v.cursor = some kept.length) :
    v.remove none =
      (.ok r, { v with records := kept ++ rest, cursor := stepBack kept.length }) := by
  have hat : v.records[kept.length]? = some r := by simp [records]
  have index : ((none : Option Int) <|> v.cursor.map Int.ofNat) = some (kept.length : Int) := by
    simp [cursor]
  have shorter : v.records.eraseIdx kept.length = kept ++ rest := by
    rw [records, List.eraseIdx_append_of_length_le (Nat.le_refl _)]
    simp
  have back : cursorWithout v.cursor kept.length = stepBack kept.length := by
    simp [cursorWithout, cursor]
  have natural : (kept.length : Int).toNat? = some kept.length := rfl
  simp only [remove, index, natural, hat, shorter, back]

end ListView

/-! ### The same in a session -/

/-- After work on the open list there is what the work came to, unless the list was not there and was to get
records. -/
theorem ListDesk.view_edit {α : Type} {d : ListDesk} {h : Host} {l : OpenList}
    {f : ListView → Except ListError α × ListView} (hopen : d.current = some l)
    (there : l.records h ≠ [] ∨ (f (d.view h)).2.records = l.records h) :
    (d.edit h f).2.1.current = some (l.holding (f (d.view h)).2.records) ∧
      (d.edit h f).2.1.view (d.edit h f).2.2 = (f (d.view h)).2 := by
  obtain ⟨loaded, current, cursor, outOfBounds⟩ := d
  obtain rfl : current = some l := hopen
  let w := (f ⟨l.records h, cursor, outOfBounds⟩).2
  have records : (l.holding w.records).records (l.setRecords h w.records).2 = w.records := by
    rcases l.records_setRecords h w.records with same | ⟨empty, gone⟩
    · exact same
    · rcases there with hne | same
      · exact absurd empty hne
      · rw [gone]
        exact (same.trans empty).symm
  refine ⟨by simp only [edit, OpenList.setRecords_fst]; rfl, ?_⟩
  simp only [edit, view, OpenList.setRecords_fst, Option.map_some, Option.getD_some]
  exact congrArg (fun rs => ListView.mk rs w.cursor w.outOfBounds) records

namespace Session

variable {s t : Session} {l : OpenList}

/-- The open list under its cursor. -/
def look (s : Session) : ListView := s.context.desk.view s.host

theorem look_records (hopen : s.context.desk.current = some l) : s.look.records = l.records s.host := by
  simp [look, ListDesk.view, hopen]

theorem look_of_sameStock (same : s.SameStock t) : t.look = s.look := (sameOpen_of_sameStock same).view

/-- The record that the cursor is on. -/
def underCursor (s : Session) : Option Record := s.look.cursor.bind fun c => s.look.records[c]?

/-- The script is told that the last move left the list. -/
def outOfBounds (s : Session) : Bool := (s.values.read "$list.outOfBounds").isTrue

theorem outOfBounds_eq (told : s.ToldOfList) : s.outOfBounds = s.look.outOfBounds := by
  have value : s.values.get? "$list.outOfBounds" = some (.ofBool s.look.outOfBounds) := told.outOfBounds
  rw [outOfBounds, ValueMap.read, value, Option.getD_some, Value.isTrue_ofBool]

/-- `list:next` moves the cursor over the open list, which stays the same. -/
theorem execList_next (hopen : s.context.desk.current = some l) (target : ScopedName) :
    (s.execList (.move .next target)).context.desk.current = some l ∧
      (s.execList (.move .next target)).look = (s.look.moveTo s.look.nextIndex).2 := by
  let moves (v : ListView) : Except ListError (Option Record) × ListView :=
    (.ok (v.moveTo s.look.nextIndex).1, (v.moveTo s.look.nextIndex).2)
  have edits : s.context.desk.move s.host .next = s.context.desk.edit s.host moves := by
    simp only [ListDesk.move, hopen]
    rfl
  have same : (moves s.look).2.records = l.records s.host := by
    rw [← look_records hopen]
    exact s.look.moveTo_records _
  obtain ⟨current, view⟩ := ListDesk.view_edit (f := moves) hopen (.inr same)
  have stock := (sameStock_storeFound target (s.onDesk fun d h => d.move h .next)).trans
    (s.sameStock_execList (.move .next target))
  rw [stock.desk, look_of_sameStock stock]
  simp only [onDesk, look, edits]
  refine ⟨current.trans ?_, view⟩
  rw [show (moves (s.context.desk.view s.host)).2.records = l.records s.host from same, l.holding_records]

/-- `list:remove` removes the record under the cursor from the open list. -/
theorem execList_remove (hopen : s.context.desk.current = some l) (hne : l.records s.host ≠ []) :
    (s.execList (.remove none)).context.desk.current = .some (l.holding (s.look.remove none).2.records) ∧
      (s.execList (.remove none)).look = (s.look.remove none).2 := by
  have stock := s.sameStock_execList (.remove none)
  rw [stock.desk, look_of_sameStock stock]
  exact ListDesk.view_edit (f := fun v => v.remove none) hopen (.inl hne)

/-- The open list is the given one, with these records and the cursor there. -/
structure Holds (s : Session) (l : OpenList) (records : List Record) (cursor : Option Nat) : Prop where
  current : s.context.desk.current = some (l.holding records)
  records : s.look.records = records
  cursor : s.look.cursor = cursor

theorem Holds.sameOpen {records : List Record} {cursor : Option Nat} (holds : s.Holds l records cursor)
    (same : s.SameOpen t) : t.Holds l records cursor := by
  have look : t.look = s.look := same.view
  refine ⟨?_, ?_, ?_⟩
  · rw [same.desk]
    exact holds.current
  · rw [look]
    exact holds.records
  · rw [look]
    exact holds.cursor

/-- **Halfway through the list**: it consists of what was kept and of what is to come, and the cursor is on
the last record that was kept, or unset if there is none. -/
def Halfway (s : Session) (l : OpenList) (kept rest : List Record) : Prop :=
  s.Holds l (kept ++ rest) (ListView.stepBack kept.length)

/-- On a record: the cursor is on the first of those that were to come. -/
def OnRecord (s : Session) (l : OpenList) (kept : List Record) (r : Record) (rest : List Record) : Prop :=
  s.Holds l (kept ++ r :: rest) (some kept.length)

variable {kept rest : List Record} {r : Record}

theorem OnRecord.underCursor (on : s.OnRecord l kept r rest) : s.underCursor = some r := by
  simp [Session.underCursor, on.cursor, on.records]

/-- The next move comes to the first record of those to come. -/
theorem Halfway.next (halfway : s.Halfway l kept (r :: rest)) (target : ScopedName) :
    (s.execList (.move .next target)).OnRecord l kept r rest ∧
      (s.execList (.move .next target)).outOfBounds = false := by
  obtain ⟨current, look⟩ := execList_next halfway.current target
  rw [ListView.next_halfway halfway.records halfway.cursor] at look
  refine ⟨⟨current, by rw [look]; exact halfway.records, by rw [look]⟩, ?_⟩
  rw [outOfBounds_eq (s.told_execList _), look]

/-- If none is to come, the next move leaves the list, and nothing else changes. -/
theorem Halfway.last (halfway : s.Halfway l kept []) (target : ScopedName) :
    (s.execList (.move .next target)).Halfway l kept [] ∧
      (s.execList (.move .next target)).outOfBounds = true := by
  have all : s.look.records = kept := by rw [halfway.records, List.append_nil]
  obtain ⟨current, look⟩ := execList_next halfway.current target
  rw [ListView.next_last all halfway.cursor] at look
  refine ⟨⟨current, by rw [look]; exact halfway.records, by rw [look]; exact halfway.cursor⟩, ?_⟩
  rw [outOfBounds_eq (s.told_execList _), look]

/-- The record is kept. -/
theorem OnRecord.keep (on : s.OnRecord l kept r rest) : s.Halfway l (kept ++ [r]) rest := by
  have split : kept ++ [r] ++ rest = kept ++ r :: rest := by simp
  refine ⟨?_, ?_, ?_⟩
  · rw [split]
    exact on.current
  · rw [split]
    exact on.records
  · rw [on.cursor, List.length_append, List.length_singleton]
    rfl

/-- The record is removed: its place is taken by the next one, and the cursor is right before it. -/
theorem OnRecord.remove (on : s.OnRecord l kept r rest) :
    (s.execList (.remove none)).Halfway l kept rest := by
  have hne : (l.holding (kept ++ r :: rest)).records s.host ≠ [] := by
    rw [← look_records on.current, on.records]
    simp
  obtain ⟨current, look⟩ := execList_remove on.current hne
  rw [ListView.remove_at_cursor on.records on.cursor] at current look
  rw [OpenList.holding_holding] at current
  exact ⟨current, by rw [look], by rw [look]⟩

end Session

/-! ### The loop -/

/-- **A loop over the open list.**  It may go by anything there is when it decides on a record.  What else
happens on the way, by the script or by others, is left open as long as it keeps away from the desk and from
the records of the open list. -/
structure Sweep where
  /-- what the records are stored in -/
  target : ScopedName
  /-- whether the record under the cursor is removed -/
  removes : Session → Bool
  /-- what happens before that is decided -/
  prepare : Session → Session
  /-- what happens after it -/
  proceed : Session → Session
  prepare_aside (s : Session) : s.SameOpen (prepare s)
  proceed_aside (s : Session) : s.SameOpen (proceed s)

namespace Sweep

/-- Decides on the record under the cursor. -/
def decided (w : Sweep) (s : Session) : Session :=
  w.proceed (if w.removes s then s.execList (.remove none) else s)

/-- **The loop for at most so many moves**: the records it comes to and whether it removes them, and the
session at its end; none if it is not over then. -/
def run (w : Sweep) : Nat → Session → Option (List (Option Record × Bool) × Session)
  | 0, _ => none
  | n + 1, s =>
    let moved := s.execList (.move .next w.target)
    if moved.outOfBounds then some ([], moved)
    else
      let here := w.prepare moved
      (w.run n (w.decided here)).map fun rest => ((here.underCursor, w.removes here) :: rest.1, rest.2)

/-- The records that the loop has not removed. -/
def spared (visits : List (Option Record × Bool)) : List Record :=
  visits.filterMap fun visit => if visit.2 then none else visit.1

variable {s : Session} {l : OpenList} {kept rest : List Record} {r : Record}

/-- Where there is a record to come, the loop comes to it, and then it is halfway again. -/
theorem run_step (w : Sweep) (halfway : s.Halfway l kept (r :: rest)) :
    ∃ (removed : Bool) (t : Session), t.Halfway l (kept ++ spared [(some r, removed)]) rest ∧
      ∀ n, w.run (n + 1) s = (w.run n t).map fun rest => ((some r, removed) :: rest.1, rest.2) := by
  obtain ⟨on, inside⟩ := halfway.next w.target
  let here := w.prepare (s.execList (.move .next w.target))
  have there : here.OnRecord l kept r rest := on.sameOpen (w.prepare_aside _)
  refine ⟨w.removes here, w.decided here, ?_, fun n => ?_⟩
  · unfold decided
    cases decision : w.removes here with
    | true =>
        have removed : Session.Halfway _ l kept rest := there.remove.sameOpen (w.proceed_aside _)
        simpa [spared] using removed
    | false =>
        have left : Session.Halfway _ l (kept ++ [r]) rest := there.keep.sameOpen (w.proceed_aside _)
        simpa [spared] using left
  · rw [run]
    simp only [inside, Bool.false_eq_true, if_false]
    rw [show (w.prepare (s.execList (.move .next w.target))).underCursor = some r from there.underCursor]

/-- From halfway on, the loop comes to all records that are to come, and ends one move after the last. -/
theorem run_halfway (w : Sweep) (halfway : s.Halfway l kept rest) :
    (∀ n ≤ rest.length, w.run n s = none) ∧
      ∃ visits t, w.run (rest.length + 1) s = some (visits, t) ∧ visits.map Prod.fst = rest.map some ∧
        t.Halfway l (kept ++ spared visits) [] := by
  -- on the records to come; each round takes one of them, and keeps it or not
  induction rest generalizing s kept with
  | nil =>
      obtain ⟨after, outside⟩ := halfway.last w.target
      refine ⟨fun n few => ?_, [], s.execList (.move .next w.target), ?_, rfl, ?_⟩
      · obtain rfl : n = 0 := Nat.le_zero.1 few
        rfl
      · simp [run, outside]
      · simpa [spared] using after
  | cons r rest ih =>
      obtain ⟨removed, next, step, runs⟩ := run_step w halfway
      obtain ⟨before, visits, t, ends, visited, left⟩ := ih step
      refine ⟨fun n few => ?_, (some r, removed) :: visits, t, ?_, by simp [visited], ?_⟩
      · cases n with
        | zero => rfl
        | succ n => rw [runs, before n (by simpa using few), Option.map_none]
      · rw [List.length_cons, runs, ends, Option.map_some]
      · have all : spared ((some r, removed) :: visits) = spared [(some r, removed)] ++ spared visits := by
          cases removed <;> simp [spared]
        rw [all, ← List.append_assoc]
        exact left

/-- **The loop visits every record once, in order, and leaves those that it has not removed**, in their
order, if it starts with the cursor unset.  It is over after one move more than there are records. -/
theorem run_visits_all (w : Sweep) {s : Session} {l : OpenList}
    (hopen : s.context.desk.current = some l) (unset : s.context.desk.cursor = none) :
    (∀ n ≤ (l.records s.host).length, w.run n s = none) ∧
      ∃ visits t, w.run ((l.records s.host).length + 1) s = some (visits, t) ∧
        visits.map Prod.fst = (l.records s.host).map some ∧
        t.context.desk.current = some (l.holding (spared visits)) ∧
        (l.holding (spared visits)).records t.host = spared visits := by
  have start : s.Halfway l [] (l.records s.host) :=
    ⟨by rw [List.nil_append, l.holding_records, hopen], Session.look_records hopen, unset⟩
  obtain ⟨before, visits, t, ends, visited, left⟩ := run_halfway w start
  refine ⟨before, visits, t, ends, visited, by simpa using left.current, ?_⟩
  have records := left.records
  rw [Session.look_records left.current] at records
  simpa using records

/-- An errand, and whether it is done. -/
def errand (name : String) (done : Bool) : Record :=
  .ofList [("name", .ofText name), ("done", .ofBool done)]

/-- A session with a list of errands open. -/
def errands : Session :=
  let list := [errand "tea" true, errand "milk" false, errand "cups" true]
  let start : Session := ⟨Context.ofInputs "w" {}, { catalogue := some (Catalogue.empty.put "e" list) }⟩
  (start.exec (.list (.load (.constant (.ofText "e"))))).2

/-- A loop that prints what it comes to and removes what is done. -/
def tidying : Sweep where
  target := ⟨.script, "r.", true⟩
  removes s := (s.values.read "!r.done").isTrue
  prepare s := (s.exec (.print (.named (.plain .script "r.name")))).2
  proceed s := s
  prepare_aside s := s.sameOpen_exec (by simp) (by simp)
  proceed_aside _ := ⟨rfl, fun _ _ => rfl⟩

/-- The first and the last errand are removed, each when the loop is on it. -/
theorem run_visits_all_errands :
    errands.context.desk.current = some (.supplied "e" 0) ∧ errands.context.desk.cursor = none ∧
      tidying.run 3 errands = none ∧
      ∃ t, tidying.run 4 errands = some ([(some (errand "tea" true), true),
          (some (errand "milk" false), false), (some (errand "cups" true), true)], t) ∧
        OpenList.records (.supplied "e" 0) t.host = [errand "milk" false] := by
  have hopen : errands.context.desk.current = some (.supplied "e" 0) := by decide +kernel
  have unset : errands.context.desk.cursor = none := by decide +kernel
  have three : (OpenList.records (.supplied "e" 0) errands.host).length = 3 := by decide +kernel
  obtain ⟨before, visits, t, ends, _, _, left⟩ := run_visits_all tidying hopen unset
  rw [three] at before ends
  have seen : (tidying.run 4 errands).map Prod.fst = some [(some (errand "tea" true), true),
      (some (errand "milk" false), false), (some (errand "cups" true), true)] := by decide +kernel
  rw [ends, Option.map_some, Option.some.injEq] at seen
  subst seen
  exact ⟨hopen, unset, before 3 (Nat.le_refl 3), t, ends, left⟩

end Sweep

end LineScript
