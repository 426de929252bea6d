import LineScript.Proofs.Intact
import LineScript.Proofs.Presence
import LineScript.Proofs.Sweep

/-!
**What a statement on lists leaves behind when it comes to nothing.**

A statement on lists reads its operands, works at the desk and may store a record.  If it fails, or if a move
finds no record, then the desk has at most given the open list the records that it has, and has noted that an
index was not in the list.  So nothing is lost and nothing is made: the lists, the cursor and the values of
the script are what they were.

Main definitions:

* `LineScript.Host.Unaltered` — whoever looks at the lists finds what was there before;
* `LineScript.CursorMove.Misses` — a move finds no record;
* `LineScript.ListDesk.Idle` — **nothing has happened at the desk**, but for what is noted of an index;
* `LineScript.Session.Undone` — the statement came to nothing.

Main results:

* `LineScript.ListDesk.steady_edit` — work on the open list that fails leaves the desk idle;
* `LineScript.ListDesk.idle_move` — and so does a move that finds no record;
* `LineScript.Session.listEffect_failed` — all that a statement that fails can have done;
* `LineScript.Session.listReportsError_iff` — a statement on lists reports an error just if it fails;
* `LineScript.Session.lists_atomic` — **a statement on lists that fails, or that finds no record, leaves all
  as it was**.
-/

set_option autoImplicit false

namespace LineScript

open Catalogue (AgreeOff)

/-! ### Hosts that look the same -/

/-- **Whoever looks at the lists finds what was there before**, and so does whoever looks at documents, lock,
chance and time.  Only what was emitted may differ. -/
structure Host.Unaltered (h g : Host) : Prop where
  supplied : AgreeOff (fun _ => False) h.catalogue g.catalogue
  stored : ∀ name, g.storage.map (·.records name) = h.storage.map (·.records name)
  guarded : g.guarded = h.guarded
  draws : g.draws = h.draws
  clock : g.clock = h.clock

namespace Host.Unaltered

variable {h g : Host}

theorem refl (h : Host) : h.Unaltered h := ⟨.refl _, fun _ => rfl, rfl, rfl, rfl⟩

theorem emitted (same : h.Unaltered g) (emitted : List Emission) : h.Unaltered { g with emitted } :=
  ⟨same.supplied, same.stored, same.guarded, same.draws, same.clock⟩

/-- Every list has the records that it had. -/
theorem records (same : h.Unaltered g) (l : OpenList) : l.records g = l.records h := by
  cases l with
  | own name records => rfl
  | stored name => exact congrArg (·.getD []) (same.stored name)
  | supplied name number =>
      have agree := same.supplied
      unfold OpenList.records
      generalize h.catalogue = c at agree
      generalize g.catalogue = c' at agree
      cases agree with
      | absent => rfl
      | present all => simp only [Option.map_some, Catalogue.records, all name not_false]

end Host.Unaltered

/-- To give a list the records that it has alters nothing. -/
theorem OpenList.unaltered_setRecords (l : OpenList) (h : Host) :
    h.Unaltered (l.setRecords h (l.records h)).2 := by
  have guarded := l.guarded_setRecords h (l.records h)
  cases l with
  | own name records => exact .refl h
  | stored name =>
      refine ⟨.refl _, fun other => ?_, guarded, rfl, rfl⟩
      simp only [setRecords, records]
      cases h.storage with
      | none => rfl
      | some st =>
          by_cases hat : other = name
          · simp [Storage.records, Storage.setRecords, hat]
          · simp [Storage.records, Storage.setRecords, KeyMap.get?_insert_of_ne _ hat]
  | supplied name number =>
      refine ⟨?_, fun _ => rfl, guarded, rfl, rfl⟩
      simp only [setRecords, records]
      cases h.catalogue with
      | none => exact .absent
      | some c =>
          refine .present fun other _ => ?_
          simp only [Option.map_some, Option.getD_some, Catalogue.generations_setRecords, Catalogue.records]
          split
          · rename_i hat
            subst hat
            -- where there is no list of that number, none comes to be there
            by_cases inside : number < (c.generations other).length
            · simp [List.getElem?_eq_getElem inside]
            · rw [List.set_eq_of_length_le (Nat.not_lt.1 inside)]
          · rfl

/-! ### Moves that find nothing -/

/-- **A move finds no record**: there are none at all, or the cursor is on the last one and is to go on, or it
is on the first one and is to go back, or others have removed what it was on. -/
def CursorMove.Misses (v : ListView) : CursorMove → Prop
  | first | last | random => v.records = []
  | next => v.records.length ≤ v.cursor.elim 0 (· + 1)
  | previous => v.cursor.elim (v.records = []) fun c => c = 0 ∨ v.records.length < c

theorem ListView.moveTo_fst (v : ListView) (index : Option Nat) :
    (v.moveTo index).1 = index.bind (v.records[·]?) := by
  rcases v.moveTo_cases index with ⟨c, r, rfl, hat, moved⟩ | ⟨nowhere, stayed⟩
  · simp [moved, hat]
  · rw [stayed]
    cases index with
    | none => rfl
    | some c => exact (nowhere c rfl).symm

namespace ListDesk

variable {α : Type} {d d' : ListDesk} {h h' : Host} {e : ListError}

/-- A move finds no record just if there is none where it goes to. -/
theorem misses_iff (v : ListView) (draws : Draws) (m : CursorMove) :
    m.Misses v ↔ (destination v draws m).1.bind (v.records[·]?) = none := by
  have noLast : v.records = [] ↔ v.lastIndex.bind (v.records[·]?) = none := by
    unfold ListView.lastIndex ListView.stepBack
    cases v.records <;> simp
  cases m with
  | first => simp [CursorMove.Misses, destination]
  | last => exact noLast
  | next =>
      simp only [CursorMove.Misses, destination, ListView.nextIndex]
      cases v.cursor <;> simp
  | previous =>
      simp only [CursorMove.Misses, destination, ListView.previousIndex]
      cases v.cursor with
      | none => exact noLast
      | some c =>
          cases c with
          | zero => simp [ListView.stepBack]
          | succ c =>
              simp only [ListView.stepBack, Option.elim_some, Option.bind_some, List.getElem?_eq_none_iff]
              omega
  | random =>
      simp only [CursorMove.Misses, destination]
      by_cases empty : v.records = []
      · simp [empty]
      · -- a place that is chosen by chance is one of the list
        have inside : (draws.index v.records.length).1 < v.records.length :=
          Nat.mod_lt _ (List.length_pos_iff.2 empty)
        simp [empty, List.getElem?_eq_getElem inside]

instance (v : ListView) (m : CursorMove) : Decidable (m.Misses v) :=
  decidable_of_iff _ (misses_iff v .zeros m).symm

/-- To find out that there is no record takes no chance. -/
theorem destination_of_misses {v : ListView} {m : CursorMove} (misses : m.Misses v) (draws : Draws) :
    (destination v draws m).2 = draws := by
  cases m with
  | random =>
      have empty : v.records = [] := misses
      simp [destination, empty]
  | _ => rfl

/-! ### Nothing happens at the desk -/

/-- The host once the open list is given the records that it has. -/
def rewritten (d : ListDesk) (h : Host) : Host :=
  match d.current with
  | none => h
  | some l => (l.setRecords h (l.records h)).2

theorem unaltered_rewritten (d : ListDesk) (h : Host) : h.Unaltered (d.rewritten h) := by
  unfold rewritten
  split
  · exact .refl h
  · exact OpenList.unaltered_setRecords _ h

/-- **Nothing has happened at the desk**, but for what is noted of an index: the open list may have been given
the records that it has. -/
structure Idle (d : ListDesk) (h : Host) (out : Bool) (d' : ListDesk) (h' : Host) : Prop where
  desk : d' = { d with outOfBounds := out }
  host : h' = h ∨ h' = d.rewritten h

namespace Idle

variable {out : Bool}

theorem unaltered (idle : d.Idle h out d' h') : h.Unaltered h' := by
  rcases idle.host with rfl | rfl
  · exact .refl _
  · exact d.unaltered_rewritten h

/-- If the open list is there, the host is the very same. -/
theorem host_eq (idle : d.Idle h out d' h') (there : ∀ l ∈ d.current, l.There h) : h' = h := by
  rcases idle.host with same | rfl
  · exact same
  · unfold rewritten
    split
    · rfl
    · rename_i l hopen
      rw [OpenList.setRecords_records (there l hopen)]

theorem emitted (idle : d.Idle h out d' h') : h'.emitted = h.emitted := by
  rcases idle.host with rfl | rfl
  · rfl
  · unfold rewritten
    split
    · rfl
    · rename_i l _
      cases l <;> rfl

end Idle

theorem idle_same (d : ListDesk) (h : Host) : d.Idle h d.outOfBounds d h := ⟨rfl, .inl rfl⟩

/-- Work that changes neither records nor cursor leaves the desk idle. -/
theorem edit_idle {l : OpenList} {out : Bool} {a : Except ListError α}
    {f : ListView → Except ListError α × ListView} (hopen : d.current = some l)
    (did : f (d.view h) = (a, { d.view h with outOfBounds := out })) :
    ∃ d' h', d.edit h f = (a, d', h') ∧ d.Idle h out d' h' := by
  obtain ⟨loaded, current, cursor, before⟩ := d
  obtain rfl : current = some l := hopen
  have did' : f ⟨l.records h, cursor, before⟩ = (a, ⟨l.records h, cursor, out⟩) := did
  refine ⟨_, _, by simp only [edit, did']; rfl, ?_, .inr rfl⟩
  simp

/-- The operation notes, when it fails, that its index was not in the list, or it does nothing then. -/
def Notes (noted : Bool) (f : ListView → Except ListError α × ListView) : Prop :=
  ∀ v e w, f v = (.error e, w) → w = { v with outOfBounds := v.outOfBounds || noted }

theorem notes_get (index : Int) : Notes true fun v => v.get index := by
  intro v e w failed
  rcases v.moveTo_cases index.toNat? with ⟨c, r, _, _, moved⟩ | ⟨_, stayed⟩
  · simp only [ListView.get, moved] at failed
    cases failed
  · simp only [ListView.get, stayed] at failed
    cases failed
    simp

theorem notes_remove (index : Option Int) : Notes false fun v => v.remove index := by
  intro v e w failed
  rcases v.remove_cases index with ⟨e', hnone⟩ | ⟨n, r, _, removed⟩
  · simp only [hnone] at failed
    cases failed
    simp
  · simp only [removed] at failed
    cases failed

/-- Work that cannot fail on an open list. -/
theorem notes_ok (f : ListView → ListView) : Notes false fun v => ((.ok () : Except ListError Unit), f v) := by
  intro v e w failed
  cases failed

/-- **The operation leaves the desk idle when it fails.** -/
def Steady (noted : Bool) (f : ListDesk → Host → Result α) : Prop :=
  ∀ d h e d' h', f d h = (.error e, d', h') →
    d.Idle h (d.outOfBounds || (noted && d.current.isSome)) d' h'

/-- **Work on the open list that fails leaves the desk idle.** -/
theorem steady_edit {noted : Bool} {f : ListView → Except ListError α × ListView} (notes : Notes noted f) :
    Steady noted fun d h => d.edit h f := by
  intro d h e d' h' (failed : d.edit h f = (.error e, d', h'))
  cases hopen : d.current with
  | none =>
      simp only [edit, hopen] at failed
      cases failed
      simpa using d.idle_same h
  | some l =>
      have result : (f (d.view h)).1 = .error e := by
        have same : (d.edit h f).1 = (f (d.view h)).1 := by simp only [edit, hopen, view]; rfl
        rw [← same, failed]
      have did := notes (d.view h) e _ (Prod.ext result rfl)
      obtain ⟨d₁, h₁, edited, idle⟩ := edit_idle hopen (Prod.ext result did)
      cases edited.symm.trans failed
      rwa [Option.isSome_some, Bool.and_true]

theorem steady_rearrange (f : List Record → List Record) : Steady false fun d h => d.rearrange h f :=
  steady_edit (notes_ok _)

/-- An operation that fails with nothing done at all. -/
theorem steady_of_same {f : ListDesk → Host → Result α}
    (same : ∀ d h e d' h', f d h = (.error e, d', h') → d' = d ∧ h' = h) : Steady false f := by
  intro d h e d' h' failed
  obtain ⟨rfl, rfl⟩ := same d h e d' h' failed
  simpa using d'.idle_same h'

theorem steady_select (f : List Record → List Record) : Steady false fun d h => d.select h f := by
  refine steady_of_same fun d h e d' h' failed => ?_
  unfold select at failed
  split at failed
  · cases failed
    exact ⟨rfl, rfl⟩
  · cases failed

theorem steady_load (name : String) : Steady false fun d h => d.load h name := by
  refine steady_of_same fun d h e d' h' failed => ?_
  rw [load_eq] at failed
  split at failed
  · cases failed
    exact ⟨rfl, rfl⟩
  · split at failed
    · cases failed
    · cases failed
      exact ⟨rfl, rfl⟩
    · split at failed
      · cases failed
        exact ⟨rfl, rfl⟩
      · cases failed
      · cases failed

theorem steady_move (m : CursorMove) : Steady false fun d h => d.move h m := by
  refine steady_of_same fun d h e d' h' failed => ?_
  unfold move at failed
  cases hopen : d.current with
  | none =>
      rw [hopen] at failed
      cases failed
      exact ⟨rfl, rfl⟩
  | some l =>
      simp only [hopen, edit] at failed
      cases failed

theorem steady_shuffle : Steady false fun d h => d.shuffle h := by
  refine steady_of_same fun d h e d' h' failed => ?_
  unfold shuffle at failed
  cases hopen : d.current with
  | none =>
      rw [hopen] at failed
      cases failed
      exact ⟨rfl, rfl⟩
  | some l =>
      simp only [hopen, rearrange, edit] at failed
      cases failed

theorem steady_limit (count : Int) (last : Bool) : Steady false fun d h => d.limit h count last := by
  intro d h e d' h' failed
  unfold limit at failed
  cases natural : count.toNat? with
  | none =>
      rw [natural] at failed
      cases failed
      simpa using d.idle_same h
  | some n =>
      rw [natural] at failed
      exact steady_rearrange _ d h e d' h' failed

/-- What a move comes to is what is at the place it goes to. -/
theorem move_fst {l : OpenList} (hopen : d.current = some l) (m : CursorMove) :
    (d.move h m).1 = .ok ((destination (d.view h) h.draws m).1.bind ((d.view h).records[·]?)) := by
  rw [← ListView.moveTo_fst]
  simp only [move, edit, hopen, view]
  rfl

/-- **A move that finds no record leaves the desk idle**, and notes it. -/
theorem idle_move {l : OpenList} {m : CursorMove} (hopen : d.current = some l) (misses : m.Misses (d.view h)) :
    ∃ d' h', d.move h m = (.ok none, d', h') ∧ d.Idle h true d' h' := by
  have nowhere := (misses_iff (d.view h) h.draws m).1 misses
  have stayed : (d.view h).moveTo (destination (d.view h) h.draws m).1 =
      (none, { d.view h with outOfBounds := true }) := by
    rcases (d.view h).moveTo_cases (destination (d.view h) h.draws m).1 with ⟨c, r, goes, hat, _⟩ | ⟨_, stayed⟩
    · simp [goes, hat] at nowhere
    · exact stayed
  have idle := edit_idle (f := fun v => (.ok (v.moveTo (destination (d.view h) h.draws m).1).1,
    (v.moveTo (destination (d.view h) h.draws m).1).2)) hopen (Prod.ext (by rw [stayed]) (by rw [stayed]))
  simp only [move, hopen, destination_of_misses misses h.draws]
  exact idle

/-- A move finds no record just if it misses. -/
theorem move_eq_none_iff {m : CursorMove} :
    (d.move h m).1 = .ok none ↔ d.current.isSome ∧ m.Misses (d.view h) := by
  constructor
  · intro nothing
    cases hopen : d.current with
    | none => simp [move, hopen] at nothing
    | some l =>
        rw [move_fst hopen] at nothing
        exact ⟨rfl, (misses_iff (d.view h) h.draws m).2 (Except.ok.inj nothing)⟩
  · rintro ⟨hopen, misses⟩
    obtain ⟨l, hopen⟩ := Option.isSome_iff_exists.1 hopen
    rw [move_fst hopen, (misses_iff (d.view h) h.draws m).1 misses]

end ListDesk

/-- The statement notes it when its index is not in the list. -/
def ListStatement.notes : ListStatement → Bool
  | get _ _ => true
  | _ => false

namespace Session

variable {s t u : Session} {q : ListStatement} {e : ListError} {out : Bool}

/-! ### Failures -/

/-- The session after the operands of a statement on lists were read. -/
def listReading (s : Session) : ListStatement → Session
  | .load o | .get _ o | .remove (some o) | .filter _ o | .limit o _ => s.touch o
  | .add source => s.collected source
  | .move _ _ | .remove none | .clear | .unique _ | .sort _ _ | .shuffle => s

/-- To read operands changes values only. -/
theorem listReading_eq (s : Session) (q : ListStatement) :
    s.listReading q = s.setValues (s.listReading q).values := by
  cases q with
  | remove index => cases index <;> rfl
  | add source =>
      simp only [listReading, collected]
      split <;> rfl
  | _ => rfl

theorem listReading_context (s : Session) (q : ListStatement) :
    (s.listReading q).context = { s.context with values := (s.listReading q).values } :=
  congrArg Session.context (s.listReading_eq q)

theorem listReading_host (s : Session) (q : ListStatement) : (s.listReading q).host = s.host := by
  rw [listReading_eq]
  rfl

theorem changes_listReading {p : Permit} (s : Session) (reads : ∀ key ∈ q.reads, p.reads key) :
    Changes p s (s.listReading q) := by
  have start : Changes p s s := .refl
  cases q with
  | load o => exact start.operand reads
  | get target o => exact start.operand reads
  | filter field o => exact start.operand reads
  | limit o last => exact start.operand reads
  | remove index =>
      cases index with
      | none => exact start
      | some o => exact start.operand reads
  | add source =>
      simp only [listReading, collected]
      cases wild : source.wildcard with
      | true => exact start
      | false => exact start.touchName (reads _ (by simp [ListStatement.reads, wild]))
  | _ => exact start

/-- **The statement has read its operands, and nothing has happened at the desk.** -/
def Idles (s : Session) (q : ListStatement) (out : Bool) (t : Session) : Prop :=
  ∃ d h, s.context.desk.Idle s.host out d h ∧ t = ⟨{ (s.listReading q).context with desk := d }, h⟩

theorem idles_onDesk {α : Type} {noted : Bool} {f : ListDesk → Host → ListDesk.Result α}
    (steady : ListDesk.Steady noted f) (failed : (s.listReading q).onDesk f = (.error e, t)) :
    s.Idles q (s.context.desk.outOfBounds || (noted && s.context.desk.current.isSome)) t := by
  have desk : (s.listReading q).context.desk = s.context.desk := by rw [listReading_context]
  simp only [onDesk, desk, listReading_host, Prod.mk.injEq] at failed
  obtain ⟨result, rfl⟩ := failed
  exact ⟨_, _, steady _ _ e _ _ (Prod.ext result rfl), rfl⟩

theorem storeFound_eq_error {target : ScopedName} {found : Except ListError (Option Record) × Session}
    (failed : storeFound target found = (.error e, t)) : found = (.error e, t) := by
  obtain ⟨_ | (_ | _), u⟩ := found
  · cases failed
    rfl
  · cases failed
  · cases failed

theorem ignoring_eq_error {α : Type} {did : Except ListError α × Session}
    (failed : ignoring did = (.error e, t)) : did = (.error e, t) := by
  obtain ⟨_ | _, u⟩ := did
  · cases failed
    rfl
  · cases failed

/-- **All that a statement that fails can have done**: it has read its operands, and it may have noted that its
index is not in the list. -/
theorem listEffect_failed (failed : s.listEffect q = (.error e, t)) :
    s.Idles q (s.context.desk.outOfBounds || (q.notes && s.context.desk.current.isSome)) t := by
  cases q with
  | load name => exact idles_onDesk (ListDesk.steady_load _) failed
  | get target index =>
      simp only [listEffect] at failed
      rcases got : (s.touch index).onDesk fun d h => d.get h (s.value index).number.toInt with ⟨_ | _, u⟩
      · rw [got] at failed
        cases failed
        exact idles_onDesk (ListDesk.steady_edit (ListDesk.notes_get _)) got
      · rw [got] at failed
        cases failed
  | move m target => exact idles_onDesk (ListDesk.steady_move m) (storeFound_eq_error failed)
  | add source =>
      simp only [listEffect] at failed
      split at failed
      · cases failed
      · exact idles_onDesk (ListDesk.steady_edit (ListDesk.notes_ok _)) failed
  | remove index =>
      cases index with
      | none =>
          have steady := ListDesk.steady_edit (ListDesk.notes_remove none)
          exact idles_onDesk steady (ignoring_eq_error failed)
      | some index =>
          have steady := ListDesk.steady_edit (ListDesk.notes_remove (some (s.value index).number.toInt))
          exact idles_onDesk steady (ignoring_eq_error failed)
  | clear => exact idles_onDesk (ListDesk.steady_rearrange fun _ => []) failed
  | filter field value => exact idles_onDesk (ListDesk.steady_select _) failed
  | unique field => exact idles_onDesk (ListDesk.steady_select _) failed
  | sort field descending => exact idles_onDesk (ListDesk.steady_rearrange _) failed
  | shuffle => exact idles_onDesk ListDesk.steady_shuffle failed
  | limit count last => exact idles_onDesk (ListDesk.steady_limit _ last) failed

/-! ### What is said -/

/-- From one session to the next nothing is said, or there is one warning. -/
def Mild (s t : Session) : Prop :=
  t.host.emitted = s.host.emitted ∨
    ∃ r : Remark, r.level = .warning ∧ t.host.emitted = (s.remark r).host.emitted

theorem Mild.not_reportsError (mild : s.Mild t) : ¬ s.ReportsError t := by
  unfold ReportsError
  rcases mild with same | ⟨r, warns, said⟩
  · simp [same, Emission.messagesAt]
  · simp [said, Session.remark, broadcast, emit, Host.emit, Emission.messagesAt, warns]

theorem emitted_onDesk {α : Type} (s : Session) {f : ListDesk → Host → ListDesk.Result α}
    (blind : ListDesk.Blind f) : (s.onDesk f).2.host.emitted = s.host.emitted :=
  congrArg (·.2.2.emitted) (blind s.context.desk s.host s.host.emitted)

theorem emitted_remark (emitted : t.host.emitted = s.host.emitted)
    (script : t.context.script = s.context.script) (r : Remark) :
    (t.remark r).host.emitted = (s.remark r).host.emitted := by
  simp only [Session.remark, broadcast, emit, Host.emit, emitted, script]

/-- To store what was found may bring a warning that a record has more fields than its target takes. -/
theorem mild_storeFound (target : ScopedName) (found : Except ListError (Option Record) × Session)
    (emitted : found.2.host.emitted = s.host.emitted) (script : found.2.context.script = s.context.script) :
    s.Mild (storeFound target found).2 := by
  obtain ⟨_ | (_ | r), u⟩ := found
  · exact .inl emitted
  · exact .inl emitted
  · simp only [storeFound, storeRecord]
    split
    · exact .inl emitted
    · split
      · exact .inr ⟨.wideRecord r.size target, rfl, emitted_remark emitted script _⟩
      · exact .inl emitted

/-- **A statement on lists brings one warning at most before it is told whether it failed.** -/
theorem mild_listEffect (s : Session) (q : ListStatement) : s.Mild (s.listEffect q).2 := by
  have start : (s.listReading q).host.emitted = s.host.emitted := by rw [listReading_host]
  cases q with
  | load name => exact .inl ((emitted_onDesk _ (ListDesk.blind_load _)).trans start)
  | get target index =>
      have found := emitted_onDesk (s.touch index)
        (ListDesk.blind_edit fun v => v.get (s.value index).number.toInt)
      exact mild_storeFound target (_, _) found rfl
  | move m target => exact mild_storeFound target _ (emitted_onDesk s (ListDesk.blind_move m)) rfl
  | add source =>
      simp only [listEffect]
      split
      · have script : (s.collected source).context.script = s.context.script := by
          unfold collected
          split <;> rfl
        exact .inr ⟨.nothingSet "list:add" source.display, rfl, emitted_remark start script _⟩
      · exact .inl ((emitted_onDesk _ (ListDesk.blind_edit _)).trans start)
  | remove index =>
      cases index with
      | none => exact .inl (emitted_onDesk s (ListDesk.blind_edit fun v => v.remove none))
      | some index =>
          exact .inl (emitted_onDesk (s.touch index)
            (ListDesk.blind_edit fun v => v.remove (some (s.value index).number.toInt)))
  | clear => exact .inl (emitted_onDesk s (ListDesk.blind_rearrange fun _ => []))
  | filter field value => exact .inl ((emitted_onDesk _ (ListDesk.blind_select _)).trans start)
  | unique field => exact .inl (emitted_onDesk s (ListDesk.blind_select _))
  | sort field descending => exact .inl (emitted_onDesk s (ListDesk.blind_rearrange _))
  | shuffle => exact .inl (emitted_onDesk s ListDesk.blind_shuffle)
  | limit count last => exact .inl ((emitted_onDesk _ (ListDesk.blind_limit _ last)).trans start)

/-! ### What is left -/

/-- **The statement came to nothing**: context and host are as they were, but for what is noted of an index and
what was emitted; the values are as they were, but for those that tell where the script is in the list and
for keys that were missing and have come in empty when they were read. -/
structure Undone (s : Session) (reads : List String) (t : Session) : Prop where
  context : t.context = { s.context with
    values := t.values
    desk := { s.context.desk with outOfBounds := t.context.desk.outOfBounds } }
  host : s.host.Unaltered t.host
  same : (∀ l ∈ s.context.desk.current, l.There s.host) → t.host = { s.host with emitted := t.host.emitted }
  values : ∀ key ∉ ListView.cursorKeys, t.values.get? key = s.values.get? key ∨
    key ∈ reads ∧ s.values.get? key = none ∧ t.values.get? key = some .empty
  told : t.ToldOfList

theorem Undone.remark {reads : List String} (undone : s.Undone reads t) (r : Remark) :
    s.Undone reads (t.remark r) where
  context := undone.context
  host := undone.host.emitted _
  same there := by
    have same := undone.same there
    exact congrArg (fun h : Host => { h with emitted := (t.remark r).host.emitted }) same
  values := undone.values
  told := undone.told

/-- A variable that was there keeps its value. -/
theorem Undone.variable_eq {reads : List String} (undone : s.Undone reads t) {key : String} {v : Value}
    (own : ¬ Foreign key) (there : s.values.get? key = some v) : t.values.get? key = some v := by
  have elsewhere : key ∉ ListView.cursorKeys := fun told => own (ListView.foreign_of_mem_cursorKeys told)
  rcases undone.values key elsewhere with same | ⟨_, missing, _⟩
  · exact same.trans there
  · rw [missing] at there
    cases there

/-- Where nothing has happened at the desk, the script is told where it is, and that is all. -/
theorem Idles.undone (idles : s.Idles q out t) :
    s.Undone q.reads t.publishList ∧ t.publishList.context.desk.outOfBounds = out ∧
      t.publishList.host.emitted = s.host.emitted ∧
      t.publishList.context.script = s.context.script := by
  obtain ⟨d, h, idle, rfl⟩ := idles
  have emitted := idle.emitted
  -- all that was done is to read and to tell, so that only what is read or told can have changed
  obtain rfl := idle.desk
  let p : Permit := ⟨(· ∈ q.reads), (· ∈ ListView.cursorKeys), False⟩
  have read : Changes p s (s.listReading q) := changes_listReading s fun _ mem => mem
  have idled : Changes p s
      ⟨{ (s.listReading q).context with desk := { s.context.desk with outOfBounds := out } }, h⟩ := by
    refine read.rest ?_
    simp only [visible, emitted, listReading_host]
    rfl
  have told := idled.publishList fun _ mem => mem
  refine ⟨⟨?_, idle.unaltered, fun there => ?_, fun key elsewhere => told.get?_of_not_sets elsewhere,
    told_publishList _⟩, rfl, emitted, ?_⟩
  · simp only [publishList, setValues, listReading_context]
    rfl
  · exact congrArg (fun g : Host => { g with emitted := h.emitted }) (idle.host_eq there)
  · simp only [publishList, setValues, listReading_context]

/-- **A statement on lists reports an error just if it fails.** -/
theorem listReportsError_iff :
    s.ReportsError (s.exec (.list q)).2 ↔ ∃ e, (s.listEffect q).1 = .error e := by
  have mild := s.mild_listEffect q
  change s.ReportsError (s.execList q) ↔ _
  unfold execList
  rcases effect : s.listEffect q with ⟨e | _, t⟩
  · obtain ⟨_, _, same, _⟩ := (listEffect_failed effect).undone
    simp [ReportsError, Session.remark, broadcast, emit, Host.emit, same, Emission.messagesAt, Remark.level]
  · rw [effect] at mild
    have told : s.Mild t.publishList := mild
    simp [told.not_reportsError]

/-- A move that finds no record is told to the script, and that is all. -/
theorem undone_of_misses {m : CursorMove} (hopen : s.context.desk.current.isSome) (misses : m.Misses s.look)
    (target : ScopedName) :
    s.Undone [] (s.execList (.move m target)) ∧
      (s.execList (.move m target)).context.desk.outOfBounds = true ∧
      (s.execList (.move m target)).host.emitted = s.host.emitted := by
  obtain ⟨l, hopen⟩ := Option.isSome_iff_exists.1 hopen
  obtain ⟨d, h, moved, idle⟩ := ListDesk.idle_move hopen misses
  have effect : s.listEffect (.move m target) = (.ok (), ⟨{ s.context with desk := d }, h⟩) := by
    simp only [listEffect, onDesk, moved]
    rfl
  have idles : s.Idles (.move m target) true ⟨{ s.context with desk := d }, h⟩ := ⟨d, h, idle, rfl⟩
  obtain ⟨undone, noted, emitted, _⟩ := idles.undone
  have told : s.execList (.move m target) = publishList ⟨{ s.context with desk := d }, h⟩ := by
    simp only [execList, effect]
  rw [told]
  exact ⟨undone, noted, emitted⟩

/-- **A statement on lists that fails, or that finds no record, leaves all as it was.**  On an error the
lists, the cursor, the lists loaded and all values that were there stay, and one error is broadcast; the
values under `$list.` are published again and keys that were missing may come in empty.  A move that
finds no record only notes this. -/
theorem lists_atomic (s : Session) (q : ListStatement) :
    let t := (s.exec (.list q)).2
    (s.ReportsError t →
      s.Undone q.reads t ∧ (∀ l : OpenList, l.records t.host = l.records s.host) ∧
      (∀ key v, ¬ Foreign key → s.values.get? key = some v → t.values.get? key = some v) ∧
      t.context.desk.outOfBounds =
        (s.context.desk.outOfBounds || (q.notes && s.context.desk.current.isSome)) ∧
      ∃ e, (s.listEffect q).1 = .error e ∧ t.host.emitted = s.host.emitted ++
        [.broadcast ⟨.error, s.context.script, q.keyword ++ ": " ++ e.message⟩]) ∧
    ∀ m target, q = .move m target →
      ((s.context.desk.move s.host m).1 = .ok none ↔ s.context.desk.current.isSome ∧ m.Misses s.look) ∧
      (s.context.desk.current.isSome → m.Misses s.look →
        s.Undone [] t ∧ (∀ l : OpenList, l.records t.host = l.records s.host) ∧
        t.context.desk.outOfBounds = true ∧ t.host.emitted = s.host.emitted) := by
  intro t
  constructor
  · intro reported
    obtain ⟨e, failed⟩ := listReportsError_iff.1 reported
    have effect : s.listEffect q = (.error e, (s.listEffect q).2) := Prod.ext failed rfl
    obtain ⟨undone, noted, emitted, script⟩ := (listEffect_failed effect).undone
    have said : t = (s.listEffect q).2.publishList.remark (.listFailed q.keyword e) := by
      change s.execList q = _
      unfold execList
      rw [effect]
    have all : s.Undone q.reads t := said ▸ undone.remark _
    refine ⟨all, all.host.records, fun key v own there => all.variable_eq own there, ?_, e, failed, ?_⟩
    · rw [said]
      exact noted
    · rw [said, emitted_remark emitted script]
      rfl
  · rintro m target rfl
    refine ⟨ListDesk.move_eq_none_iff, fun hopen misses => ?_⟩
    obtain ⟨undone, noted, emitted⟩ := undone_of_misses hopen misses target
    exact ⟨undone, undone.host.records, noted, emitted⟩

/-- On the second of two records, the record at 5 is wanted and then the next one.  There is neither. -/
theorem lists_atomic_second :
    let q : ListStatement := .get (.plain .script "r") (.constant (.ofText "5"))
    let t := (onSecond.exec (.list q)).2
    let u := (onSecond.exec (.list (.move .next (.plain .script "r")))).2
    (onSecond.ReportsError t ∧ onSecond.Undone [] t ∧ t.context.desk.outOfBounds = true) ∧
      CursorMove.next.Misses onSecond.look ∧ onSecond.Undone [] u ∧ u.host.emitted = onSecond.host.emitted := by
  intro q t u
  have reported : onSecond.ReportsError t := by decide +kernel
  have misses : CursorMove.next.Misses onSecond.look := by decide +kernel
  have hopen : onSecond.context.desk.current.isSome := by decide +kernel
  obtain ⟨undone, _, _, noted, _⟩ := (lists_atomic onSecond q).1 reported
  obtain ⟨unmoved, _, _, emitted⟩ := ((lists_atomic onSecond _).2 .next (.plain .script "r") rfl).2 hopen misses
  refine ⟨⟨reported, undone, ?_⟩, misses, unmoved, emitted⟩
  rw [noted, hopen]
  simp [q, ListStatement.notes]

end Session

end LineScript
