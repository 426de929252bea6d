import LineScript.Proofs.CursorState

/-!
**A selection is a copy.**

A list of the host and a list in storage are shared, and work on such a list is seen by all who have it
open.  A selection puts a list in its place that nobody else has.  From then on, until the invocation opens a
shared list again, nothing that it does reaches any list but its own.  The list that the selection was made
from is not lost: a desk never forgets which list a name was loaded as, so that loading the name once more
opens that very list.

Main definitions:

* `LineScript.Record.HasText` — the record has a field with that text, in any case;
* `LineScript.Statement.opensShared` — the statement opens a list that others may have;
* `LineScript.Session.SameLists` — all shared lists are the same in both sessions;
* `LineScript.Session.Private` — the open list is one that nobody else has;
* `LineScript.Session.LoadedAs` — the open list was opened by loading a name.

Main results:

* `LineScript.Session.loaded_exec` — a desk does not forget what it loaded;
* `LineScript.Session.private_exec` — **work on a list that nobody else has changes no other list**;
* `LineScript.Session.selection_copies` — so a selection leaves the list it was made from as it was.
-/

set_option autoImplicit false

namespace LineScript

open Catalogue (AgreeOff)

/-! ### What is selected -/

/-- The record has the field, and the text of the field is the given one in any case. -/
def Record.HasText (r : Record) (field text : String) : Prop :=
  ∃ w, r.get? field = some w ∧ Case.lowercase w.text = Case.lowercase text

theorem Record.any_sameText_iff {r : Record} {field text : String} :
    ((r.get? field).any fun w => w.sameText text) = true ↔ r.HasText field text := by
  simp [HasText, Value.sameText, Option.any_eq_true]

instance (r : Record) (field text : String) : Decidable (r.HasText field text) :=
  decidable_of_iff _ Record.any_sameText_iff

theorem ListView.matching_eq_filter (field : String) (value : Value) (records : List Record) :
    matching field value records = records.filter fun r => r.HasText field value.text := by
  refine List.filter_congr fun r _ => ?_
  rw [Bool.eq_iff_iff, Record.any_sameText_iff, decide_eq_true_iff]

/-! ### What was loaded -/

namespace ListDesk

variable {d d' : ListDesk} {h h' : Host} {name : String} {number : Nat}

/-- Nothing that happens at the desk makes it forget which list a name was loaded as. -/
theorem Acts.loaded (acts : d.Acts h d' h') (known : d.loaded.get? name = some number) :
    d'.loaded.get? name = some number := by
  cases acts with
  | nothing => exact known
  | loads other =>
      rw [load_eq]
      split
      · exact known
      · split
        · exact known
        · exact known
        · rename_i fresh _
          -- what is loaded for the first time has another name
          have different : name ≠ other := by
            rintro rfl
            simp [fresh] at known
          split
          · exact known
          · exact (KeyMap.get?_insert_of_ne _ different _).trans known
          · exact (KeyMap.get?_insert_of_ne _ different _).trans known
  | edits draws tidy =>
      unfold edit
      split <;> exact known
  | selects f =>
      unfold select
      split <;> exact known

/-- A list that is loaded is open, and the desk knows it from then on. -/
theorem load_ok (done : (d.load h name).1 = .ok ()) :
    name.isEmpty = false ∧ ∃ number, (d.load h name).2.1.current = some (.supplied name number) ∧
      (d.load h name).2.1.loaded.get? name = some number := by
  rw [load_eq] at done ⊢
  split at done
  · cases done
  · rename_i named
    refine ⟨by simpa using named, ?_⟩
    rw [if_neg named]
    split at done
    · rename_i known
      exact ⟨_, rfl, known⟩
    · cases done
    · split at done
      · cases done
      · exact ⟨0, rfl, KeyMap.get?_insert_self ..⟩
      · exact ⟨_, rfl, KeyMap.get?_insert_self ..⟩

/-- A name that was loaded before opens the same list again. -/
theorem load_again (named : name.isEmpty = false) (known : d.loaded.get? name = some number) :
    d.load h name = (.ok (), d.opening (.supplied name number), h) := by
  unfold load
  simp [named, known]

end ListDesk

/-- The statement opens a list that others may have. -/
def Statement.opensShared : Statement → Bool
  | .list (.load _) => true
  | .storage (.list _) => true
  | _ => false

namespace Session

variable {s t u : Session} {name : String} {number : Nat}

/-- **A desk does not forget which list a name was loaded as.** -/
theorem loaded_exec (st : Statement) (known : s.context.desk.loaded.get? name = some number) :
    (s.exec st).2.context.desk.loaded.get? name = some number := by
  by_cases about : ∃ q, st = .list q
  · obtain ⟨q, rfl⟩ := about
    obtain ⟨d, h, acts, desk, _, _⟩ := (s.acts_listEffect q).after (s.sameStock_execList q)
    change (s.execList q).context.desk.loaded.get? name = some number
    rw [desk]
    exact acts.loaded known
  · cases s.shifts_exec st with
    | stays loaded shared => rwa [loaded]
    | opens named _ _ =>
        obtain ⟨o, same, _⟩ := named
        exact absurd ⟨_, same⟩ about
    | fetches _ loaded _ => rwa [loaded]

/-- **The open list was opened by loading the name**: since then the invocation has left it open, and others
have left the desk to the invocation. -/
inductive LoadedAs (name : String) : Session → Prop
  | load {s : Session} {o : Operand} (named : (s.value o).text = name)
      (done : (s.listEffect (.load o)).1 = .ok ()) : LoadedAs name (s.exec (.list (.load o))).2
  | exec {s : Session} (before : LoadedAs name s) (st : Statement)
      (still : (s.exec st).2.context.desk.current = s.context.desk.current) :
      LoadedAs name (s.exec st).2
  | meanwhile {s t : Session} (before : LoadedAs name s) (desk : t.context.desk = s.context.desk) :
      LoadedAs name t

/-- Such a list is one of the host, and the desk knows it by that name. -/
theorem LoadedAs.known (opened : s.LoadedAs name) :
    name.isEmpty = false ∧ ∃ number, s.context.desk.current = some (.supplied name number) ∧
      s.context.desk.loaded.get? name = some number := by
  -- the desk knows the list from when it is opened, and does not forget it while others come and go
  induction opened with
  | @load s o named done =>
      subst named
      have desk := (s.sameStock_execList (.load o)).desk
      change _ ∧ ∃ number, (s.execList (.load o)).context.desk.current = _ ∧
        (s.execList (.load o)).context.desk.loaded.get? _ = _
      rw [desk]
      exact ListDesk.load_ok done
  | exec _ st still ih =>
      obtain ⟨named, number, current, known⟩ := ih
      exact ⟨named, number, still.trans current, loaded_exec st known⟩
  | meanwhile _ desk ih =>
      rw [desk]
      exact ih

/-! ### Shared lists -/

/-- **All shared lists are the same in both sessions**: the host has the same lists under every name, and so
has the storage. -/
structure SameLists (s t : Session) : Prop where
  supplied : AgreeOff (fun _ => False) s.host.catalogue t.host.catalogue
  stored : t.storedLists = s.storedLists

namespace SameLists

theorem refl (s : Session) : s.SameLists s := ⟨.refl _, rfl⟩

theorem trans (first : s.SameLists t) (second : t.SameLists u) : s.SameLists u :=
  ⟨first.supplied.trans second.supplied, second.stored.trans first.stored⟩

theorem of_eq (catalogue : t.host.catalogue = s.host.catalogue)
    (storage : t.host.storage = s.host.storage) : s.SameLists t where
  supplied := catalogue ▸ .refl _
  stored := congrArg (Option.map Storage.lists) storage

/-- Whoever has a list open finds the same records in it. -/
theorem records (same : s.SameLists t) (l : OpenList) : l.records t.host = l.records s.host := by
  have avoids : l.Avoids fun _ => False := by cases l <;> simp [OpenList.Avoids]
  calc l.records t.host = l.records { s.host with catalogue := t.host.catalogue } :=
        l.records_congr same.stored rfl
    _ = l.records s.host := OpenList.records_agree avoids same.supplied

theorem view (same : s.SameLists t) (d : ListDesk) : d.view t.host = d.view s.host :=
  d.view_congr fun l _ => same.records l

end SameLists

/-- Loading a name once more opens the list that the desk knows by it, and changes no list. -/
theorem load_again (o : Operand) (named : (s.value o).text.isEmpty = false)
    (known : s.context.desk.loaded.get? (s.value o).text = some number) :
    (s.listEffect (.load o)).1 = .ok () ∧
      (s.exec (.list (.load o))).2.context.desk.current =
        some (.supplied (s.value o).text number) ∧
      s.SameLists (s.exec (.list (.load o))).2 := by
  have effect : s.listEffect (.load o) = (.ok (), { s.touch o with
      context.desk := s.context.desk.opening (.supplied (s.value o).text number) }) := by
    have known' : (s.touch o).context.desk.loaded.get? (s.value o).text = some number := known
    simp only [listEffect, onDesk, ListDesk.load_again named known']
    rfl
  have told := s.sameStock_execList (.load o)
  rw [effect] at told
  refine ⟨by rw [effect], ?_, .of_eq told.catalogue told.storage⟩
  change (s.execList (.load o)).context.desk.current = _
  rw [told.desk]
  rfl

/-- The open list is one that nobody else has, if one is open. -/
def Private (s : Session) : Prop := s.context.desk.Within fun _ => False

/-- **Work on a list that nobody else has changes no other list**, and leaves it so until a shared list is
opened. -/
theorem private_exec {st : Statement} (alone : s.Private) (closed : st.opensShared = false) :
    (s.exec st).2.Private ∧ s.SameLists (s.exec st).2 := by
  have noFetch : ∀ o, st ≠ .storage (.list o) := by
    rintro o rfl
    cases closed
  by_cases about : ∃ q, st = .list q
  · obtain ⟨q, rfl⟩ := about
    have noLoad : ∀ name, s.Loading (.list q) name → False := by
      rintro name ⟨o, same, _⟩
      rw [same] at closed
      cases closed
    -- the list that is open is within no names at all, so that the statement changes lists under none
    obtain ⟨storage, agree⟩ := s.exec_spares (by simp) alone noLoad
    have within := (s.shifts_exec (.list q)).within alone (by simp) noLoad
    exact ⟨within, agree, congrArg (Option.map Storage.lists) storage⟩
  · obtain ⟨desk, catalogue, stored⟩ := s.exec_keepsLists (fun q same => about ⟨q, same⟩) noFetch
    refine ⟨?_, catalogue ▸ .refl _, stored⟩
    unfold Private
    rw [desk]
    exact alone

/-- Executes statements one after the other. -/
def execAll (s : Session) (sts : List Statement) : Session := sts.foldl (fun s st => (s.exec st).2) s

theorem loaded_execAll (sts : List Statement)
    (known : s.context.desk.loaded.get? name = some number) :
    (s.execAll sts).context.desk.loaded.get? name = some number := by
  induction sts generalizing s with
  | nil => exact known
  | cons st sts ih => exact ih (loaded_exec st known)

theorem sameLists_execAll {sts : List Statement} (alone : s.Private)
    (closed : ∀ st ∈ sts, st.opensShared = false) : s.SameLists (s.execAll sts) := by
  induction sts generalizing s with
  | nil => exact .refl s
  | cons st sts ih =>
      obtain ⟨alone', same⟩ := private_exec alone (closed st (List.mem_cons_self ..))
      exact same.trans (ih alone' fun st mem => closed st (List.mem_cons_of_mem _ mem))

/-! ### Selections -/

/-- The statement puts a copy of some of its records in the place of the open list. -/
def Selects (s : Session) (st : ListStatement) (f : List Record → List Record) : Prop :=
  ∃ u : Session, s.SameStock u ∧ s.listEffect st = u.onDesk fun d h => d.select h f

theorem selects_filter (s : Session) (field : String) (value : Operand) :
    s.Selects (.filter field value) fun records =>
      records.filter fun r => r.HasText field (s.value value).text := by
  refine ⟨s.touch value, (plain_touch value).sameStock s, ?_⟩
  simp only [← ListView.matching_eq_filter]
  rfl

theorem selects_unique (s : Session) (field : String) :
    s.Selects (.unique field) (ListView.distinct field) := ⟨s, .refl s, rfl⟩

/-- A selection opens a list that nobody else has, and leaves the others as they are. -/
theorem Selects.exec {st : ListStatement} {f : List Record → List Record} {l : OpenList}
    (selects : s.Selects st f) (hopen : s.context.desk.current = some l) :
    (s.exec (.list st)).2.context.desk.current = some (.own l.name (f (l.records s.host))) ∧
      s.SameLists (s.exec (.list st)).2 := by
  obtain ⟨u, same, effect⟩ := selects
  have told := s.sameStock_execList st
  have chosen : u.onDesk (fun d h => d.select h f) =
      (.ok (), { u with context.desk := u.context.desk.opening (.own l.name (f (l.records u.host))) }) := by
    simp only [onDesk, ListDesk.select, same.desk, hopen]
  rw [effect, chosen] at told
  have unchanged : s.SameLists u := .of_eq same.catalogue same.storage
  refine ⟨?_, unchanged.trans (.of_eq told.catalogue told.storage)⟩
  change (s.execList st).context.desk.current = _
  rw [told.desk, ← unchanged.records l]
  rfl

/-- **A selection is a copy.**  As long as the invocation opens no shared list after it, all lists of
the host, of the storage and of others stay as they were before.  Loading the same name once more opens
the list with the records it had.  A filter selects the records that have the field with that text in
any case, in order. -/
theorem selection_copies {l : OpenList} {st : ListStatement} {further : List Statement}
    (hopen : s.context.desk.current = some l)
    (selects : (∃ field value, st = .filter field value) ∨ ∃ field, st = .unique field)
    (closed : ∀ q ∈ further, q.opensShared = false) :
    let t := (s.exec (.list st)).2.execAll further
    (s.SameLists t ∧ ∀ other : ListDesk, other.view t.host = other.view s.host) ∧
      (∀ (name : String) (o : Operand), s.LoadedAs name → (t.value o).text = name →
        (t.listEffect (.load o)).1 = .ok () ∧
          (t.exec (.list (.load o))).2.context.desk.current = some l ∧
          l.records (t.exec (.list (.load o))).2.host = l.records s.host) ∧
      ∀ (field : String) (value : Operand), st = .filter field value →
        (s.exec (.list st)).2.context.desk.current =
          some (.own l.name
            ((l.records s.host).filter fun r => r.HasText field (s.value value).text)) := by
  intro t
  have copied : ∃ f, s.Selects st f := by
    rcases selects with ⟨field, value, rfl⟩ | ⟨field, rfl⟩
    · exact ⟨_, s.selects_filter field value⟩
    · exact ⟨_, s.selects_unique field⟩
  obtain ⟨f, copies⟩ := copied
  obtain ⟨current, first⟩ := copies.exec hopen
  have alone : (s.exec (.list st)).2.Private := by
    intro k there
    obtain rfl : _ = k := Option.some.inj (current.symm.trans there)
    trivial
  have same : s.SameLists t := first.trans (sameLists_execAll alone closed)
  refine ⟨⟨same, same.view⟩, fun name o opened named => ?_, ?_⟩
  · subst named
    obtain ⟨named, number, supplied, known⟩ := opened.known
    obtain rfl : _ = l := Option.some.inj (supplied.symm.trans hopen)
    have still : t.context.desk.loaded.get? (t.value o).text = some number :=
      loaded_execAll further (loaded_exec (.list st) known)
    obtain ⟨done, desk, lists⟩ := load_again o named still
    exact ⟨done, desk, (lists.records _).trans (same.records _)⟩
  · rintro field value rfl
    exact ((s.selects_filter field value).exec hopen).1

/-- An invocation whose host has a list of three records. -/
def amongThree : Session :=
  let people := ["ann", "bob", "Ann"].map fun name => Record.ofList [("name", .ofText name)]
  ⟨Context.ofInputs "w" {}, { catalogue := some (Catalogue.empty.put "p" people) }⟩

/-- The same invocation once it has loaded the list and has moved to the first record. -/
def onFirst : Session :=
  let loaded := (amongThree.exec (.list (.load (.constant (.ofText "p"))))).2
  (loaded.exec (.list (.move .first (.plain .script "r")))).2

/-- Two of the three records are selected, and the selection is cleared; loading the name brings back all
three. -/
theorem selection_copies_cleared :
    let selected := (onFirst.exec (.list (.filter "name" (.constant (.ofText "ANN"))))).2
    let t := selected.execAll [.list .shuffle, .list .clear]
    let again := (t.exec (.list (.load (.constant (.ofText "p"))))).2
    (selected.context.desk.view selected.host).records.length = 2 ∧
      (t.context.desk.view t.host).records = [] ∧
      onFirst.SameLists t ∧
      again.context.desk.current = some (.supplied "p" 0) ∧
      (OpenList.records (.supplied "p" 0) again.host).length = 3 := by
  intro selected t again
  have loaded : onFirst.LoadedAs "p" := by
    have done : (amongThree.listEffect (.load (.constant (.ofText "p")))).1 = .ok () := rfl
    exact .exec (.load rfl done) _ (by decide +kernel)
  have hopen : onFirst.context.desk.current = some (.supplied "p" 0) := by decide +kernel
  have closed : ∀ q ∈ [.list .shuffle, .list .clear], Statement.opensShared q = false := by decide
  obtain ⟨⟨same, _⟩, reload, chosen⟩ :=
    selection_copies hopen (.inl ⟨"name", .constant (.ofText "ANN"), rfl⟩) closed
  obtain ⟨_, current, records⟩ := reload "p" (.constant (.ofText "p")) loaded rfl
  refine ⟨?_, by decide +kernel, same, current, ?_⟩
  · simp only [ListDesk.view, selected, chosen _ _ rfl]
    decide +kernel
  · rw [records]
    decide +kernel

end Session

end LineScript
