import LineScript.Proofs.Guarded
import LineScript.Proofs.ListFrame

/-!
**What becomes of the records of lists.**

The records of a list are the host's, the storage's or the invocation's own.  A statement that is neither
about lists nor opens a stored list leaves all of them alone, and it leaves the desk alone; a statement on
storage may change documents and the lock, but no stored list.  A list that is given other records has
them from then on, unless it is not there at all.

Main definitions:

* `LineScript.OpenList.holding` — the open list once it is given other records;
* `LineScript.Session.storedLists` — the lists in storage;
* `LineScript.Session.SameOpen` — desk and open list are the same in both sessions.

Main results:

* `LineScript.OpenList.records_setRecords` — a list that is given other records has them;
* `LineScript.Session.storedLists_execStorage` — **a statement on storage that opens no list changes none**;
* `LineScript.Session.exec_keepsLists` — a statement that is not about lists leaves desk and lists alone.
-/

set_option autoImplicit false

namespace LineScript

/-! ### Records -/

namespace OpenList

/-- The list once it is given other records: only one that nobody else has carries them itself. -/
def holding (l : OpenList) (records : List Record) : OpenList :=
  match l with
  | own name _ => own name records
  | shared => shared

@[simp] theorem holding_records (l : OpenList) (h : Host) : l.holding (l.records h) = l := by
  cases l <;> rfl

@[simp] theorem holding_holding (l : OpenList) (old new : List Record) :
    (l.holding old).holding new = l.holding new := by
  cases l <;> rfl

@[simp] theorem setRecords_fst (l : OpenList) (h : Host) (records : List Record) :
    (l.setRecords h records).1 = l.holding records := by
  cases l <;> rfl

/-- **A list that is given other records has them**, unless it is not there at all: then it has none before
and none after. -/
theorem records_setRecords (l : OpenList) (h : Host) (new : List Record) :
    (l.holding new).records (l.setRecords h new).2 = new ∨
      l.records h = [] ∧ (l.holding new).records (l.setRecords h new).2 = [] := by
  cases l with
  | own name old => exact .inl rfl
  | stored name =>
      simp only [holding, records, setRecords]
      cases h.storage with
      | none => exact .inr ⟨rfl, rfl⟩
      | some storage =>
          refine .inl ?_
          simp [Storage.records, Storage.setRecords]
  | supplied name number =>
      simp only [holding, records, setRecords]
      cases h.catalogue with
      | none => exact .inr ⟨rfl, rfl⟩
      | some c =>
          simp only [Option.map_some, Option.getD_some, Catalogue.records,
            Catalogue.generations_setRecords, if_true]
          by_cases inside : number < (c.generations name).length
          · exact .inl (by simp [inside])
          · have outside : (c.generations name)[number]? = none :=
              List.getElem?_eq_none (Nat.not_lt.1 inside)
            have outside' : ((c.generations name).set number new)[number]? = none :=
              List.getElem?_eq_none (by simpa using inside)
            exact .inr ⟨by simp [outside], by simp [outside']⟩

/-- Only the lists in storage and the lists of the host make a difference. -/
theorem records_congr (l : OpenList) {h g : Host}
    (stored : g.storage.map Storage.lists = h.storage.map Storage.lists)
    (catalogue : g.catalogue = h.catalogue) : l.records g = l.records h := by
  cases l with
  | own name records => rfl
  | supplied name number => simp only [records, catalogue]
  | stored name =>
      have same := congrArg (Option.map fun lists => (lists.get? name).getD []) stored
      simp only [Option.map_map] at same
      exact congrArg (·.getD []) same

end OpenList

theorem ListDesk.view_congr (d : ListDesk) {h g : Host}
    (same : ∀ l ∈ d.current, l.records g = l.records h) : d.view g = d.view h := by
  unfold view
  cases hopen : d.current with
  | none => rfl
  | some l => simp only [Option.map_some, same l hopen]

/-! ### Storage keeps its lists -/

namespace Session

/-- The lists in storage. -/
def storedLists (s : Session) : Option (KeyMap (List Record)) := s.host.storage.map Storage.lists

/-- **A statement on storage that opens no list changes none.** -/
theorem storedLists_execStorage (s : Session) {q : StorageStatement} (noFetch : ∀ o, q ≠ .list o) :
    (s.execStorage q).storedLists = s.storedLists := by
  refine execStorage_keeps (P := fun t => t.storedLists = s.storedLists) id rfl fun _ => ?_
  refine storedEffect_keeps (P := fun t => t.storedLists = s.storedLists) (by cases q <;> rfl) ?_ ?_
  · intro name st _ there
    simp only [storedLists, there]
    rfl
  · intro t u same granted
    rw [← same]
    cases granted with
    | opens there => simp only [storedLists, setStorage, there, Option.map_some]
    | closes there => simp only [storedLists, setStorage, there, Option.map_some]
    | edits there _ _ _ _ _ _ plain =>
        refine foldl_plain (P := fun u => u.storedLists = t.storedLists) plain id (fun _ => id) ?_
        simp only [storedLists, setStorage, there, Option.map_some]
    | @lists _ _ o => exact absurd rfl (noFetch o)

/-! ### Statements that are not about lists -/

/-- **A statement that is not about lists and opens none leaves the desk and all lists alone.** -/
theorem exec_keepsLists (s : Session) {st : Statement} (noList : ∀ q, st ≠ .list q)
    (noFetch : ∀ o, st ≠ .storage (.list o)) :
    (s.exec st).2.context.desk = s.context.desk ∧
      (s.exec st).2.host.catalogue = s.host.catalogue ∧
      (s.exec st).2.storedLists = s.storedLists := by
  -- desk and lists of the host make no difference before the statement, so they make none after it
  have desk := (farAside_setDesk s.context.desk).exec s noList fun o same => absurd same (noFetch o)
  have catalogue := (farAside_withCatalogue s.host.catalogue).exec s noList fun o same =>
    absurd same (noFetch o)
  refine ⟨congrArg (·.2.context.desk) desk, congrArg (·.2.host.catalogue) catalogue, ?_⟩
  by_cases about : ∃ q, st = .storage q
  · obtain ⟨q, rfl⟩ := about
    exact s.storedLists_execStorage fun o same => noFetch o (congrArg _ same)
  · have kept := s.sameStock_exec noList fun q same => about ⟨q, same⟩
    exact congrArg (Option.map Storage.lists) kept.storage

/-- The desk is the same in both sessions, and the open list has the same records. -/
structure SameOpen (s t : Session) : Prop where
  desk : t.context.desk = s.context.desk
  records : ∀ l ∈ s.context.desk.current, l.records t.host = l.records s.host

theorem SameOpen.view {s t : Session} (same : s.SameOpen t) :
    t.context.desk.view t.host = s.context.desk.view s.host := by
  rw [same.desk]
  exact s.context.desk.view_congr same.records

theorem sameOpen_exec (s : Session) {st : Statement} (noList : ∀ q, st ≠ .list q)
    (noFetch : ∀ o, st ≠ .storage (.list o)) : s.SameOpen (s.exec st).2 := by
  obtain ⟨desk, catalogue, stored⟩ := s.exec_keepsLists noList noFetch
  exact ⟨desk, fun l _ => l.records_congr stored catalogue⟩

theorem sameOpen_of_sameStock {s t : Session} (same : s.SameStock t) : s.SameOpen t where
  desk := same.desk
  records l _ := l.records_congr (congrArg (Option.map Storage.lists) same.storage) same.catalogue

end Session

end LineScript
