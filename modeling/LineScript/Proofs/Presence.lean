import LineScript.Proofs.CursorState

/-!
**The lists that a desk refers to are there.**

A desk refers to the lists of the host by name and number, and to lists in storage by name.  What is done to a
list that is not there is lost: it has no records and takes none.  Here it is shown that this does not
happen.  No statement takes a list away, and a list that is opened is there.  So an invocation that starts
with an empty desk has the list that it has open, as long as others take none away either.

Main definitions:

* `LineScript.OpenList.There` — **the list is there**;
* `LineScript.Host.Keeps` — no list that was there has gone;
* `LineScript.ListDesk.Present` — all lists that the desk refers to are there.

Main results:

* `LineScript.OpenList.records_setRecords_of_there` — a list that is there takes the records it is given;
* `LineScript.OpenList.setRecords_records` — and stays as it is when these are the records that it has;
* `LineScript.Session.present_exec` — **no statement leaves a desk with a list that is not there**;
* `LineScript.Session.Along.present` — so an invocation always has its lists.
-/

set_option autoImplicit false

namespace LineScript

/-! ### Lists that are there -/

namespace OpenList

variable {l : OpenList} {h g : Host}

/-- **The list is there**: one of the host is in its catalogue, and one in storage is in storage. -/
def There (l : OpenList) (h : Host) : Prop :=
  match l with
  | supplied name number => ∃ c, h.catalogue = some c ∧ number < (c.generations name).length
  | stored name => ∃ st, h.storage = some st ∧ st.lists.contains name = true
  | own _ _ => True

/-- Only the lists in storage and the lists of the host make a difference. -/
theorem There.congr (there : l.There h)
    (stored : g.storage.map Storage.lists = h.storage.map Storage.lists)
    (catalogue : g.catalogue = h.catalogue) : l.There g := by
  cases l with
  | own name records => trivial
  | supplied name number =>
      obtain ⟨c, found, inside⟩ := there
      exact ⟨c, catalogue.trans found, inside⟩
  | stored name =>
      obtain ⟨st, found, inside⟩ := there
      rw [found] at stored
      obtain ⟨st', found', same⟩ := Option.map_eq_some_iff.1 stored
      exact ⟨st', found', same ▸ inside⟩

theorem There.holding (there : l.There h) (records : List Record) : (l.holding records).There h := by
  cases l <;> exact there

/-- **A list that is there takes the records that it is given.** -/
theorem records_setRecords_of_there (there : l.There h) (new : List Record) :
    (l.holding new).records (l.setRecords h new).2 = new := by
  cases l with
  | own name old => rfl
  | stored name =>
      obtain ⟨st, found, _⟩ := there
      simp [holding, records, setRecords, found, Storage.records, Storage.setRecords]
  | supplied name number =>
      obtain ⟨c, found, inside⟩ := there
      simp [holding, records, setRecords, found, Catalogue.records, Catalogue.generations_setRecords, inside]

/-- **A list that is there stays as it is when it is given the records that it has.** -/
theorem setRecords_records (there : l.There h) : l.setRecords h (l.records h) = (l, h) := by
  obtain ⟨storage, catalogue, draws, clock, emitted⟩ := h
  cases l with
  | own name old => rfl
  | stored name =>
      obtain ⟨st, rfl, inside⟩ := there
      obtain ⟨rs, found⟩ := Option.isSome_iff_exists.1 inside
      have same : st.lists.insert name ((st.lists.get? name).getD []) = st.lists := by
        rw [found]
        exact KeyMap.insert_of_get? found
      simp [setRecords, records, Storage.records, Storage.setRecords, same]
  | supplied name number =>
      obtain ⟨c, rfl, inside⟩ := there
      -- a name without lists has none under that number
      have found : c.lists.get? name = some (c.generations name) := by
        unfold Catalogue.generations at inside ⊢
        cases got : c.lists.get? name with
        | none => simp [got] at inside
        | some generations => rfl
      have same : (c.generations name).set number (((c.generations name)[number]?).getD []) =
          c.generations name := by
        simp [List.getElem?_eq_getElem inside]
      simp [setRecords, records, Catalogue.records, Catalogue.setRecords, same, KeyMap.insert_of_get? found]

end OpenList

/-! ### No list goes away -/

/-- **No list that was there has gone.** -/
def Host.Keeps (h g : Host) : Prop := ∀ l : OpenList, l.There h → l.There g

namespace Host.Keeps

variable {h g : Host}

theorem refl (h : Host) : h.Keeps h := fun _ there => there

theorem of_eq (stored : g.storage.map Storage.lists = h.storage.map Storage.lists)
    (catalogue : g.catalogue = h.catalogue) : h.Keeps g := fun _ there => there.congr stored catalogue

/-- To give a list records takes no list away. -/
theorem setRecords (l : OpenList) (h : Host) (records : List Record) :
    h.Keeps (l.setRecords h records).2 := by
  intro k there
  cases l with
  | own name old => exact there
  | stored name =>
      cases k with
      | own _ _ => trivial
      | supplied _ _ => exact there
      | stored other =>
          obtain ⟨st, found, inside⟩ := there
          exact ⟨st.setRecords name records, by simp [OpenList.setRecords, found],
            KeyMap.contains_insert inside⟩
  | supplied name number =>
      cases k with
      | own _ _ => trivial
      | stored _ => exact there
      | supplied other n =>
          obtain ⟨c, found, inside⟩ := there
          refine ⟨c.setRecords name number records, by simp [OpenList.setRecords, found], ?_⟩
          rw [Catalogue.generations_setRecords]
          split
          · rename_i hat
            simpa [hat] using inside
          · exact inside

/-- Nor does a new list. -/
theorem put {c : Catalogue} (found : h.catalogue = some c) (name : String) (records : List Record) :
    h.Keeps { h with catalogue := some (c.put name records) } := by
  intro k there
  cases k with
  | own _ _ => trivial
  | stored _ => exact there
  | supplied other n =>
      obtain ⟨c', found', inside⟩ := there
      obtain rfl : c = c' := Option.some.inj (found.symm.trans found')
      refine ⟨_, rfl, ?_⟩
      rw [Catalogue.generations_put]
      split
      · rename_i hat
        subst hat
        simp only [List.length_append]
        omega
      · exact inside

end Host.Keeps

/-! ### Desks -/

namespace ListDesk

variable {d d' : ListDesk} {h h' g : Host}

/-- **All lists that the desk refers to are there**: the open one and those that were loaded. -/
structure Present (d : ListDesk) (h : Host) : Prop where
  current : ∀ l ∈ d.current, l.There h
  loaded : ∀ name number, d.loaded.get? name = some number → (OpenList.supplied name number).There h

theorem Present.keeps (present : d.Present h) (keeps : h.Keeps g) : d.Present g where
  current l hopen := keeps l (present.current l hopen)
  loaded name number known := keeps _ (present.loaded name number known)

/-- A list that is there may be opened. -/
theorem Present.opening {l : OpenList} (present : d.Present h) (there : l.There h) :
    (d.opening l).Present h where
  current k hopen := by
    obtain rfl : l = k := Option.some.inj hopen
    exact there
  loaded := present.loaded

/-- A list of the host that is there may count as loaded. -/
theorem Present.load {name : String} {number : Nat} (present : d.Present h)
    (there : (OpenList.supplied name number).There h) :
    ({ d with loaded := d.loaded.insert name number }.opening (.supplied name number)).Present h where
  current k hopen := by
    obtain rfl : OpenList.supplied name number = k := Option.some.inj hopen
    exact there
  loaded other n known := by
    by_cases hat : other = name
    · have same : (d.loaded.insert name number).get? other = some n := known
      rw [hat, KeyMap.get?_insert_self] at same
      obtain rfl := Option.some.inj same
      exact hat ▸ there
    · exact present.loaded other n ((KeyMap.get?_insert_of_ne _ hat _).symm.trans known)

/-- **Nothing that happens at a desk leaves it with a list that is not there**, and no list goes away. -/
theorem Acts.present (acts : d.Acts h d' h') (before : d.Present h) : d'.Present h' ∧ h.Keeps h' := by
  cases acts with
  | nothing => exact ⟨before, .refl h⟩
  | loads name =>
      rw [load_eq]
      split
      · exact ⟨before, .refl h⟩
      · split
        · rename_i known
          exact ⟨before.opening (before.loaded name _ known), .refl h⟩
        · exact ⟨before, .refl h⟩
        · rename_i c _ found
          split
          · exact ⟨before, .refl h⟩
          · -- the list is made now
            have keeps := Host.Keeps.put found name []
            exact ⟨(before.keeps keeps).load ⟨_, rfl, by simp [Catalogue.generations_put]⟩, keeps⟩
          · -- the list is the last one of its name
            rename_i number latest
            have inside : number < (c.generations name).length := by
              unfold Catalogue.latest? at latest
              split at latest
              · cases latest
              · cases latest
                omega
            have keeps : h.Keeps { h with catalogue := some c } := .of_eq rfl found.symm
            exact ⟨(before.keeps keeps).load ⟨c, rfl, inside⟩, keeps⟩
  | edits draws tidy =>
      unfold edit
      cases hopen : d.current with
      | none => exact ⟨before.keeps (.of_eq rfl rfl), .of_eq rfl rfl⟩
      | some l =>
          have keeps := fun records => Host.Keeps.setRecords l { h with draws } records
          refine ⟨⟨fun k there => ?_, fun name number known => ?_⟩, fun k there => ?_⟩
          · simp only [OpenList.setRecords_fst] at there
            obtain rfl := Option.some.inj there
            exact keeps _ _ (((before.current l hopen).congr rfl rfl).holding _)
          · exact keeps _ _ ((before.loaded name number known).congr rfl rfl)
          · exact keeps _ _ (there.congr rfl rfl)
  | selects f =>
      unfold select
      split
      · exact ⟨before, .refl h⟩
      · exact ⟨before.opening trivial, .refl h⟩

end ListDesk

/-! ### Sessions -/

namespace Session

variable {s t : Session}

/-- All lists that the desk refers to are there. -/
def Present (s : Session) : Prop := s.context.desk.Present s.host

/-- To open a stored list opens one that is there, or it leaves the desk alone. -/
theorem present_fetch (o : Operand) (before : s.Present) : (s.execStorage (.list o)).Present := by
  refine execStorage_keeps (P := Present) (fun there => there.keeps (.of_eq rfl rfl)) before fun _ => ?_
  rcases s.storedEffect_list_cases o with ⟨e, failed⟩ | ⟨st, found, done⟩
  · rw [failed]
    exact before.keeps (.of_eq rfl rfl)
  · rw [done]
    -- the list is there afterwards, and none has gone
    have fetched : KeyMap.contains (if st.lists.contains (s.value o).text = true then st.lists
        else st.lists.insert (s.value o).text []) (s.value o).text = true := by
      split
      · assumption
      · simp [KeyMap.contains]
    have others : ∀ name, st.lists.contains name = true →
        KeyMap.contains (if st.lists.contains (s.value o).text = true then st.lists
          else st.lists.insert (s.value o).text []) name = true := by
      intro name inside
      split
      · exact inside
      · exact KeyMap.contains_insert inside
    refine ListDesk.Present.opening (before.keeps ?_) ⟨_, rfl, fetched⟩
    intro l there
    cases l with
    | own _ _ => trivial
    | supplied _ _ => exact there
    | stored name =>
        obtain ⟨old, found', inside⟩ := there
        obtain rfl : st = old := Option.some.inj (found.symm.trans found')
        exact ⟨_, rfl, others name inside⟩

/-- **No statement leaves a desk with a list that is not there.** -/
theorem present_exec (st : Statement) (before : s.Present) : (s.exec st).2.Present := by
  by_cases about : ∃ q, st = .list q
  · obtain ⟨q, rfl⟩ := about
    obtain ⟨d, h, acts, desk, storage, catalogue⟩ := (s.acts_listEffect q).after (s.sameStock_execList q)
    have after := (acts.present before).1
    change (s.execList q).context.desk.Present (s.execList q).host
    rw [desk]
    exact after.keeps (.of_eq (congrArg (Option.map Storage.lists) storage) catalogue)
  · by_cases fetching : ∃ o, st = .storage (.list o)
    · obtain ⟨o, rfl⟩ := fetching
      exact present_fetch o before
    · obtain ⟨desk, catalogue, stored⟩ :=
        s.exec_keepsLists (fun q same => about ⟨q, same⟩) fun o same => fetching ⟨o, same⟩
      unfold Present
      rw [desk]
      exact before.keeps (.of_eq stored catalogue)

/-- **An invocation that starts with an empty desk always has the lists that it refers to**, as long as others
take none away. -/
theorem Along.present {others : Session → Session → Prop} {start : Session}
    (fresh : start.context.desk = .empty) (keep : ∀ s t, others s t → s.host.Keeps t.host)
    (reached : start.Along others s) : s.Present := by
  induction reached with
  | start =>
      unfold Present
      rw [fresh]
      exact ⟨by simp [ListDesk.empty], by simp [ListDesk.empty, KeyMap.empty, KeyMap.get?]⟩
  | exec _ st ih => exact present_exec st ih
  | @meanwhile s t _ may desk ih =>
      unfold Present
      rw [desk]
      exact ListDesk.Present.keeps ih (keep s t may)

end Session

end LineScript
