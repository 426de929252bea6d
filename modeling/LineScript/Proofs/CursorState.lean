import LineScript.Proofs.Changes
import LineScript.Proofs.OpenRecords

/-!
**Where a script is told it is in the open list.**

After every statement on lists, and after one that opens a stored list, the values under `$list.` say how
many records there are, where the cursor is and whether it is on a record.  They are made from the list as
it is right then, so they agree with it whatever others did to it before.  Others can take away the record
that the cursor is on; the statements of the invocation itself never leave the cursor behind the last
record.

Main definitions:

* `LineScript.ValueMap.TellsList` — the values under `$list.` say this;
* `LineScript.ListView.Sound` — the cursor is on a record, if it is set;
* `LineScript.ListDesk.Acts` — **all that a statement on lists can do to the desk and to the lists**;
* `LineScript.Session.Along` — what becomes of an invocation with others about.

Main results:

* `LineScript.Session.acts_listEffect` — a statement on lists does one of the things listed;
* `LineScript.Session.sound_exec` — **no statement leaves the cursor behind the last record**;
* `LineScript.Session.tellsList_exec` — the values are made from the list as it is;
* `LineScript.Session.cursor_state_consistent` — so they are consistent after each such statement.
-/

set_option autoImplicit false

namespace LineScript

/-! ### What is published -/

/-- The values under `$list.` say how many records there are, what the last index is, where the cursor is,
whether it is on a record and whether the last move left the list. -/
structure ValueMap.TellsList (values : ValueMap) (count lastIndex index : Int)
    (hasItem outOfBounds : Bool) : Prop where
  count : values.get? "$list.count" = some (.ofInt count)
  lastIndex : values.get? "$list.lastIndex" = some (.ofInt lastIndex)
  index : values.get? "$list.index" = some (.ofInt index)
  hasItem : values.get? "$list.hasItem" = some (.ofBool hasItem)
  outOfBounds : values.get? "$list.outOfBounds" = some (.ofBool outOfBounds)

namespace ListView

variable {α : Type} {v : ListView}

/-- The index that is published: that of the cursor, or -1 if it is unset. -/
def publishedIndex (v : ListView) : Int := v.cursor.elim (-1) Int.ofNat

theorem tellsList_publish (v : ListView) (values : ValueMap) :
    (v.publish values).TellsList v.records.length (v.records.length - 1) v.publishedIndex v.hasItem
      v.outOfBounds := by
  unfold publish publishedIndex
  constructor
  · simp [ValueMap.set, KeyMap.get?_insert_of_ne]
  · simp [ValueMap.set, KeyMap.get?_insert_of_ne]
  · cases v.cursor <;> simp [ValueMap.set, KeyMap.get?_insert_of_ne]
  · simp [ValueMap.set, KeyMap.get?_insert_of_ne]
  · simp [ValueMap.set]

theorem publishedIndex_eq_neg_one_iff : v.publishedIndex = -1 ↔ v.cursor = none := by
  unfold publishedIndex
  cases v.cursor with
  | none => simp
  | some c =>
      simp only [Option.elim_some, Int.ofNat_eq_natCast, reduceCtorEq]

/-- A list has an item only where there is a record. -/
theorem publishedIndex_of_hasItem (item : v.hasItem = true) :
    0 ≤ v.publishedIndex ∧ v.publishedIndex ≤ v.records.length - 1 ∧ v.outOfBounds = false := by
  unfold hasItem at item
  unfold publishedIndex
  cases cursor : v.cursor with
  | none => simp [cursor] at item
  | some c =>
      simp only [cursor, Bool.and_eq_true, Bool.not_eq_true', Option.any_some, decide_eq_true_eq] at item
      simp only [Option.elim_some, Int.ofNat_eq_natCast]
      exact ⟨by omega, by omega, item.1⟩

/-! ### The cursor stays on the list -/

/-- **The cursor is on a record**, if it is set. -/
def Sound (v : ListView) : Prop := ∀ c ∈ v.cursor, c < v.records.length

theorem sound_of_unset (unset : v.cursor = none) : v.Sound := by
  intro c there
  rw [unset] at there
  cases there

theorem Sound.unset (sound : v.Sound) (empty : v.records = []) : v.cursor = none := by
  cases cursor : v.cursor with
  | none => rfl
  | some c =>
      have inside := sound c cursor
      simp [empty] at inside

/-- A cursor that is on the list is never behind the last index, and has an item unless a move failed. -/
theorem Sound.publishedIndex (sound : v.Sound) :
    v.publishedIndex ≤ v.records.length - 1 ∧
      (v.hasItem = true ↔ 0 ≤ v.publishedIndex ∧ v.outOfBounds = false) := by
  unfold ListView.publishedIndex hasItem
  cases cursor : v.cursor with
  | none =>
      refine ⟨?_, by simp⟩
      simp only [Option.elim_none]
      omega
  | some c =>
      have inside := sound c cursor
      simp only [Option.elim_some, Int.ofNat_eq_natCast, Option.any_some, inside, decide_true,
        Bool.and_true, Bool.not_eq_true']
      exact ⟨by omega, fun within => ⟨by omega, within⟩, fun within => within.2⟩

/-- The operation keeps the cursor on the list, and does not set it where there are no records. -/
structure Tidy (f : ListView → Except ListError α × ListView) : Prop where
  sound {v : ListView} (before : v.Sound) : (f v).2.Sound
  unset {v : ListView} (empty : v.records = []) (unset : v.cursor = none) : (f v).2.cursor = none

/-- A move comes to a record, or the cursor stays. -/
theorem moveTo_cases (v : ListView) (index : Option Nat) :
    (∃ c r, index = some c ∧ v.records[c]? = some r ∧
        v.moveTo index = (some r, { v with cursor := some c, outOfBounds := false })) ∨
      (∀ c, index = some c → v.records[c]? = none) ∧
        v.moveTo index = (none, { v with outOfBounds := true }) := by
  unfold moveTo
  cases index with
  | none => exact .inr ⟨by simp, rfl⟩
  | some c =>
      cases hat : v.records[c]? with
      | none => exact .inr ⟨fun _ same => Option.some.inj same ▸ hat, by simp only [hat]⟩
      | some r => exact .inl ⟨c, r, rfl, hat, by simp only [hat]⟩

theorem sound_moveTo (sound : v.Sound) (index : Option Nat) : (v.moveTo index).2.Sound := by
  rcases v.moveTo_cases index with ⟨c, r, _, hat, moved⟩ | ⟨_, stayed⟩
  · rw [moved]
    intro d there
    obtain rfl : c = d := Option.some.inj there
    exact (List.getElem?_eq_some_iff.1 hat).1
  · rw [stayed]
    exact sound

theorem unset_moveTo (empty : v.records = []) (unset : v.cursor = none) (index : Option Nat) :
    (v.moveTo index).2.cursor = none := by
  rcases v.moveTo_cases index with ⟨c, r, _, hat, _⟩ | ⟨_, stayed⟩
  · simp [empty] at hat
  · rw [stayed]
    exact unset

theorem tidy_moveTo (index : Option Nat) :
    Tidy fun v => ((.ok (v.moveTo index).1 : Except ListError _), (v.moveTo index).2) where
  sound before := sound_moveTo before index
  unset empty unset := unset_moveTo empty unset index

theorem get_snd (v : ListView) (index : Int) : (v.get index).2 = (v.moveTo index.toNat?).2 := by
  unfold get
  rcases v.moveTo index.toNat? with ⟨_ | _, w⟩ <;> rfl

theorem tidy_get (index : Int) : Tidy fun v => v.get index where
  sound {v} before := by
    rw [get_snd]
    exact sound_moveTo before _
  unset {v} empty unset := by
    rw [get_snd]
    exact unset_moveTo empty unset _

theorem tidy_add (r : Record) : Tidy fun v => ((.ok () : Except ListError Unit), v.add r) where
  sound {v} before := by
    intro c there
    have inside := before c there
    simp only [add, List.length_append, List.length_singleton]
    omega
  unset _ unset := unset

/-- A record is removed, or nothing is. -/
theorem remove_cases (v : ListView) (index : Option Int) :
    (∃ e, v.remove index = (.error e, v)) ∨
      ∃ n r, v.records[n]? = some r ∧ v.remove index =
        (.ok r, { v with records := v.records.eraseIdx n, cursor := cursorWithout v.cursor n }) := by
  unfold remove
  cases (index <|> v.cursor.map Int.ofNat : Option Int) with
  | none => exact .inl ⟨_, rfl⟩
  | some i =>
      simp only
      cases i.toNat? with
      | none => exact .inl ⟨_, rfl⟩
      | some n =>
          simp only
          cases hat : v.records[n]? with
          | none => exact .inl ⟨_, rfl⟩
          | some r => exact .inr ⟨n, r, hat, rfl⟩

theorem tidy_remove (index : Option Int) : Tidy fun v => v.remove index where
  sound {v} before := by
    rcases v.remove_cases index with ⟨e, failed⟩ | ⟨n, r, hat, removed⟩
    · simp only [failed]
      exact before
    · simp only [removed]
      have inside : n < v.records.length := (List.getElem?_eq_some_iff.1 hat).1
      intro d there
      obtain ⟨c, cursor, hat⟩ := Option.bind_eq_some_iff.1 there
      have on : c < v.records.length := before c cursor
      rw [List.length_eraseIdx_of_lt inside]
      split at hat
      · -- the cursor is on the removed record or after it, and steps back
        cases c with
        | zero => cases hat
        | succ c =>
            cases hat
            omega
      · cases hat
        omega
  unset {v} empty unset := by
    rcases v.remove_cases index with ⟨e, failed⟩ | ⟨n, r, hat, _⟩
    · simp only [failed]
      exact unset
    · simp [empty] at hat

theorem tidy_rearrange (f : List Record → List Record) :
    Tidy fun v => ((.ok () : Except ListError Unit), .ofRecords (f v.records)) where
  sound _ := sound_of_unset rfl
  unset _ _ := rfl

end ListView

/-! ### What happens at the desk -/

namespace ListDesk

variable {α : Type} {d d' : ListDesk} {h h' : Host}

/-- **All that a statement on lists can do to the desk and to the lists.** -/
inductive Acts (d : ListDesk) (h : Host) : ListDesk → Host → Prop
  | nothing : Acts d h d h
  /-- opens a list by name, or fails to -/
  | loads (name : String) : Acts d h (d.load h name).2.1 (d.load h name).2.2
  /-- works on the open list under its cursor -/
  | edits {α : Type} (draws : Draws) {f : ListView → Except ListError α × ListView}
      (tidy : ListView.Tidy f) :
      Acts d h (d.edit { h with draws } f).2.1 (d.edit { h with draws } f).2.2
  /-- replaces the open list by a copy -/
  | selects (f : List Record → List Record) : Acts d h (d.select h f).2.1 (d.select h f).2.2

theorem acts_edit (d : ListDesk) (h : Host) {f : ListView → Except ListError α × ListView}
    (tidy : ListView.Tidy f) : d.Acts h (d.edit h f).2.1 (d.edit h f).2.2 := .edits h.draws tidy

theorem acts_move (d : ListDesk) (h : Host) (m : CursorMove) :
    d.Acts h (d.move h m).2.1 (d.move h m).2.2 := by
  unfold move
  split
  · exact .nothing
  · exact .edits _ (ListView.tidy_moveTo _)

theorem acts_rearrange (d : ListDesk) (h : Host) (f : List Record → List Record) :
    d.Acts h (d.rearrange h f).2.1 (d.rearrange h f).2.2 := d.acts_edit h (ListView.tidy_rearrange f)

theorem acts_shuffle (d : ListDesk) (h : Host) : d.Acts h (d.shuffle h).2.1 (d.shuffle h).2.2 := by
  unfold shuffle
  split
  · exact .nothing
  · rename_i l _
    exact .edits _ (ListView.tidy_rearrange fun _ => (h.draws.shuffle (l.records h)).1)

theorem acts_limit (d : ListDesk) (h : Host) (count : Int) (last : Bool) :
    d.Acts h (d.limit h count last).2.1 (d.limit h count last).2.2 := by
  unfold limit
  split
  · exact .nothing
  · exact d.acts_rearrange h _

/-- Loading does nothing, or it opens a list with the cursor unset. -/
theorem load_cases (d : ListDesk) (h : Host) (name : String) :
    (d.load h name).2 = (d, h) ∨ (d.load h name).2.1.cursor = none := by
  rw [load_eq]
  split
  · exact .inl rfl
  · split
    · exact .inr rfl
    · exact .inl rfl
    · split
      · exact .inl rfl
      · exact .inr rfl
      · exact .inr rfl

/-- Work on the open list leaves the cursor on it. -/
theorem sound_edit {f : ListView → Except ListError α × ListView} (tidy : ListView.Tidy f)
    (before : (d.view h).Sound) : ((d.edit h f).2.1.view (d.edit h f).2.2).Sound := by
  obtain ⟨loaded, current, cursor, outOfBounds⟩ := d
  cases current with
  | none => exact before
  | some l =>
      let v : ListView := ⟨l.records h, cursor, outOfBounds⟩
      have sound : v.Sound := before
      have after := tidy.sound sound
      simp only [edit, view, OpenList.setRecords_fst, Option.map_some, Option.getD_some]
      rcases l.records_setRecords h (f v).2.records with same | ⟨empty, gone⟩
      · intro c there
        rw [same]
        exact after c there
      · -- a list that is not there had no records, so that the cursor was unset and is so still
        exact ListView.sound_of_unset (tidy.unset empty (sound.unset empty))

/-- **Nothing that happens at the desk leaves the cursor behind the last record.** -/
theorem Acts.sound (acts : d.Acts h d' h') (before : (d.view h).Sound) : (d'.view h').Sound := by
  cases acts with
  | nothing => exact before
  | loads name =>
      rcases d.load_cases h name with same | unset
      · rw [same]
        exact before
      · exact ListView.sound_of_unset unset
  | edits draws tidy => exact sound_edit (h := { h with draws }) tidy before
  | selects f =>
      unfold select
      split
      · exact before
      · exact ListView.sound_of_unset rfl

end ListDesk

namespace Session

/-! ### What happens in a session -/

theorem SameStock.refl (s : Session) : s.SameStock s := ⟨rfl, rfl, rfl, rfl⟩

theorem SameStock.trans {s t u : Session} (first : s.SameStock t) (second : t.SameStock u) :
    s.SameStock u :=
  ⟨second.desk.trans first.desk, second.lock.trans first.lock, second.storage.trans first.storage,
    second.catalogue.trans first.catalogue⟩

/-- Storing what was found is nothing that happens at the desk. -/
theorem sameStock_storeFound (target : ScopedName)
    (found : Except ListError (Option Record) × Session) :
    found.2.SameStock (storeFound target found).2 := by
  obtain ⟨result, t⟩ := found
  cases result with
  | error e => exact .refl t
  | ok r =>
      cases r with
      | none => exact .refl t
      | some r => exact (plain_storeRecord target r).sameStock t

/-- A statement on lists has its effect, and then the script is told where it is; a failure is remarked
on. -/
theorem execList_cases (s : Session) (st : ListStatement) :
    s.execList st = (s.listEffect st).2.publishList ∨
      ∃ r, s.execList st = (s.listEffect st).2.publishList.remark r := by
  unfold execList
  rcases s.listEffect st with ⟨e | _, t⟩
  · exact .inr ⟨_, rfl⟩
  · exact .inl rfl

theorem sameStock_execList (s : Session) (st : ListStatement) :
    (s.listEffect st).2.SameStock (s.execList st) := by
  have told : (s.listEffect st).2.SameStock (s.listEffect st).2.publishList := ⟨rfl, rfl, rfl, rfl⟩
  rcases s.execList_cases st with same | ⟨r, same⟩
  · rw [same]
    exact told
  · rw [same]
    exact told.trans ((plain_remark r).sameStock _)

/-- The second session comes from the first by what a statement on lists can do at the desk, as far as desk,
storage and lists of the host go. -/
def ActsAtDesk (s t : Session) : Prop :=
  ∃ (d : ListDesk) (h : Host), s.context.desk.Acts s.host d h ∧
    t.context.desk = d ∧ t.host.storage = h.storage ∧ t.host.catalogue = h.catalogue

theorem actsAtDesk_onDesk {α : Type} (s : Session) {f : ListDesk → Host → ListDesk.Result α}
    (acts : ∀ (d : ListDesk) (h : Host), d.Acts h (f d h).2.1 (f d h).2.2) :
    s.ActsAtDesk (s.onDesk f).2 :=
  ⟨_, _, acts s.context.desk s.host, rfl, rfl, rfl⟩

namespace ActsAtDesk

variable {s t u : Session}

theorem after (acts : s.ActsAtDesk t) (same : t.SameStock u) : s.ActsAtDesk u := by
  obtain ⟨d, h, act, desk, storage, catalogue⟩ := acts
  exact ⟨d, h, act, same.desk.trans desk, same.storage.trans storage, same.catalogue.trans catalogue⟩

theorem before (desk : u.context.desk = s.context.desk) (host : u.host = s.host)
    (acts : u.ActsAtDesk t) : s.ActsAtDesk t := by
  unfold ActsAtDesk at acts ⊢
  rwa [desk, host] at acts

theorem view (acts : s.ActsAtDesk t) :
    ∃ d h, s.context.desk.Acts s.host d h ∧ t.context.desk.view t.host = d.view h := by
  obtain ⟨d, h, act, rfl, storage, catalogue⟩ := acts
  refine ⟨_, h, act, ListDesk.view_congr _ fun l _ => l.records_congr ?_ catalogue⟩
  rw [storage]

end ActsAtDesk

/-- **A statement on lists does one of the things listed at the desk.** -/
theorem acts_listEffect (s : Session) (st : ListStatement) : s.ActsAtDesk (s.listEffect st).2 := by
  have edits : ∀ {α : Type} {f : ListView → Except ListError α × ListView} (u : Session),
      ListView.Tidy f → u.ActsAtDesk (u.onDesk fun d h => d.edit h f).2 :=
    fun u tidy => u.actsAtDesk_onDesk fun d h => d.acts_edit h tidy
  cases st with
  | load name => exact .before rfl rfl ((s.touch name).actsAtDesk_onDesk fun _ _ => .loads _)
  | get target index =>
      have got := edits (s.touch index) (ListView.tidy_get (s.value index).number.toInt)
      exact (ActsAtDesk.before rfl rfl got).after (sameStock_storeFound target (_, _))
  | move m target =>
      have moved := s.actsAtDesk_onDesk fun d h => d.acts_move h m
      exact moved.after (sameStock_storeFound target _)
  | add source =>
      have desk : (s.collected source).context.desk = s.context.desk :=
        ((plain_collected source).sameStock s).desk
      have host : (s.collected source).host = s.host := by
        unfold collected
        split <;> rfl
      simp only [listEffect]
      split
      · have told := (plain_remark (.nothingSet "list:add" source.display)).sameStock (s.collected source)
        have still : s.ActsAtDesk (s.collected source) :=
          ⟨_, _, .nothing, desk, congrArg Host.storage host, congrArg Host.catalogue host⟩
        exact still.after told
      · exact .before desk host (edits (s.collected source) (ListView.tidy_add _))
  | remove index =>
      cases index with
      | none => exact edits s (ListView.tidy_remove none)
      | some index =>
          have removed := edits (s.touch index) (ListView.tidy_remove (some (s.value index).number.toInt))
          exact .before rfl rfl removed
  | clear => exact s.actsAtDesk_onDesk fun d h => d.acts_rearrange h _
  | filter field value => exact .before rfl rfl ((s.touch value).actsAtDesk_onDesk fun _ _ => .selects _)
  | unique field => exact s.actsAtDesk_onDesk fun _ _ => .selects _
  | sort field descending => exact s.actsAtDesk_onDesk fun d h => d.acts_rearrange h _
  | shuffle => exact s.actsAtDesk_onDesk fun d h => d.acts_shuffle h
  | limit count last =>
      exact .before rfl rfl ((s.touch count).actsAtDesk_onDesk fun d h => d.acts_limit h _ last)

/-! ### Statements -/

/-- The cursor is on a record of the open list, if it is set. -/
def Sound (s : Session) : Prop := (s.context.desk.view s.host).Sound

/-- The values under `$list.` agree with the open list and its cursor. -/
def ToldOfList (s : Session) : Prop :=
  let v := s.context.desk.view s.host
  s.values.TellsList v.records.length (v.records.length - 1) v.publishedIndex v.hasItem v.outOfBounds

theorem told_publishList (s : Session) : s.publishList.ToldOfList :=
  (s.context.desk.view s.host).tellsList_publish s.values

theorem told_execList (s : Session) (st : ListStatement) : (s.execList st).ToldOfList := by
  have told := (s.listEffect st).2.told_publishList
  rcases s.execList_cases st with same | ⟨r, same⟩
  · rw [same]
    exact told
  · rw [same]
    exact told

/-- A statement that opens a stored list opens it, or it leaves desk and lists as they are. -/
theorem execStorage_list_cases (s : Session) (o : Operand) :
    (∃ (t : Session) (name : String), s.execStorage (.list o) = t.openedStored name) ∨
      (s.storedEffect (.list o)).1 ≠ .ok () ∧ s.SameStock (s.execStorage (.list o)) := by
  have remarked : ∀ r, s.SameStock ((s.touch o).remark r) := fun r =>
    ((plain_touch o).comp (plain_remark r)).sameStock s
  rcases s.storedEffect_list_cases o with ⟨e, failed⟩ | ⟨st, there, done⟩
  · refine .inr ⟨by simp [failed], ?_⟩
    unfold execStorage
    cases s.host.storage with
    | none => exact (plain_remark _).sameStock s
    | some st =>
        simp only [Option.isNone_some, Bool.false_eq_true, if_false, failed]
        exact remarked _
  · have opened := congrArg Prod.snd (exec_storage_of_some there (.list o))
    rw [done] at opened
    exact .inl ⟨_, _, opened⟩

/-- **No statement leaves the cursor behind the last record.** -/
theorem sound_exec {s : Session} (st : Statement) (before : s.Sound) : (s.exec st).2.Sound := by
  by_cases about : ∃ q, st = .list q
  · obtain ⟨q, rfl⟩ := about
    obtain ⟨d, h, acts, view⟩ := ((s.acts_listEffect q).after (s.sameStock_execList q)).view
    have after : (d.view h).Sound := acts.sound before
    unfold Sound
    change ((s.execList q).context.desk.view (s.execList q).host).Sound
    rw [view]
    exact after
  · by_cases fetching : ∃ o, st = .storage (.list o)
    · obtain ⟨o, rfl⟩ := fetching
      change (s.execStorage (.list o)).Sound
      rcases s.execStorage_list_cases o with ⟨t, name, opened⟩ | ⟨_, same⟩
      · -- a list that has just been opened has its cursor unset
        rw [opened]
        exact ListView.sound_of_unset rfl
      · unfold Sound
        rw [(sameOpen_of_sameStock same).view]
        exact before
    · have same := s.sameOpen_exec (fun q same => about ⟨q, same⟩) fun o same => fetching ⟨o, same⟩
      unfold Sound
      rw [same.view]
      exact before

/-- **After a statement that tells the script where it is, the values agree with the open list.** -/
theorem tellsList_exec {s : Session} {st : Statement} (tells : s.MovesCursor st) :
    (s.exec st).2.ToldOfList := by
  cases st with
  | list q => exact s.told_execList q
  | storage q =>
      cases q with
      | list o =>
          have succeeded : (s.storedEffect (.list o)).1 = .ok () := tells
          change (s.execStorage (.list o)).ToldOfList
          rcases s.execStorage_list_cases o with ⟨t, name, opened⟩ | ⟨failed, _⟩
          · rw [opened]
            exact told_publishList _
          · exact absurd succeeded failed
      | _ => exact tells.elim
  | _ => exact tells.elim

/-! ### An invocation with others about -/

/-- **What becomes of an invocation with others about**: it executes a statement, or others do something,
which is anything that they may do and that leaves its desk to it. -/
inductive Along (others : Session → Session → Prop) (start : Session) : Session → Prop
  | start : Along others start start
  | exec {s : Session} (before : Along others start s) (st : Statement) :
      Along others start (s.exec st).2
  | meanwhile {s t : Session} (before : Along others start s) (may : others s t)
      (desk : t.context.desk = s.context.desk) : Along others start t

/-- What others do leaves the records of the open list as they are. -/
def KeepsOpen (s t : Session) : Prop := ∀ l ∈ s.context.desk.current, l.records t.host = l.records s.host

/-- Where others leave the open list alone, the cursor stays on it. -/
theorem Along.sound {others : Session → Session → Prop} {start s : Session}
    (fresh : start.context.desk = .empty) (keep : ∀ s t, others s t → s.KeepsOpen t)
    (reached : start.Along others s) : s.Sound := by
  induction reached with
  | start =>
      unfold Sound
      rw [fresh]
      exact ListView.sound_of_unset rfl
  | exec _ st ih => exact sound_exec st ih
  | @meanwhile s t _ may desk ih =>
      have same : s.SameOpen t := ⟨desk, keep s t may⟩
      unfold Sound
      rw [same.view]
      exact ih

/-- **The state of the cursor is consistent** after every statement of an invocation on lists, and after
every one that opens a stored list, whatever others do in between.  If they leave the list alone while it is
open, the index is never behind the last one, and there is an item unless the cursor is unset or the last
move left the list.  The values are those of the numbers as 64 bits hold them. -/
theorem cursor_state_consistent {others : Session → Session → Prop} {start s : Session} {st : Statement}
    (fresh : start.context.desk = .empty) (reached : start.Along others s)
    (tells : s.MovesCursor st) :
    ∃ (count lastIndex index : Int) (hasItem outOfBounds : Bool),
      (s.exec st).2.values.TellsList count lastIndex index hasItem outOfBounds ∧
      (∀ l, (s.exec st).2.context.desk.current = some l →
        count = (l.records (s.exec st).2.host).length) ∧
      ((s.exec st).2.context.desk.current = none → count = 0) ∧
      lastIndex = count - 1 ∧
      (index = -1 ↔ (s.exec st).2.context.desk.cursor = none) ∧
      (hasItem = true → 0 ≤ index ∧ index ≤ lastIndex ∧ outOfBounds = false) ∧
      ((∀ s t, others s t → s.KeepsOpen t) →
        index ≤ lastIndex ∧ (hasItem = true ↔ 0 ≤ index ∧ outOfBounds = false)) := by
  let t := (s.exec st).2
  let v := t.context.desk.view t.host
  have told : t.ToldOfList := tellsList_exec tells
  refine ⟨v.records.length, v.records.length - 1, v.publishedIndex, v.hasItem, v.outOfBounds, told,
    fun l hopen => ?_, fun closed => ?_, rfl, ListView.publishedIndex_eq_neg_one_iff,
    ListView.publishedIndex_of_hasItem, fun keep => ?_⟩
  · simp [v, t, ListDesk.view, hopen]
  · simp [v, t, ListDesk.view, closed]
  · have sound : t.Sound := sound_exec st (reached.sound fresh keep)
    exact sound.publishedIndex

/-- An invocation that has opened a list of two records and is on the second one. -/
def onSecond : Session :=
  let people := [Record.ofList [("name", .ofText "ann")], Record.ofList [("name", .ofText "bob")]]
  let start : Session :=
    ⟨Context.ofInputs "w" {}, { catalogue := some ((Catalogue.empty.put "p" people).put "q" []) }⟩
  let loaded := (start.exec (.list (.load (.constant (.ofText "p"))))).2
  (loaded.exec (.list (.move .last (.plain .script "r")))).2

/-- The same invocation after others have put another list in the place of `q`. -/
def onSecondStill : Session :=
  { onSecond with host.catalogue := onSecond.host.catalogue.map fun c => c.put "q" [.empty] }

/-- The record under the cursor is removed, which leaves one record, and the cursor on it. -/
theorem cursor_state_consistent_removing :
    (onSecondStill.exec (.list (.remove none))).2.context.desk.current = some (.supplied "p" 0) ∧
      ∃ (index : Int) (hasItem outOfBounds : Bool),
        (onSecondStill.exec (.list (.remove none))).2.values.TellsList 1 0 index hasItem outOfBounds ∧
        index ≤ 0 ∧ (hasItem = true ↔ 0 ≤ index ∧ outOfBounds = false) := by
  have keeps : onSecond.KeepsOpen onSecondStill := by
    intro l hopen
    have same : onSecond.context.desk.current = some (.supplied "p" 0) := by decide +kernel
    obtain rfl : .supplied "p" 0 = l := Option.some.inj (same.symm.trans hopen)
    decide +kernel
  have reached : Along KeepsOpen _ onSecondStill :=
    .meanwhile (.exec (.exec .start _) _) keeps rfl
  obtain ⟨count, lastIndex, index, hasItem, outOfBounds, told, counts, _, last, _, _, alone⟩ :=
    @cursor_state_consistent KeepsOpen _ _ (.list (.remove none)) rfl reached trivial
  have hopen : (onSecondStill.exec (.list (.remove none))).2.context.desk.current =
      some (.supplied "p" 0) := by decide +kernel
  have one : (OpenList.records (.supplied "p" 0)
      (onSecondStill.exec (.list (.remove none))).2.host).length = 1 := by decide +kernel
  obtain rfl : count = 1 := by rw [counts _ hopen, one]; rfl
  obtain rfl : lastIndex = 0 := by omega
  obtain ⟨within, item⟩ := alone fun _ _ keep => keep
  exact ⟨hopen, index, hasItem, outOfBounds, told, within, item⟩

end Session

end LineScript
