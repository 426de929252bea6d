import LineScript.Proofs.Atomic

/-!
**Values to records and back.**

A wildcard stands for all set values whose keys begin in one way.  `list:add` makes a record of them, with what
each key has after the beginning for the name of a field, and `list:last` stores the record under another
beginning.  Here it is shown that no value is lost or mixed up on the way.  The record is made before anything
is stored, so that it makes no difference if one beginning is also the beginning of the other.

Main definitions:

* `LineScript.Record.Collects` — **the record is made of the values that a wildcard stands for**.

Main results:

* `LineScript.ValueMap.mem_members` — what a wildcard stands for;
* `LineScript.Record.fields_ofList` — a record of fields with names of their own has just these fields;
* `LineScript.Session.collects_recordOf` — the record that is made of a wildcard;
* `LineScript.ValueMap.get?_storeAll` — what is there after a record was stored;
* `LineScript.Session.flatten_round_trip` — **values come back from a list as they were**.
-/

set_option autoImplicit false

namespace LineScript

/-! ### What a wildcard stands for -/

theorem KeyMap.append_after {stem key : String} (begins : begins stem key = true) :
    stem ++ after stem key = key := by
  obtain ⟨rest, eq⟩ := begins_iff.1 begins
  refine String.toList_inj.1 ?_
  simp [after, ← eq]

theorem KeyMap.after_append (stem rest : String) : after stem (stem ++ rest) = rest := by
  simp [after]

theorem KeyMap.begins_append (stem rest : String) : begins stem (stem ++ rest) = true := by
  simp [begins_iff]

namespace ValueMap

/-- **A wildcard stands for the set values whose keys begin so**, each under the rest of its key. -/
theorem mem_members {m : ValueMap} {stem k : String} {v : Value} :
    (k, v) ∈ m.members stem ↔ m.get? (stem ++ k) = some v ∧ v.isEmpty = false := by
  simp only [members, KeyMap.span_eq_filter, List.mem_map, List.mem_filter, Prod.mk.injEq]
  constructor
  · rintro ⟨⟨key, w⟩, ⟨⟨mem, begins⟩, set⟩, rfl, rfl⟩
    rw [KeyMap.append_after begins]
    exact ⟨KeyMap.get?_of_mem mem, by simpa using set⟩
  · rintro ⟨there, set⟩
    exact ⟨(stem ++ k, v), ⟨⟨KeyMap.mem_of_get? there, KeyMap.begins_append stem k⟩, by simp [set]⟩,
      KeyMap.after_append stem k, rfl⟩

/-- They come in the order of their keys. -/
theorem members_ordered (m : ValueMap) (stem : String) :
    (m.members stem).Pairwise fun a b => stem ++ a.1 < stem ++ b.1 := by
  simp only [members, KeyMap.span_eq_filter]
  refine List.pairwise_map.2 (List.Pairwise.imp_of_mem ?_ ((m.sorted.filter _).filter _))
  intro a b memA memB lt
  -- a key is its beginning and its rest, so that the order is the one of the map
  have beginsA := (List.mem_filter.1 (List.mem_filter.1 memA).1).2
  have beginsB := (List.mem_filter.1 (List.mem_filter.1 memB).1).2
  rwa [KeyMap.append_after beginsA, KeyMap.append_after beginsB]

theorem isSet_eq_true_iff {m : ValueMap} {key : String} :
    m.isSet key = true ↔ ∃ v, m.get? key = some v ∧ v.isEmpty = false := by
  simp [isSet, Option.any_eq_true]

end ValueMap

/-! ### Records -/

namespace Record

theorem put_of_not_mem {name : String} {fs : List (String × Value)} (fresh : name ∉ fs.map Prod.fst)
    (value : Value) : put name value fs = fs ++ [(name, value)] := by
  induction fs with
  | nil => rfl
  | cons f fs ih =>
      simp only [List.map_cons, List.mem_cons, not_or] at fresh
      rw [put, if_neg (Ne.symm fresh.1), ih fresh.2, List.cons_append]

theorem fields_foldl_insert (r : Record) (fs : List (String × Value))
    (names : ((r.fields ++ fs).map Prod.fst).Nodup) :
    (fs.foldl (fun r f => r.insert f.1 f.2) r).fields = r.fields ++ fs := by
  induction fs generalizing r with
  | nil => simp
  | cons f fs ih =>
      have fresh : f.1 ∉ r.fields.map Prod.fst := by
        intro known
        rw [List.map_append, List.nodup_append] at names
        exact names.2.2 _ known _ (by simp) rfl
      have added : (r.insert f.1 f.2).fields = r.fields ++ [f] := put_of_not_mem fresh f.2
      rw [List.foldl_cons, ih, added, List.append_assoc, List.singleton_append]
      rwa [added, List.append_assoc, List.singleton_append]

/-- **A record of fields with names of their own has just these fields**, in their order. -/
theorem fields_ofList {fs : List (String × Value)} (names : (fs.map Prod.fst).Nodup) :
    (ofList fs).fields = fs :=
  fields_foldl_insert empty fs names

/-- **The record is made of the values that a wildcard stands for**: it has one field for each set value whose
key begins so, under the rest of the key, in the order of the keys. -/
structure Collects (r : Record) (values : ValueMap) (source : ScopedName) : Prop where
  members : ∀ k v, (k, v) ∈ r.fields ↔ values.get? (source.member k) = some v ∧ v.isEmpty = false
  ordered : r.fields.Pairwise fun a b => source.member a.1 < source.member b.1
  distinct : (r.fields.map Prod.fst).Nodup
  set : ∀ f ∈ r.fields, f.2.isEmpty = false

end Record

/-! ### Storing a record -/

theorem ScopedName.member_inj {name : ScopedName} {a b : String} (same : name.member a = name.member b) :
    a = b := by
  have rest := congrArg (KeyMap.after name.key) same
  simpa only [member, KeyMap.after_append] using rest

/-- **What is there after a record was stored**: every field under its own key, and all else as it was. -/
theorem ValueMap.get?_storeAll {fields : List (String × Value)} (distinct : (fields.map Prod.fst).Nodup)
    (target : ScopedName) (m : ValueMap) :
    (∀ f ∈ fields, (fields.foldl (fun values f => values.set (target.member f.1) f.2) m).get?
      (target.member f.1) = some f.2) ∧
    ∀ key, (∀ f ∈ fields, key ≠ target.member f.1) →
      (fields.foldl (fun values f => values.set (target.member f.1) f.2) m).get? key = m.get? key := by
  induction fields generalizing m with
  | nil => exact ⟨by simp, fun _ _ => rfl⟩
  | cons f fs ih =>
      obtain ⟨fresh, distinct⟩ := List.nodup_cons.1 distinct
      obtain ⟨stored, kept⟩ := ih distinct (m.set (target.member f.1) f.2)
      simp only [List.foldl_cons, List.forall_mem_cons]
      refine ⟨⟨?_, stored⟩, ?_⟩
      · -- no later field has the same name, so that the first one stays
        rw [kept]
        · exact KeyMap.get?_insert_self ..
        · intro g mem same
          exact fresh (List.mem_map.2 ⟨g, mem, (ScopedName.member_inj same).symm⟩)
      · rintro key ⟨first, others⟩
        rw [kept key others]
        exact KeyMap.get?_insert_of_ne m first f.2

namespace Session

variable {s t : Session} {l : OpenList} {source target : ScopedName}

theorem collects_recordOf (s : Session) (wild : source.wildcard = true) :
    (s.recordOf source).Collects s.values source := by
  have ordered := s.values.members_ordered source.key
  have distinct : ((s.values.members source.key).map Prod.fst).Nodup := by
    refine List.pairwise_map.2 (ordered.imp ?_)
    intro a b lt same
    rw [same] at lt
    exact String.lt_irrefl _ lt
  have fields : (s.recordOf source).fields = s.values.members source.key := by
    rw [recordOf, if_pos wild, Record.fields_ofList distinct]
  refine ⟨fun k v => ?_, ?_, (s.recordOf source).nodup, ?_⟩
  · rw [fields]
    exact ValueMap.mem_members
  · rw [fields]
    exact ordered
  · rintro ⟨k, v⟩ mem
    rw [fields] at mem
    exact (ValueMap.mem_members.1 mem).2

/-- The record has a field just if some value that the wildcard stands for is set. -/
theorem recordOf_isEmpty_iff (wild : source.wildcard = true) :
    (s.recordOf source).isEmpty = true ↔ ∀ k, s.values.isSet (source.member k) = false := by
  have collects := s.collects_recordOf wild
  constructor
  · intro hnone k
    refine Bool.eq_false_iff.2 fun set => ?_
    obtain ⟨v, there, set⟩ := ValueMap.isSet_eq_true_iff.1 set
    have mem := (collects.members k v).2 ⟨there, set⟩
    rw [List.isEmpty_iff.1 hnone] at mem
    cases mem
  · intro unset
    refine List.isEmpty_iff.2 (List.eq_nil_iff_forall_not_mem.2 ?_)
    rintro ⟨k, v⟩ mem
    have set := ValueMap.isSet_eq_true_iff.2 ⟨v, (collects.members k v).1 mem⟩
    rw [unset k] at set
    cases set

/-! ### Adding and storing in a session -/

/-- To tell a script where it is changes no variable. -/
theorem get?_publishList (s : Session) {key : String} (own : ¬ Foreign key) :
    s.publishList.values.get? key = s.values.get? key := by
  let p : Permit := ⟨fun _ => False, (· ∈ ListView.cursorKeys), False⟩
  have told : Changes p s s.publishList := Changes.refl.publishList fun _ mem => mem
  rcases told.get?_of_not_sets fun mem => own (ListView.foreign_of_mem_cursorKeys mem) with same | ⟨reads, _⟩
  · exact same
  · exact reads.elim

/-- `list:add` with a wildcard that stands for nothing changes nothing, and warns. -/
theorem execList_add_nothing (wild : source.wildcard = true)
    (unset : ∀ k, s.values.isSet (source.member k) = false) :
    s.execList (.add source) = (s.remark (.nothingSet "list:add" source.display)).publishList := by
  have empty := (recordOf_isEmpty_iff wild).2 unset
  simp only [execList, listEffect, empty, if_true, collected, wild]

/-- `list:add` appends a record to the open list, and says nothing. -/
theorem execList_add (hopen : s.context.desk.current = some l) (there : l.There s.host)
    (wild : source.wildcard = true) (set : (s.recordOf source).isEmpty = false) :
    let rs := l.records s.host ++ [s.recordOf source]
    let t := s.execList (.add source)
    t.context.desk.current = some (l.holding rs) ∧ (l.holding rs).records t.host = rs ∧
      t.host.emitted = s.host.emitted ∧ ∀ key, ¬ Foreign key → t.values.get? key = s.values.get? key := by
  intro rs t
  have added : s.context.desk.add s.host (s.recordOf source) =
      (.ok (), { s.context.desk with current := some (l.holding rs) }, (l.setRecords s.host rs).2) := by
    simp only [ListDesk.add, ListDesk.edit, hopen, ListView.add, OpenList.setRecords_fst, rs]
  have told : t = publishList ⟨{ s.context with
      desk := { s.context.desk with current := some (l.holding rs) } }, (l.setRecords s.host rs).2⟩ := by
    simp only [t, execList, listEffect, set, collected, wild, if_true, Bool.false_eq_true, if_false, onDesk,
      added]
  rw [told]
  refine ⟨rfl, OpenList.records_setRecords_of_there there rs, ?_, fun key own => get?_publishList _ own⟩
  cases l <;> rfl

/-- `list:last` stores the last record of the open list. -/
theorem execList_last {rs : List Record} {r : Record} (hopen : s.context.desk.current = some l)
    (records : l.records s.host = rs ++ [r]) (wild : target.wildcard = true) {key : String}
    (own : ¬ Foreign key) :
    (s.execList (.move .last target)).values.get? key =
      (r.fields.foldl (fun values f => values.set (target.member f.1) f.2) s.values).get? key := by
  have found : (s.context.desk.move s.host .last).1 = .ok (some r) := by
    rw [ListDesk.move_fst hopen]
    simp [ListDesk.destination, ListView.lastIndex, ListView.stepBack, ListDesk.view, hopen, records]
  have moved : s.onDesk (fun d h => d.move h .last) =
      (.ok (some r), (s.onDesk fun d h => d.move h .last).2) := Prod.ext found rfl
  have effect : s.listEffect (.move .last target) =
      (.ok (), (s.onDesk fun d h => d.move h .last).2.storeRecord target r) :=
    congrArg (storeFound target) moved
  have told : s.execList (.move .last target) =
      ((s.onDesk fun d h => d.move h .last).2.storeRecord target r).publishList := by
    simp only [execList, effect]
  rw [told, get?_publishList _ own, storeRecord, if_pos wild]
  rfl

/-- **Values come back from a list as they were.**  If some value under the first wildcard is set,
`list:add` appends one record made of all of them.  If others leave the list alone, `list:last` then
stores under the second wildcard what was under the first, and changes no other variable.  If no value
is set, `list:add` only warns. -/
theorem flatten_round_trip (hopen : s.context.desk.current = some l) (there : l.There s.host)
    (wild : source.wildcard = true) (wild' : target.wildcard = true) (own : target.scope = .script) :
    let t := (s.exec (.list (.add source))).2
    ((∃ k, s.values.isSet (source.member k) = true) →
      ∃ r : Record, r.Collects s.values source ∧
        let rs := l.records s.host ++ [r]
        t.context.desk.current = some (l.holding rs) ∧ (l.holding rs).records t.host = rs ∧
        t.host.emitted = s.host.emitted ∧
        ∀ t' : Session, t'.context = t.context → (l.holding rs).records t'.host = rs →
          let u := (t'.exec (.list (.move .last target))).2
          (∀ k v, (k, v) ∈ r.fields → u.values.get? (target.member k) = some v) ∧
          ∀ key, ¬ Foreign key → (∀ f ∈ r.fields, key ≠ target.member f.1) →
            u.values.get? key = s.values.get? key) ∧
    ((∀ k, s.values.isSet (source.member k) = false) →
      t.context.desk = s.context.desk ∧
      t.host = s.host.emit (.broadcast
        ⟨.warning, s.context.script, "list:add: nothing is set under " ++ source.key ++ "*"⟩)) := by
  intro t
  constructor
  · rintro ⟨k, set⟩
    have filled : (s.recordOf source).isEmpty = false := by
      refine Bool.eq_false_iff.2 fun empty => ?_
      rw [(recordOf_isEmpty_iff wild).1 empty k] at set
      cases set
    obtain ⟨current, records, emitted, values⟩ := execList_add hopen there wild filled
    have collects := s.collects_recordOf wild
    refine ⟨s.recordOf source, collects, current, records, emitted, ?_⟩
    intro t' context left u
    have current' : t'.context.desk.current = t.context.desk.current := by rw [context]
    have values' : t'.values = t.values := congrArg Context.values context
    have stored : ∀ key, ¬ Foreign key → u.values.get? key = ((s.recordOf source).fields.foldl
        (fun values f => values.set (target.member f.1) f.2) t.values).get? key := by
      intro key own
      rw [← values']
      exact execList_last (current'.trans current) left wild' own
    -- the record is what it was when it was added, whatever the stored values write over
    obtain ⟨fields, kept⟩ := ValueMap.get?_storeAll collects.distinct target t.values
    constructor
    · intro k v mem
      have covers : target.Covers (target.member k) := by
        rw [ScopedName.Covers, if_pos wild']
        exact KeyMap.begins_append _ _
      rw [stored _ (covers.not_foreign own)]
      exact fields (k, v) mem
    · intro key own others
      rw [stored key own, kept key others]
      exact values key own
  · intro unset
    have told : t = (s.remark (.nothingSet "list:add" source.display)).publishList :=
      execList_add_nothing wild unset
    have message : (Remark.nothingSet "list:add" source.display).message =
        "list:add: nothing is set under " ++ source.key ++ "*" := by
      have keyword : "list:add" ++ ": nothing is set under " = "list:add: nothing is set under " := by decide
      have display : source.display = source.key ++ "*" := by rw [ScopedName.display, if_pos wild]
      rw [display, String.append_assoc, ← keyword]
      rfl
    rw [told, ← message]
    exact ⟨rfl, rfl⟩

/-- An invocation that has opened an empty list, with two values whose keys begin with `!a.`; in one of them
what follows begins with `a.` again.  A third value is there and not set. -/
def nested : Session :=
  let values := KeyMap.ofList [("!a.a.x", .ofText "in"), ("!a.x", .ofText "out"), ("!a.y", Value.empty)]
  let start : Session :=
    ⟨.ofInputs "w" { values }, { catalogue := some (Catalogue.empty.put "p" []) }⟩
  (start.exec (.list (.load (.constant (.ofText "p"))))).2

/-- The values under `!a.` are added to the list and come back under `!a.a.`, where one of them takes the place
of another one that is in the list as well. -/
theorem flatten_round_trip_nested :
    let source : ScopedName := ⟨.script, "a.", true⟩
    let target : ScopedName := ⟨.script, "a.a.", true⟩
    let t := (nested.exec (.list (.add source))).2
    let u := (t.exec (.list (.move .last target))).2
    (∃ r, (OpenList.supplied "p" 0).records t.host = [r] ∧
      r.fields = [("a.x", .ofText "in"), ("x", .ofText "out")]) ∧
      u.values.get? "!a.a.a.x" = some (.ofText "in") ∧ u.values.get? "!a.a.x" = some (.ofText "out") ∧
      u.values.get? "!a.x" = some (.ofText "out") := by
  intro source target t u
  have hopen : nested.context.desk.current = some (.supplied "p" 0) := by decide +kernel
  have reached : Along (fun _ _ => False) _ nested := .exec .start _
  have present := reached.present rfl fun _ _ never => never.elim
  have set : ∃ k, nested.values.isSet (source.member k) = true := ⟨"x", by decide +kernel⟩
  obtain ⟨r, _, _, records, _, back⟩ :=
    (@flatten_round_trip nested _ source target hopen (present.current _ hopen) rfl rfl rfl).1 set
  obtain ⟨stored, kept⟩ := back t rfl records
  have empty : (OpenList.supplied "p" 0).records nested.host = [] := by decide +kernel
  rw [empty] at records
  have fields : r.fields = [("a.x", .ofText "in"), ("x", .ofText "out")] := by
    have all : ((OpenList.supplied "p" 0).records t.host).map Record.fields =
        [[("a.x", .ofText "in"), ("x", .ofText "out")]] := by decide +kernel
    have same : [r.fields] = [[("a.x", .ofText "in"), ("x", .ofText "out")]] :=
      (congrArg (List.map Record.fields) records).symm.trans all
    exact List.head_eq_of_cons_eq same
  rw [fields] at stored kept
  have inner : target.member "a.x" = "!a.a.a.x" := by decide
  have outer : target.member "x" = "!a.a.x" := by decide
  refine ⟨⟨r, records, fields⟩, ?_, ?_, ?_⟩
  · rw [← inner]
    exact stored "a.x" _ (by simp)
  · rw [← outer]
    exact stored "x" _ (by simp)
  · have apart : ∀ f ∈ [("a.x", Value.ofText "in"), ("x", .ofText "out")], "!a.x" ≠ target.member f.1 := by
      decide
    rw [kept "!a.x" (by decide) apart]
    decide +kernel

end Session

end LineScript
