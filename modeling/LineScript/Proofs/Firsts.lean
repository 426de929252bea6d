import LineScript.Proofs.Copies
import LineScript.Proofs.ExactFolds
import LineScript.Proofs.OwnVariables
import LineScript.Proofs.StableSort

/-!
**The first record of each text.**

`list:unique` goes through the records of the open list with a set of the texts that it has seen, and keeps a
record if its text is a new one.  Texts are compared in lower case, and a missing field counts as an empty one.
What is kept is said here without the set: the records at the indices whose text differs from the text of
every earlier record.  Since a filter by the same field looks at nothing but that text, it makes no difference
whether it comes before or after, unless it asks for the empty text, which a missing field is not.

Main definitions:

* `LineScript.ListView.FirstAfter`, `LineScript.ListView.IsFirst` — the text of a record is a new one;
* `LineScript.ListView.KeepsFirsts` — **what is kept are the first records of their texts**;
* `LineScript.Session.uniquing`, `LineScript.Session.filtering` — the session after `list:unique` and after
  `list:filter`.

Main results:

* `LineScript.ListView.distinctFrom_chosen` — what the scan keeps, by index;
* `LineScript.ListView.distinct_matching` — a selection by text comes before or after;
* `LineScript.Session.unique_keeps_firsts` — **what `list:unique` makes of the open list**.
-/

set_option autoImplicit false

namespace LineScript

/-! ### What is kept -/

namespace ListView

variable {field : String} {seen seen' : List String} {records rs : List Record} {r : Record} {i : Nat}

/-- There is a record at the index, and its text is neither among those seen nor that of an earlier record. -/
def FirstAfter (field : String) (seen : List String) (records : List Record) (i : Nat) : Prop :=
  ∃ r, records[i]? = some r ∧ tag field r ∉ seen ∧ ∀ q ∈ records.take i, tag field q ≠ tag field r

/-- There is a record at the index, and **its text differs from that of every earlier record**. -/
def IsFirst (field : String) (records : List Record) (i : Nat) : Prop :=
  ∃ r, records[i]? = some r ∧ ∀ q ∈ records.take i, tag field q ≠ tag field r

theorem firstAfter_nil : FirstAfter field [] records i ↔ IsFirst field records i := by
  simp [FirstAfter, IsFirst]

theorem firstAfter_zero : FirstAfter field seen (r :: rs) 0 ↔ tag field r ∉ seen := by
  simp [FirstAfter]

/-- From the second record on, the text of the first one has been seen too. -/
theorem firstAfter_succ :
    FirstAfter field seen (r :: rs) (i + 1) ↔ FirstAfter field (tag field r :: seen) rs i := by
  simp only [FirstAfter, List.getElem?_cons_succ, List.take_succ_cons, List.forall_mem_cons]
  simp only [List.mem_cons, not_or]
  constructor
  · rintro ⟨q, hat, new, other, others⟩
    exact ⟨q, hat, ⟨Ne.symm other, new⟩, others⟩
  · rintro ⟨q, hat, ⟨other, new⟩, others⟩
    exact ⟨q, hat, new, Ne.symm other, others⟩

theorem firstAfter_cons_of_mem (known : tag field r ∈ seen) :
    FirstAfter field (tag field r :: seen) rs i ↔ FirstAfter field seen rs i := by
  have same : ∀ text, text ∉ tag field r :: seen ↔ text ∉ seen := by
    intro text
    rw [List.mem_cons, or_iff_right_of_imp]
    rintro rfl
    exact known
  simp only [FirstAfter, same]

/-- **What the scan keeps are the records at the indices whose text is new there**, in their order. -/
theorem distinctFrom_chosen (field : String) (seen : List String) (records : List Record) :
    ∃ indices : List Nat, indices.Pairwise (· < ·) ∧
      (∀ i, i ∈ indices ↔ FirstAfter field seen records i) ∧
      (distinctFrom field seen records).map some = indices.map (records[·]?) := by
  induction records generalizing seen with
  | nil => exact ⟨[], .nil, by simp [FirstAfter], rfl⟩
  | cons r rs ih =>
      by_cases known : tag field r ∈ seen
      · obtain ⟨indices, increasing, chosen, kept⟩ := ih seen
        refine ⟨indices.map (· + 1), ?_, fun i => ?_, ?_⟩
        · exact List.pairwise_map.2 (increasing.imp (Nat.succ_lt_succ ·))
        · cases i with
          | zero => simp [firstAfter_zero, known]
          | succ i => simp [firstAfter_succ, firstAfter_cons_of_mem known, chosen]
        · simp [distinctFrom, known, kept]
      · obtain ⟨indices, increasing, chosen, kept⟩ := ih (tag field r :: seen)
        refine ⟨0 :: indices.map (· + 1), ?_, fun i => ?_, ?_⟩
        · refine List.pairwise_cons.2 ⟨by simp, ?_⟩
          exact List.pairwise_map.2 (increasing.imp (Nat.succ_lt_succ ·))
        · cases i with
          | zero => simp [firstAfter_zero, known]
          | succ i => simp [firstAfter_succ, chosen]
        · simp [distinctFrom, known, kept]

/-- A text that is new to the scan is first met at some index, and that is not after any record with it. -/
theorem exists_firstAfter (hat : records[i]? = some r) (new : tag field r ∉ seen) :
    ∃ j q, j ≤ i ∧ FirstAfter field seen records j ∧ records[j]? = some q ∧ tag field q = tag field r := by
  induction records generalizing seen i with
  | nil => simp at hat
  | cons p rs ih =>
      by_cases here : tag field p = tag field r
      · exact ⟨0, p, Nat.zero_le i, firstAfter_zero.2 (here ▸ new), rfl, here⟩
      · cases i with
        | zero =>
            obtain rfl : p = r := by simpa using hat
            exact absurd rfl here
        | succ i =>
            have later : rs[i]? = some r := by simpa using hat
            have new' : tag field r ∉ tag field p :: seen := by simp [new, Ne.symm here]
            obtain ⟨j, q, before, first, found, same⟩ := ih later new'
            exact ⟨j + 1, q, Nat.succ_le_succ before, firstAfter_succ.2 first, found, same⟩

theorem tag_of_mem_distinctFrom (mem : r ∈ distinctFrom field seen records) : tag field r ∉ seen := by
  fun_induction distinctFrom field seen records with
  | case1 => cases mem
  | case2 seen q rs known ih => exact ih mem
  | case3 seen q rs new ih =>
      rcases List.mem_cons.1 mem with rfl | mem
      · exact new
      · exact fun known => ih mem (List.mem_cons_of_mem _ known)

theorem pairwise_distinctFrom (field : String) (seen : List String) (records : List Record) :
    (distinctFrom field seen records).Pairwise fun a b => tag field a ≠ tag field b := by
  fun_induction distinctFrom field seen records with
  | case1 => exact .nil
  | case2 seen r rs known ih => exact ih
  | case3 seen r rs new ih =>
      refine List.pairwise_cons.2 ⟨fun q mem same => ?_, ih⟩
      exact tag_of_mem_distinctFrom mem (same ▸ List.mem_cons_self)

theorem distinctFrom_sublist (field : String) (seen : List String) (records : List Record) :
    (distinctFrom field seen records).Sublist records := by
  fun_induction distinctFrom field seen records with
  | case1 => exact .slnil
  | case2 seen r rs known ih => exact ih.cons r
  | case3 seen r rs new ih => exact ih.cons_cons r

/-- **What is kept are the first records of their texts**: just the records whose text differs from that of every
earlier one, in their order.  So no two that are kept have the same text, and for each that is dropped an earlier
one with its text is kept. -/
structure KeepsFirsts (field : String) (records kept : List Record) : Prop where
  chosen : ∃ indices : List Nat, indices.Pairwise (· < ·) ∧ (∀ i, i ∈ indices ↔ IsFirst field records i) ∧
    kept.map some = indices.map (records[·]?)
  sublist : kept.Sublist records
  distinct : kept.Pairwise fun a b => tag field a ≠ tag field b
  dropped : ∀ i r, records[i]? = some r → ¬ IsFirst field records i →
    ∃ j q, j < i ∧ IsFirst field records j ∧ records[j]? = some q ∧ q ∈ kept ∧ tag field q = tag field r

theorem keepsFirsts_distinct (field : String) (records : List Record) :
    KeepsFirsts field records (distinct field records) := by
  have chosen := distinctFrom_chosen field [] records
  simp only [firstAfter_nil] at chosen
  refine ⟨chosen, distinctFrom_sublist field [] records, pairwise_distinctFrom field [] records, ?_⟩
  intro i r hat later
  obtain ⟨j, q, before, first, found, same⟩ := exists_firstAfter hat (List.not_mem_nil (a := tag field r))
  rw [firstAfter_nil] at first
  have earlier : j < i := Nat.lt_of_le_of_ne before fun eq => later (eq ▸ first)
  obtain ⟨indices, _, mem_indices, kept⟩ := chosen
  have mem : some q ∈ (distinct field records).map some := by
    change some q ∈ (distinctFrom field [] records).map some
    rw [kept]
    exact List.mem_map.2 ⟨j, (mem_indices j).2 first, found⟩
  exact ⟨j, q, earlier, first, found, by simpa using mem, same⟩

/-! ### Twice, and with a filter -/

theorem distinctFrom_of_pairwise (new : ∀ r ∈ records, tag field r ∉ seen)
    (distinct : records.Pairwise fun a b => tag field a ≠ tag field b) :
    distinctFrom field seen records = records := by
  induction records generalizing seen with
  | nil => rfl
  | cons r rs ih =>
      obtain ⟨others, distinct⟩ := List.pairwise_cons.1 distinct
      have rest : distinctFrom field (tag field r :: seen) rs = rs := by
        refine ih (fun q mem => ?_) distinct
        simp [new q (List.mem_cons_of_mem r mem), (others q mem).symm]
      rw [distinctFrom, if_neg (new r List.mem_cons_self), rest]

theorem distinct_distinct (field : String) (records : List Record) :
    distinct field (distinct field records) = distinct field records :=
  distinctFrom_of_pairwise (fun _ _ => List.not_mem_nil) (pairwise_distinctFrom field [] records)

/-- **A selection that looks at the text only comes before or after.**  Texts that it does not let through
need not be seen. -/
theorem distinctFrom_filter {p : String → Bool} (agree : ∀ text, p text = true → (text ∈ seen ↔ text ∈ seen'))
    (records : List Record) :
    distinctFrom field seen (records.filter fun r => p (tag field r)) =
      (distinctFrom field seen' records).filter fun r => p (tag field r) := by
  induction records generalizing seen seen' with
  | nil => rfl
  | cons r rs ih =>
      cases through : p (tag field r) with
      | true =>
          have same := agree _ through
          have next : ∀ text, p text = true →
              (text ∈ tag field r :: seen ↔ text ∈ tag field r :: seen') := fun text pass => by
            simp [agree text pass]
          by_cases known : tag field r ∈ seen
          · simp [distinctFrom, through, known, same.1 known, ih agree]
          · simp [distinctFrom, through, known, mt same.2 known, ih next]
      | false =>
          have next : ∀ text, p text = true → (text ∈ seen ↔ text ∈ tag field r :: seen') := by
            intro text pass
            have other : text ≠ tag field r := by
              rintro rfl
              rw [through] at pass
              cases pass
            simp [agree text pass, other]
          by_cases known : tag field r ∈ seen'
          · simp [distinctFrom, through, known, ih agree]
          · simp [distinctFrom, through, known, ih next]

/-- A text that is not empty is had by the records with that text for a tag; a record without the field is not
among them. -/
theorem hasText_iff_tag {text : String} (hne : text ≠ "") :
    r.HasText field text ↔ tag field r = Case.lowercase text := by
  have nothing : Case.lowercase "" = "" := rfl
  unfold Record.HasText tag Record.read
  cases r.get? field with
  | none => simpa [Value.empty, nothing] using (Case.lowercase_ne_empty hne).symm
  | some w => simp

theorem distinct_matching {value : Value} (hne : value.text ≠ "") (field : String) (records : List Record) :
    distinct field (matching field value records) = matching field value (distinct field records) := by
  have byTag : ∀ rs : List Record, matching field value rs =
      rs.filter fun r => decide (tag field r = Case.lowercase value.text) := by
    intro rs
    rw [matching_eq_filter]
    exact List.filter_congr fun r _ => decide_eq_decide.2 (hasText_iff_tag hne)
  rw [byTag, byTag]
  exact distinctFrom_filter (p := fun text => decide (text = Case.lowercase value.text))
    (fun _ _ => Iff.rfl) records

end ListView

/-! ### What a script is told -/

namespace ListView

theorem get?_publish_of_not_mem {key : String} (other : key ∉ cursorKeys) (v : ListView) (values : ValueMap) :
    (v.publish values).get? key = values.get? key := by
  simp only [cursorKeys, List.mem_cons, List.not_mem_nil, or_false, not_or] at other
  obtain ⟨count, lastIndex, index, hasItem, outOfBounds⟩ := other
  simp only [publish, ValueMap.set, KeyMap.get?_insert_of_ne _ outOfBounds, KeyMap.get?_insert_of_ne _ hasItem,
    KeyMap.get?_insert_of_ne _ index, KeyMap.get?_insert_of_ne _ lastIndex, KeyMap.get?_insert_of_ne _ count]

/-- What was said of a list before makes no difference once it is said again. -/
theorem publish_congr (v : ListView) {m n : ValueMap} (same : ∀ key ∉ cursorKeys, m.get? key = n.get? key) :
    v.publish m = v.publish n := by
  refine KeyMap.ext_get? fun key x => ?_
  by_cases told : key ∈ cursorKeys
  · rw [v.get?_publish told m n]
  · rw [get?_publish_of_not_mem told, get?_publish_of_not_mem told, same key told]

/-- An operand may be read before or after the script is told of a list, if it is told once more. -/
theorem publish_touch_publish (v before after : ListView) (o : Operand) (values : ValueMap) :
    v.publish (o.touch (before.publish values)) = v.publish (after.publish (o.touch values)) := by
  refine v.publish_congr fun key other => ?_
  rw [get?_publish_of_not_mem other]
  have same := before.get?_publish_of_not_mem other values
  cases o with
  | constant x => exact same
  | named name =>
      simp only [Operand.touch]
      split
      · exact same
      · rw [ValueMap.get?_touch_eq, ValueMap.get?_touch_eq, ValueMap.read, ValueMap.read, same]

end ListView

/-! ### Statements -/

namespace Session

variable {s : Session} {l : OpenList} {field : String} {o : Operand}

/-- The session after `list:unique`. -/
def uniquing (s : Session) (field : String) : Session := (s.exec (.list (.unique field))).2

/-- The session after `list:filter`. -/
def filtering (s : Session) (field : String) (value : Operand) : Session :=
  (s.exec (.list (.filter field value))).2

/-- The session with a list of its own open, of which the script is told. -/
def selecting (s : Session) (name : String) (records : List Record) : Session :=
  { s with context.desk := s.context.desk.opening (.own name records) }.publishList

theorem uniquing_eq (hopen : s.context.desk.current = some l) (field : String) :
    s.uniquing field = s.selecting l.name (ListView.distinct field (l.records s.host)) := by
  simp only [uniquing, exec, execList, listEffect, onDesk, ListDesk.unique, ListDesk.select, hopen]
  rfl

theorem filtering_eq (hopen : s.context.desk.current = some l) (field : String) (o : Operand) :
    s.filtering field o =
      (s.touch o).selecting l.name (ListView.matching field (s.value o) (l.records s.host)) := by
  have open' : (s.touch o).context.desk.current = some l := hopen
  simp only [filtering, exec, execList, listEffect, onDesk, ListDesk.filter, ListDesk.select, open']
  rfl

theorem look_selecting (s : Session) (name : String) (records : List Record) :
    (s.selecting name records).look = .ofRecords records := rfl

theorem selecting_eq (s : Session) (name : String) (records : List Record) :
    s.selecting name records = { s with
      context.values := (ListView.ofRecords records).publish s.values
      context.desk := s.context.desk.opening (.own name records) } := rfl

/-- To open the same list again changes nothing. -/
theorem selecting_again (s : Session) (name : String) (records : List Record) :
    (s.selecting name records).selecting name records = s.selecting name records := by
  have values := ListView.publish_publish (.ofRecords records) s.values
  simp only [selecting_eq, Session.values] at values ⊢
  rw [values]
  rfl

/-- Of two lists that are opened one after the other only the second counts, and an operand may be read before
or between. -/
theorem selecting_touch_selecting (s : Session) (name : String) (records first second : List Record)
    (o : Operand) :
    ((s.selecting name first).touch o).selecting name records =
      ((s.touch o).selecting name second).selecting name records := by
  have values := ListView.publish_touch_publish (.ofRecords records) (.ofRecords first) (.ofRecords second) o
    s.values
  simp only [selecting_eq, touch, setValues, Session.values] at values ⊢
  rw [values]
  rfl

/-- **What `list:unique` makes of the open list.**  A list of its own is open, with just the first record of each
text of the field in lower case, in their order; a record without the field counts as one with an empty text.
A second `list:unique` changes nothing in the whole session.  Nor does it make a difference whether a
`list:filter` by the same field comes before or after, if the value is not empty and is the same both times. -/
theorem unique_keeps_firsts {s : Session} {l : OpenList} (hopen : s.context.desk.current = some l)
    (field : String) :
    let t := s.uniquing field
    (t.context.desk.current = some (.own l.name t.look.records) ∧ t.look = .ofRecords t.look.records ∧
        ListView.KeepsFirsts field s.look.records t.look.records) ∧
      t.uniquing field = t ∧
      ∀ o : Operand, (s.value o).text ≠ "" → t.value o = s.value o →
        t.filtering field o = (s.filtering field o).uniquing field := by
  intro t
  have unique : t = s.selecting l.name (ListView.distinct field s.look.records) := by
    rw [look_records hopen]
    exact uniquing_eq hopen field
  have current : t.context.desk.current = some (.own l.name (ListView.distinct field s.look.records)) := by
    rw [unique]
    rfl
  refine ⟨⟨?_, ?_, ?_⟩, ?_, fun o filled same => ?_⟩
  · rw [unique]
    rfl
  · rw [unique]
    rfl
  · rw [unique, look_selecting]
    exact ListView.keepsFirsts_distinct field s.look.records
  · rw [uniquing_eq current]
    change t.selecting l.name (ListView.distinct field (ListView.distinct field s.look.records)) = t
    rw [ListView.distinct_distinct, unique, selecting_again]
  · have chosen := filtering_eq hopen field o
    rw [← look_records hopen] at chosen
    have current' : (s.filtering field o).context.desk.current =
        some (.own l.name (ListView.matching field (s.value o) s.look.records)) := by
      rw [chosen]
      rfl
    rw [filtering_eq current, same, uniquing_eq current', chosen, unique]
    change ((s.selecting l.name _).touch o).selecting l.name
        (ListView.matching field (s.value o) (ListView.distinct field s.look.records)) =
      ((s.touch o).selecting l.name _).selecting l.name
        (ListView.distinct field (ListView.matching field (s.value o) s.look.records))
    rw [ListView.distinct_matching filled]
    exact selecting_touch_selecting ..

/-- A record with a number and, if there is one, a name. -/
def sailor (number : String) (name : Option String) : Record :=
  .ofList (("number", .ofText number) :: (name.map fun n => ("name", Value.ofText n)).toList)

/-- Five records under a cursor: one name comes twice, in small letters and in capitals, one is empty, and one
is missing. -/
def crew : Session :=
  let list := [sailor "1" (some "Ann"), sailor "2" none, sailor "3" (some "bob"), sailor "4" (some "ANN"),
    sailor "5" (some "")]
  let context := Context.ofInputs "crew" {}
  ⟨{ context with desk := { current := some (.own "crew" list), cursor := some 3 } }, {}⟩

/-- The missing name and the empty one count as the same; with a filter in capitals one record is left either
way. -/
theorem unique_keeps_firsts_crew :
    let ann : Operand := .constant (.ofText "ANN")
    (crew.uniquing "name").look.records = [sailor "1" (some "Ann"), sailor "2" none, sailor "3" (some "bob")] ∧
      ListView.KeepsFirsts "name" crew.look.records (crew.uniquing "name").look.records ∧
      (crew.uniquing "name").uniquing "name" = crew.uniquing "name" ∧
      ((crew.uniquing "name").filtering "name" ann).look.records = [sailor "1" (some "Ann")] ∧
      (crew.uniquing "name").filtering "name" ann = (crew.filtering "name" ann).uniquing "name" := by
  intro ann
  obtain ⟨⟨_, _, firsts⟩, again, commutes⟩ := unique_keeps_firsts (s := crew) rfl "name"
  exact ⟨by decide +kernel, firsts, again, by decide +kernel, commutes ann (by simp [ann, value, Operand.value]) rfl⟩

end Session

end LineScript
