import LineScript.Proofs.SortOrder
import LineScript.Proofs.Sorting
import LineScript.Proofs.Steps
import LineScript.Proofs.Sweep

/-!
**Sorting a list keeps what the order leaves open.**

Whatever the order says, sorting loses no record and makes none up.  Where *not coming before* is transitive
the records end up in order, and those that are level stay as they stood, in either direction.  It is
transitive on a column of numbers and blanks, where a blank comes first although it is compared by text,
and on a column without a number.  On other columns a long list may break the run down.

Main definitions:

* `LineScript.ListView.Arranges` — an order is a total preorder on the records of a list;
* `LineScript.ListView.StablySorted` — the same records, in order, and level ones as they stood;
* `LineScript.ListView.orElse` — by one order, and where it leaves two records level by another;
* `LineScript.ListView.Numbers`, `LineScript.ListView.Texts` — the columns that can be put in order;
* `LineScript.Session.sorting` — a session after `list:sort`.

Main results:

* `LineScript.ListView.StablySorted.orElse` — sorting stably by another order first settles the ties;
* `LineScript.ListView.stablySorted_sorted` — sorting is stable where the order is a preorder;
* `LineScript.ListView.of_brokeDown` — and breaks down only where it is none;
* `LineScript.ListView.arranges_of_orderly` — the order is one on numbers and blanks, and on texts;
* `LineScript.Session.sorting_again` — sorting a second time changes nothing in the whole session;
* `LineScript.Session.sort_stable` — **what `list:sort` makes of the open list**.
-/

set_option autoImplicit false

namespace LineScript

/-! ### Blanks among numbers -/

theorem Case.lower_ne_nil (c : Char) : Case.lower c ≠ [] := by
  unfold Case.lower
  split
  · simp
  · split <;> simp

/-- Only nothing is nothing in lower case. -/
theorem Case.lowercase_ne_empty {s : String} (hne : s ≠ "") : Case.lowercase s ≠ "" := by
  intro gone
  have chars : Case.lowercaseFrom [] s.toList = [] := by
    simpa [Case.lowercase] using gone
  cases shape : s.toList with
  | nil => exact hne (by simpa using shape)
  | cons c cs =>
      rw [shape, Case.lowercaseFrom, List.append_eq_nil_iff] at chars
      have first := chars.1
      split at first
      · cases first
      · exact Case.lower_ne_nil c first

namespace Value
variable {v w : Value}

theorem isNumeric_of_isEmpty (empty : v.isEmpty = true) : v.isNumeric = false := by
  have text : v.text = "" := by simpa [isEmpty] using empty
  simp [isNumeric, text]
  rfl

theorem byText_lt_iff : byText v w = .lt ↔ Case.lowercase v.text < Case.lowercase w.text :=
  compareOfLessAndEq_eq_lt

/-- By text a blank comes before all that is none. -/
theorem byText_of_isEmpty (empty : v.isEmpty = true) (hsome : w.isEmpty = false) : byText v w = .lt := by
  have text : v.text = "" := by simpa [isEmpty] using empty
  have lower : Case.lowercase w.text ≠ "" := Case.lowercase_ne_empty (by simpa [isEmpty] using hsome)
  rw [byText_lt_iff, text]
  change [] < (Case.lowercase w.text).toList
  cases shape : (Case.lowercase w.text).toList with
  | nil => exact absurd (by simpa using shape) lower
  | cons c cs => exact List.nil_lt_cons c cs

/-- **Numbers and blanks**: a blank comes before every number, and numbers come by number. -/
theorem compare_lt_iff_of_numbers (left : v.isNumeric = true ∨ v.isEmpty = true)
    (right : w.isNumeric = true ∨ w.isEmpty = true) :
    compare v w = .lt ↔ w.isEmpty = false ∧ (v.isEmpty = true ∨ v.number.toInt < w.number.toInt) := by
  cases blank : w.isEmpty with
  | true =>
      have text : w.isNumeric = false := isNumeric_of_isEmpty blank
      rw [compare_of_not_numeric (by simp [text])]
      cases blank' : v.isEmpty with
      | true =>
          have same : v.text = w.text := by simp_all [isEmpty]
          simp [byText, compareOn, same]
      | false =>
          have after : byText v w = .gt := Std.OrientedCmp.gt_iff_lt.2 (byText_of_isEmpty blank blank')
          simp [after]
  | false =>
      have number : w.isNumeric = true := by simpa [blank] using right
      cases blank' : v.isEmpty with
      | true =>
          rw [compare_of_not_numeric (by simp [isNumeric_of_isEmpty blank']), byText_of_isEmpty blank' blank]
          simp
      | false =>
          have number' : v.isNumeric = true := by simpa [blank'] using left
          have hnumber : byNumber v w = .lt ↔ v.number.toInt < w.number.toInt := compareOfLessAndEq_eq_lt
          rw [compare_of_numeric number' number, hnumber]
          simp

theorem compare_lt_iff_of_text (text : v.isNumeric = false) :
    compare v w = .lt ↔ Case.lowercase v.text < Case.lowercase w.text := by
  rw [compare_of_not_numeric (by simp [text]), byText_lt_iff]

/-- No blank is straddled: it comes before both numbers. -/
theorem not_straddles_of_isEmpty {x y z : Value} (empty : z.isEmpty = true) : ¬ Straddles x z y := by
  intro straddles
  have hsome : x.isEmpty = false := by
    cases blank : x.isEmpty with
    | false => rfl
    | true =>
        have number := straddles.left
        rw [isNumeric_of_isEmpty blank] at number
        cases number
  exact straddles.lower (Std.OrientedCmp.gt_iff_lt.2 (byText_of_isEmpty empty hsome))

end Value

namespace ListView

variable {less other : Record → Record → Bool} {records old middle new done : List Record} {r x y : Record}
  {field : String} {descending : Bool}

/-! ### Orders of records -/

/-- **An order is a total preorder on some records**: of two records at most one comes before the other, and
a record that does not come before one that does not come before a third does not come before the third. -/
structure Arranges (less : Record → Record → Bool) (records : List Record) : Prop where
  asymm : ∀ x y, less x y = true → less y x = false
  trans : ∀ x ∈ records, ∀ y ∈ records, ∀ z ∈ records,
    less y x = false → less z y = false → less z x = false

theorem Arranges.irrefl (arranges : Arranges less records) (x : Record) : less x x = false := by
  cases own : less x x with
  | false => rfl
  | true => exact own.symm.trans (arranges.asymm x x own)

/-- Neither of two records comes before the other. -/
def level (less : Record → Record → Bool) (x y : Record) : Bool := !less x y && !less y x

/-- **The stably sorted form of a list**: it has the same records, none of them comes before an earlier one,
and those that are level with a record stand as they stood. -/
structure StablySorted (less : Record → Record → Bool) (old new : List Record) : Prop where
  perm : new.Perm old
  ordered : new.Pairwise fun x y => less y x = false
  stable : ∀ r ∈ old, new.filter (level less r) = old.filter (level less r)

/-- By one order, and where it leaves two records level by another. -/
def orElse (less other : Record → Record → Bool) (x y : Record) : Bool :=
  less x y || !less y x && other x y

theorem level_orElse (less other : Record → Record → Bool) (x y : Record) :
    level (orElse less other) x y = (level less x y && level other x y) := by
  unfold level orElse
  cases less x y <;> cases less y x <;> simp

/-- Records that are level with each other stand in a stably sorted form as they stood before. -/
theorem StablySorted.sublist_old (sorted : StablySorted less old new) (own : less x x = false)
    (hlevel : level less x y = true) (inside : [x, y].Sublist new) : [x, y].Sublist old := by
  have mem : x ∈ old := sorted.perm.mem_iff.1 (inside.subset (by simp))
  have kept : [x, y].filter (level less x) = [x, y] := by
    have self : level less x x = true := by simp [level, own]
    simp [hlevel, self]
  rw [← kept]
  exact ((sorted.stable x mem) ▸ inside.filter (level less x)).trans List.filter_sublist

/-- **Sorting stably by one order after another**: the other order settles what the one leaves open. -/
theorem StablySorted.orElse (second : StablySorted less middle new) (first : StablySorted other old middle)
    (irrefl : ∀ x, less x x = false) : StablySorted (orElse less other) old new where
  perm := second.perm.trans first.perm
  ordered := by
    rw [List.pairwise_iff_forall_sublist]
    intro x y inside
    have ordered : less y x = false := List.pairwise_iff_forall_sublist.1 second.ordered inside
    cases strict : less x y with
    | true => simp [ListView.orElse, ordered, strict]
    | false =>
        have before : [x, y].Sublist middle :=
          second.sublist_old (irrefl x) (by simp [level, strict, ordered]) inside
        have ordered' : other y x = false := List.pairwise_iff_forall_sublist.1 first.ordered before
        simp [ListView.orElse, ordered, ordered']
  stable := by
    intro r mem
    have both : level (ListView.orElse less other) r = fun x => level less r x && level other r x :=
      funext (level_orElse less other r)
    have swapped : (fun x => level less r x && level other r x) =
        fun x => level other r x && level less r x := funext fun x => Bool.and_comm _ _
    calc new.filter (level (ListView.orElse less other) r)
        = (new.filter (level less r)).filter (level other r) := by
          rw [both, swapped, List.filter_filter]
      _ = (middle.filter (level less r)).filter (level other r) := by
          rw [second.stable r (first.perm.mem_iff.2 mem)]
      _ = (middle.filter (level other r)).filter (level less r) := by
          rw [List.filter_filter, List.filter_filter, swapped]
      _ = (old.filter (level other r)).filter (level less r) := by rw [first.stable r mem]
      _ = old.filter (level (ListView.orElse less other) r) := by rw [both, List.filter_filter]

/-! ### Sorting -/

/-- The rank of a record: how many records come before it. -/
def rankIn (less : Record → Record → Bool) (records : List Record) (x : Record) : Int :=
  records.countP fun y => less y x

/-- What comes before a record that is not after another one comes before that one too. -/
theorem Arranges.less_of_less (h : Arranges less records) {z : Record} (hx : x ∈ records) (hy : y ∈ records)
    (hz : z ∈ records) (hyx : less y x = false) (hzx : less z x = true) : less z y = true := by
  cases hzy : less z y with
  | true => rfl
  | false =>
      have hnot := h.trans x hx y hy z hz hyx hzy
      rw [hzx] at hnot
      cases hnot

/-- **A total preorder goes by rank.** -/
theorem Arranges.ranked (h : Arranges less records) :
    Sorting.Ranked less (rankIn less records) records records := by
  refine ⟨fun x hx y hy => ?_, fun _ => id⟩
  cases hxy : less x y with
  | true =>
      have hmore : ∀ z ∈ records, less z x = true → less z y = true :=
        fun z hz => h.less_of_less hx hy hz (h.asymm x y hxy)
      -- the record itself is one more that comes before the other
      obtain ⟨front, rest, hsplit⟩ := List.append_of_mem hx
      have hfront : front.countP (less · x) ≤ front.countP (less · y) :=
        List.countP_mono_left fun z hz => hmore z (by simp [hsplit, hz])
      have hrest : rest.countP (less · x) ≤ rest.countP (less · y) :=
        List.countP_mono_left fun z hz => hmore z (by simp [hsplit, hz])
      have hlt : records.countP (less · x) < records.countP (less · y) := by
        rw [hsplit, List.countP_append, List.countP_append, List.countP_cons, List.countP_cons, hxy, h.irrefl x]
        simp only [Bool.false_eq_true, if_false, if_true]
        omega
      simpa [rankIn] using hlt
  | false =>
      have hle : records.countP (less · y) ≤ records.countP (less · x) :=
        List.countP_mono_left fun z hz => h.less_of_less hy hx hz hxy
      simpa [rankIn] using hle

/-- Where the order is a total preorder, what is sorted by rank is stably sorted. -/
theorem Arranges.stablySorted (h : Arranges less old) (perm : new.Perm old)
    (hsorts : Sorting.Sorts (rankIn less old) old new) : StablySorted less old new where
  perm := perm
  ordered := by
    refine hsorts.ordered.imp_of_mem fun {x y} hx hy hle => ?_
    rw [h.ranked.less_eq y (perm.mem_iff.1 hy) x (perm.mem_iff.1 hx)]
    simpa using hle
  stable := by
    intro r hr
    have hlevel : ∀ x ∈ old, level less r x = (rankIn less old x == rankIn less old r) := by
      intro x hx
      rw [level, h.ranked.less_eq r hr x hx, h.ranked.less_eq x hx r hr, Bool.eq_iff_iff]
      simp only [Bool.and_eq_true, Bool.not_eq_true', decide_eq_false_iff_not, beq_iff_eq]
      omega
    rw [List.filter_congr hlevel, List.filter_congr fun x hx => hlevel x (perm.mem_iff.1 hx)]
    exact hsorts.ties _

/-- **No record is lost or made up**, whatever the field holds, and even where sorting breaks down. -/
theorem perm_sorted (field : String) (descending : Bool) (records : List Record) :
    (sorted field descending records).Perm records :=
  (Sorting.yields_sort (before field descending) (fun _ => 0) [] records).items_perm

/-- Where the order is a total preorder sorting does not break down. -/
theorem sort_of_arranges (arranges : Arranges (before field descending) records) :
    sort field descending records = .ok (sorted field descending records) ∧
      Sorting.Sorts (rankIn (before field descending) records) records (sorted field descending records) := by
  obtain ⟨new, hsort, hsorts⟩ :=
    (Sorting.yields_sort (before field descending) _ records records).exists_sorts arranges.ranked
  have hnew : sorted field descending records = new := by
    rw [sorted, sort, hsort]
    rfl
  rw [hnew]
  exact ⟨hsort, hsorts⟩

/-- **Sorting is stable** where the order is a total preorder. -/
theorem stablySorted_sorted (arranges : Arranges (before field descending) records) :
    StablySorted (before field descending) records (sorted field descending records) :=
  arranges.stablySorted (perm_sorted field descending records) (sort_of_arranges arranges).2

/-- Sorting few records never breaks down. -/
theorem sort_of_length_le (h : records.length ≤ 20) (field : String) (descending : Bool) :
    sort field descending records = .ok (sorted field descending records) := by
  simp [sorted, sort, Sorting.sort, h, Sorting.Attempt.items]

/-- **Sorting breaks down only** among more than twenty records, and where the order is no total preorder. -/
theorem of_brokeDown (h : (sort field descending records).brokeDown = true) :
    20 < records.length ∧ ¬ Arranges (before field descending) records := by
  refine ⟨Nat.lt_of_not_le fun few => ?_, fun arranges => ?_⟩
  · rw [sort_of_length_le few] at h
    cases h
  · rw [(sort_of_arranges arranges).1] at h
    cases h

/-- Records that are in order stay as they are. -/
theorem sorted_of_ordered (arranges : Arranges (before field descending) records)
    (ordered : records.Pairwise fun x y => before field descending y x = false) :
    sorted field descending records = records := by
  refine (sort_of_arranges arranges).2.eq_of_ordered (perm_sorted field descending records)
    (ordered.imp_of_mem fun {x y} hx hy hle => ?_)
  rw [arranges.ranked.less_eq y hy x hx] at hle
  simpa using hle

/-- A total preorder on some records is one on records that are the same in another order. -/
theorem Arranges.of_mem (arranges : Arranges less old) (mem : ∀ r ∈ new, r ∈ old) : Arranges less new :=
  ⟨arranges.asymm, fun x hx y hy z hz => arranges.trans x (mem x hx) y (mem y hy) z (mem z hz)⟩

/-! ### Columns -/

/-- The field holds a number or nothing in every record. -/
def Numbers (field : String) (records : List Record) : Prop :=
  ∀ r ∈ records, (r.read field).isNumeric = true ∨ (r.read field).isEmpty = true

/-- The field holds a number in no record. -/
def Texts (field : String) (records : List Record) : Prop := ∀ r ∈ records, (r.read field).isNumeric = false

/-- **A column that can be put in order**: of numbers and blanks, or without a number. -/
def Orderly (field : String) (records : List Record) : Prop := Numbers field records ∨ Texts field records

theorem Orderly.of_mem (orderly : Orderly field old) (mem : ∀ r ∈ new, r ∈ old) : Orderly field new :=
  orderly.imp (fun numbers r h => numbers r (mem r h)) fun texts r h => texts r (mem r h)

/-- Descending is ascending turned around. -/
theorem before_descending (field : String) (x y : Record) :
    before field true x y = before field false y x := by
  have turned : (y.read field).compare (x.read field) = ((x.read field).compare (y.read field)).swap :=
    Value.compare_swap _ _
  simp only [before, turned]
  cases (x.read field).compare (y.read field) <;> rfl

theorem before_ascending_iff (field : String) (x y : Record) :
    before field false x y = true ↔ (x.read field).compare (y.read field) = .lt := by
  simp [before]

theorem before_ascending_eq_false_iff (field : String) (x y : Record) :
    before field false x y = false ↔ (y.read field).compare (x.read field) ≠ .gt := by
  have turned : (y.read field).compare (x.read field) = ((x.read field).compare (y.read field)).swap :=
    Value.compare_swap _ _
  simp only [before, turned]
  cases (x.read field).compare (y.read field) <;> simp

theorem before_iff_of_numbers (numbers : Numbers field records) (hx : x ∈ records) (hy : y ∈ records) :
    before field false x y = true ↔ (y.read field).isEmpty = false ∧
      ((x.read field).isEmpty = true ∨ (x.read field).number.toInt < (y.read field).number.toInt) := by
  rw [before_ascending_iff]
  exact Value.compare_lt_iff_of_numbers (numbers x hx) (numbers y hy)

theorem before_iff_of_texts (texts : Texts field records) (hx : x ∈ records) (y : Record) :
    before field false x y = true ↔
      Case.lowercase (x.read field).text < Case.lowercase (y.read field).text := by
  rw [before_ascending_iff]
  exact Value.compare_lt_iff_of_text (texts x hx)

theorem Orderly.not_straddles (orderly : Orderly field records) {z : Record} (hx : x ∈ records)
    (hz : z ∈ records) : ¬ Value.Straddles (x.read field) (z.read field) (y.read field) := by
  rcases orderly with numbers | texts
  · rcases numbers z hz with number | blank
    · exact fun straddles => straddles.inner number
    · exact Value.not_straddles_of_isEmpty blank
  · intro straddles
    simpa [texts x hx] using straddles.left

/-- **On such a column the order is a total preorder**, in either direction. -/
theorem arranges_of_orderly (orderly : Orderly field records) (descending : Bool) :
    Arranges (before field descending) records := by
  have ascending : Arranges (before field false) records := by
    refine ⟨fun x y strict => ?_, fun x hx y hy z hz first second => ?_⟩
    · rw [before_ascending_eq_false_iff, (before_ascending_iff field x y).1 strict]
      decide
    · rw [before_ascending_eq_false_iff] at first second ⊢
      exact (Value.chains_of_not_straddles (orderly.not_straddles hz hx) (orderly.not_straddles hx hy)
        (orderly.not_straddles hy hz) first second).1
  cases descending with
  | false => exact ascending
  | true =>
      refine ⟨fun x y strict => ?_, fun x hx y hy z hz first second => ?_⟩
      · rw [before_descending] at strict ⊢
        exact ascending.asymm y x strict
      · rw [before_descending] at first second ⊢
        exact ascending.trans z hz y hy x hx second first

end ListView

/-! ### The open list -/

/-- A list that was given records stays as it is when it is given them again. -/
theorem OpenList.setRecords_again (l : OpenList) (h : Host) (new : List Record) :
    (l.holding new).setRecords (l.setRecords h new).2 new = (l.holding new, (l.setRecords h new).2) := by
  cases l with
  | own name old => rfl
  | stored name =>
      have same : ∀ st : Storage, (st.setRecords name new).setRecords name new = st.setRecords name new := by
        intro st
        simp [Storage.setRecords, KeyMap.insert_of_get?]
      simp [holding, setRecords, Option.map_map, Function.comp_def, same]
  | supplied name number =>
      have same : ∀ c : Catalogue,
          (c.setRecords name number new).setRecords name number new = c.setRecords name number new := by
        intro c
        simp [Catalogue.setRecords, Catalogue.generations, KeyMap.insert_of_get?]
      simp [holding, setRecords, Option.map_map, Function.comp_def, same]

namespace ListDesk

variable {d : ListDesk} {h : Host} {l : OpenList} {f : List Record → List Record}

theorem rearrange_of_open (hopen : d.current = some l) (f : List Record → List Record) :
    d.rearrange h f =
      (.ok (), d.opening (l.holding (f (l.records h))), (l.setRecords h (f (l.records h))).2) := by
  simp [rearrange, edit, hopen, opening, ListView.ofRecords]

theorem view_rearrange (hopen : d.current = some l) (nil : f [] = []) :
    (d.rearrange h f).2.1.view (d.rearrange h f).2.2 = .ofRecords (f (l.records h)) := by
  have records : (d.view h).records = l.records h := by simp [view, hopen]
  have there : l.records h ≠ [] ∨ f (d.view h).records = l.records h := by
    rw [records]
    by_cases empty : l.records h = []
    · exact .inr (by rw [empty, nil])
    · exact .inl empty
  have view := (view_edit (f := fun v => ((.ok () : Except ListError Unit), .ofRecords (f v.records)))
    hopen there).2
  rwa [records] at view

/-- **To rearrange a list that is arranged so changes nothing.** -/
theorem rearrange_again (hopen : d.current = some l) (nil : f [] = [])
    (again : f (f (l.records h)) = f (l.records h)) :
    (d.rearrange h f).2.1.rearrange (d.rearrange h f).2.2 f = d.rearrange h f := by
  have view := view_rearrange (h := h) hopen nil
  rw [rearrange_of_open hopen] at view ⊢
  have records : (l.holding (f (l.records h))).records (l.setRecords h (f (l.records h))).2 =
      f (l.records h) := congrArg ListView.records view
  rw [rearrange_of_open rfl, records, again, OpenList.holding_holding]
  have set := l.setRecords_again h (f (l.records h))
  rw [set]
  rfl

end ListDesk

/-- To tell a script what it was told changes nothing. -/
theorem ListView.publish_publish (v : ListView) (values : ValueMap) :
    v.publish (v.publish values) = v.publish values := by
  obtain ⟨count, lastIndex, index, hasItem, outOfBounds⟩ := v.tellsList_publish values
  obtain ⟨records, cursor, out⟩ := v
  generalize publish ⟨records, cursor, out⟩ values = told at *
  have same : ∀ {key v}, told.get? key = some v → told.set key v = told := KeyMap.insert_of_get?
  cases cursor with
  | none =>
      have index : told.get? "$list.index" = some (.ofInt (-1)) := index
      simp only [publish, same count, same lastIndex, same index, same hasItem, same outOfBounds]
  | some c =>
      have index : told.get? "$list.index" = some (.ofInt c) := index
      simp only [publish, same count, same lastIndex, same index, same hasItem, same outOfBounds]

namespace Session

variable {s : Session} {l : OpenList} {field : String} {descending : Bool}

/-- The session after `list:sort`. -/
def sorting (s : Session) (field : String) (descending : Bool) : Session :=
  (s.exec (.list (.sort field descending))).2

theorem sorting_eq (hopen : s.context.desk.current = some l) (field : String) (descending : Bool) :
    s.sorting field descending =
      (s.onDesk fun d h => d.rearrange h (ListView.sorted field descending)).2.publishList := by
  unfold sorting exec execList listEffect onDesk
  simp only [ListDesk.sort, ListDesk.rearrange_of_open hopen]

/-- Sorting unsets the cursor, and leaves the list open. -/
theorem look_sorting (hopen : s.context.desk.current = some l) (field : String) (descending : Bool) :
    (s.sorting field descending).look = .ofRecords (ListView.sorted field descending s.look.records) ∧
      (s.sorting field descending).context.desk.current =
        some (l.holding (ListView.sorted field descending s.look.records)) := by
  rw [sorting_eq hopen, look_records hopen]
  refine ⟨ListDesk.view_rearrange hopen rfl, ?_⟩
  simp [publishList, setValues, onDesk, ListDesk.rearrange_of_open hopen, ListDesk.opening]

/-- The desk did nothing that would last. -/
theorem onDesk_of_same {α : Type} {f : ListDesk → Host → ListDesk.Result α}
    (same : (f s.context.desk s.host).2 = (s.context.desk, s.host)) : (s.onDesk f).2 = s := by
  unfold onDesk
  rw [show f s.context.desk s.host = ((f s.context.desk s.host).1, s.context.desk, s.host) from
    Prod.ext rfl same]

theorem publishList_publishList (s : Session) : s.publishList.publishList = s.publishList :=
  congrArg s.setValues ((s.context.desk.view s.host).publish_publish s.values)

/-- **Sorting a list that is in order changes nothing**: the second of two sortings leaves everything as it
is. -/
theorem sorting_again (hopen : s.context.desk.current = some l)
    (arranges : ListView.Arranges (ListView.before field descending) s.look.records) :
    (s.sorting field descending).sorting field descending = s.sorting field descending := by
  have sorted := ListView.stablySorted_sorted arranges
  have again := ListView.sorted_of_ordered (arranges.of_mem fun r => sorted.perm.mem_iff.1) sorted.ordered
  rw [look_records hopen] at again
  have desk := ListDesk.rearrange_again hopen rfl again
  have same : ((s.sorting field descending).onDesk
      fun d h => d.rearrange h (ListView.sorted field descending)).2 = s.sorting field descending := by
    rw [sorting_eq hopen]
    exact onDesk_of_same (congrArg Prod.snd desk)
  rw [sorting_eq (look_sorting hopen field descending).2, same, sorting_eq hopen, publishList_publishList]

/-- **What `list:sort` makes of the open list.**  It keeps the records.  Those of a field that holds numbers and
blanks, or no number, are stably sorted, numbers by number and other texts by their lower-cased form; a second
sorting changes nothing, and an earlier one by another such field settles the ties.  Otherwise a list of more
than twenty records may break the run down. -/
theorem sort_stable {s : Session} {l : OpenList} (hopen : s.context.desk.current = some l) (field : String)
    (descending : Bool) :
    let records := s.look.records
    let flow := (s.exec (.list (.sort field descending))).1
    let t := s.sorting field descending
    (t.look.records.Perm records ∧ t.context.desk.current = some (l.holding t.look.records)) ∧
      (flow = .next ∧ t.look = .ofRecords t.look.records ∨
        flow = .breakdown ∧ 20 < records.length ∧
          ¬ ListView.Arranges (ListView.before field descending) records ∧
          ∀ i : Invocation, i.session s.host = s → i.ready? = some (.list (.sort field descending)) →
            i.step s.host = (.stops (.completed .brokeDown t.values), t.releaseLock.host)) ∧
      (ListView.Orderly field records →
        flow = .next ∧
        ListView.StablySorted (ListView.before field descending) records t.look.records ∧
        t.sorting field descending = t ∧
        ∀ other downwards, ListView.Orderly other records →
          ListView.StablySorted
            (ListView.orElse (ListView.before field descending) (ListView.before other downwards)) records
            ((s.sorting other downwards).sorting field descending).look.records) ∧
      (ListView.Numbers field records → ∀ x ∈ records, ∀ y ∈ records,
        (ListView.before field false x y = true ↔ (y.read field).isEmpty = false ∧
          ((x.read field).isEmpty = true ∨ (x.read field).number.toInt < (y.read field).number.toInt))) ∧
      (ListView.Texts field records → ∀ x ∈ records, ∀ y ∈ records,
        (ListView.before field false x y = true ↔
          Case.lowercase (x.read field).text < Case.lowercase (y.read field).text)) ∧
      ∀ x y, ListView.before field true x y = ListView.before field false y x := by
  intro records flow t
  obtain ⟨look, current⟩ := look_sorting hopen field descending
  have sorted : t.look.records = ListView.sorted field descending records := congrArg ListView.records look
  have hflow : flow = if (ListView.sort field descending records).brokeDown then .breakdown else .next := rfl
  refine ⟨⟨?_, ?_⟩, ?_, fun orderly => ?_, ?_, ?_, ?_⟩
  · rw [sorted]
    exact ListView.perm_sorted field descending records
  · rw [sorted]
    exact current
  · cases broke : (ListView.sort field descending records).brokeDown with
    | false =>
        refine .inl ⟨by rw [hflow, broke]; rfl, ?_⟩
        rw [sorted]
        exact look
    | true =>
        have hbroken : flow = .breakdown := by rw [hflow, broke]; rfl
        obtain ⟨many, unordered⟩ := ListView.of_brokeDown broke
        refine .inr ⟨hbroken, many, unordered, fun i same ready => ?_⟩
        rw [Invocation.step_of_ready ready, same]
        exact congrArg (Invocation.follow i t) hbroken
  · have arranges := ListView.arranges_of_orderly orderly descending
    refine ⟨?_, ?_, sorting_again hopen arranges, fun other downwards orderly' => ?_⟩
    · rw [hflow, (ListView.sort_of_arranges arranges).1]
      rfl
    · rw [sorted]
      exact ListView.stablySorted_sorted arranges
    · obtain ⟨look', current'⟩ := look_sorting hopen other downwards
      have first := ListView.stablySorted_sorted (ListView.arranges_of_orderly orderly' downwards)
      -- the first sorting keeps the records, and so what the field holds in them
      have still := arranges.of_mem fun r => first.perm.mem_iff.1
      rw [(look_sorting current' field descending).1, look']
      exact (ListView.stablySorted_sorted still).orElse first still.irrefl
  · exact fun numbers x hx y hy => ListView.before_iff_of_numbers numbers hx hy
  · exact fun texts x hx y _ => ListView.before_iff_of_texts texts hx y
  · exact ListView.before_descending field

/-- A record with a place and, if it has one, a number. -/
def volume (place : String) (number : Option String) : Record :=
  .ofList (("place", .ofText place) :: (number.map fun n => ("n", Value.ofText n)).toList)

/-- Five volumes on a list of its own, under a cursor; one number is blank, one is missing, and two are the
same. -/
def volumes : Session :=
  let list := [volume "b" (some "7"), volume "a" none, volume "A" (some "007"), volume "c" (some "10"),
    volume "d" (some "")]
  let context := Context.ofInputs "shelf" {}
  ⟨{ context with desk := { current := some (.own "shelf" list), cursor := some 2 } }, {}⟩

/-- The same numbers stay in their order in both directions, or come by place after a sorting by place. -/
theorem sort_stable_volumes :
    (volumes.sorting "n" true).look.records =
        [volume "c" (some "10"), volume "b" (some "7"), volume "A" (some "007"), volume "a" none,
          volume "d" (some "")] ∧
      (volumes.sorting "n" false).look.records =
        [volume "a" none, volume "d" (some ""), volume "b" (some "7"), volume "A" (some "007"),
          volume "c" (some "10")] ∧
      ((volumes.sorting "place" false).sorting "n" false).look.records =
        [volume "a" none, volume "d" (some ""), volume "A" (some "007"), volume "b" (some "7"),
          volume "c" (some "10")] ∧
      ListView.StablySorted (ListView.before "n" true) volumes.look.records
        (volumes.sorting "n" true).look.records ∧
      ListView.StablySorted (ListView.orElse (ListView.before "n" false) (ListView.before "place" false))
        volumes.look.records ((volumes.sorting "place" false).sorting "n" false).look.records := by
  have numbers : ListView.Numbers "n" volumes.look.records := by
    unfold ListView.Numbers
    decide +kernel
  have places : ListView.Texts "place" volumes.look.records := by
    unfold ListView.Texts
    decide +kernel
  exact ⟨by decide +kernel, by decide +kernel, by decide +kernel,
    ((sort_stable rfl "n" true).2.2.1 (.inl numbers)).2.1,
    ((sort_stable rfl "n" false).2.2.1 (.inl numbers)).2.2.2 "place" false (.inr places)⟩

/-- The numbers from twenty down to one, with `1a` among them. -/
def countdown : Session :=
  let numbers := ["20", "19", "18", "17", "16", "15", "14", "13", "12", "11", "1a", "10", "9", "8", "7", "6", "5",
    "4", "3", "2", "1"]
  let context := Context.ofInputs "count" {}
  ⟨{ context with desk := { current := some (.own "count" (numbers.map fun n => .ofList [("k", .ofText n)])) } }, {}⟩

/-- Twenty-one records of which one is no number break the run down. -/
theorem sort_breaks_countdown :
    countdown.look.records.length = 21 ∧ (countdown.exec (.list (.sort "k" false))).1 = .breakdown := by
  decide +kernel

end Session

end LineScript
