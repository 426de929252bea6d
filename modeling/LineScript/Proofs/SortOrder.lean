import LineScript.List.View

/-!
**Where the order of a sorted list is an order.**

Two values of a field are compared by number when both are numbers, and by text otherwise.  Each of the
two comparisons is a total preorder of all the values.  Together they are one as long as they do not
disagree across a third value: 10 comes before 1a and 1a comes before 2, by text, but 2 comes before 10
by number.  This module shows that such a *straddled* value is the only thing that can go wrong.

Main definitions:

* `LineScript.Value.byNumber`, `LineScript.Value.byText` — the two comparisons;
* `LineScript.Value.Chains` — a comparison is transitive at three values, and strict where either of its
  two links is;
* `LineScript.Value.Straddles` — two numbers stand on either side of a text and would be put otherwise by
  number.

Main results:

* `LineScript.Value.chains_of_transCmp` — a transitive comparison chains at any three values;
* `LineScript.Value.chains_of_not_straddles` — the order of a list chains at three values of which none is
  straddled;
* `LineScript.Value.compare_preorder_iff` — **the order is a total preorder on a column just if no value
  of it is straddled**;
* `LineScript.Value.compare_cycle` — a column of three values where it is not, and what sorting makes of
  it.
-/

set_option autoImplicit false

namespace LineScript

namespace Value

variable {a b c x y z : Value}

/-! ### The two comparisons -/

/-- By number. -/
def byNumber : Value → Value → Ordering := compareOn fun v => v.number.toInt

/-- By lower-cased text. -/
def byText : Value → Value → Ordering := compareOn fun v => Case.lowercase v.text

instance : Std.TransCmp byNumber := inferInstanceAs (Std.TransCmp (compareOn _))

instance : Std.TransCmp byText := inferInstanceAs (Std.TransCmp (compareOn _))

theorem compare_of_numeric (left : a.isNumeric) (right : b.isNumeric) : compare a b = byNumber a b := by
  simp [compare, byNumber, compareOn, left, right]

theorem compare_of_not_numeric (either : ¬ (a.isNumeric ∧ b.isNumeric)) : compare a b = byText a b := by
  simp [compare, byText, compareOn, either]

/-- Turned around, two values compare the other way: which comparison it is does not depend on the
side. -/
theorem compare_swap (a b : Value) : compare b a = (compare a b).swap := by
  by_cases both : a.isNumeric ∧ b.isNumeric
  · rw [compare_of_numeric both.1 both.2, compare_of_numeric both.2 both.1]
    exact Std.OrientedCmp.eq_swap
  · rw [compare_of_not_numeric both, compare_of_not_numeric fun h => both h.symm]
    exact Std.OrientedCmp.eq_swap

/-! ### Chains -/

/-- **The comparison chains at `a`, `b` and `c`**: if it puts `a` not after `b` and `b` not after `c`, it
puts `a` not after `c`, and level with it only if both were. -/
def Chains (cmp : Value → Value → Ordering) (a b c : Value) : Prop :=
  cmp a b ≠ .gt → cmp b c ≠ .gt → cmp a c ≠ .gt ∧ (cmp a c = .eq → cmp a b = .eq ∧ cmp b c = .eq)

/-- A transitive comparison chains at any three values. -/
theorem chains_of_transCmp (cmp : Value → Value → Ordering) [Std.TransCmp cmp] (a b c : Value) :
    Chains cmp a b c := by
  intro first second
  have whole : (cmp a c).isLE :=
    Std.TransCmp.isLE_trans (Ordering.isLE_iff_ne_gt.2 first) (Ordering.isLE_iff_ne_gt.2 second)
  refine ⟨Ordering.isLE_iff_ne_gt.1 whole, fun level => ?_⟩
  -- a link that is strict would make the whole strict
  constructor
  · rcases Ordering.isLE_iff_eq_lt_or_eq_eq.1 (Ordering.isLE_iff_ne_gt.2 first) with strict | same
    · have : cmp a c = .lt := Std.TransCmp.lt_of_lt_of_isLE strict (Ordering.isLE_iff_ne_gt.2 second)
      simp [level] at this
    · exact same
  · rcases Ordering.isLE_iff_eq_lt_or_eq_eq.1 (Ordering.isLE_iff_ne_gt.2 second) with strict | same
    · have : cmp a c = .lt := Std.TransCmp.lt_of_isLE_of_lt (Ordering.isLE_iff_ne_gt.2 first) strict
      simp [level] at this
    · exact same

/-! ### Straddled values -/

/-- **Two numbers straddle a value that is none**: by text it stands between them, and they themselves
would be put otherwise by number than by text. -/
structure Straddles (x z y : Value) : Prop where
  left : x.isNumeric
  right : y.isNumeric
  inner : ¬ z.isNumeric
  lower : byText x z ≠ .gt
  upper : byText z y ≠ .gt
  differ : byNumber x y ≠ byText x y

instance (x z y : Value) : Decidable (Straddles x z y) :=
  decidable_of_iff (x.isNumeric ∧ y.isNumeric ∧ ¬ z.isNumeric ∧ byText x z ≠ .gt ∧ byText z y ≠ .gt ∧
      byNumber x y ≠ byText x y)
    ⟨fun ⟨left, right, inner, lower, upper, differ⟩ => ⟨left, right, inner, lower, upper, differ⟩,
      fun s => ⟨s.left, s.right, s.inner, s.lower, s.upper, s.differ⟩⟩

/-- Around a value that is not straddled two numbers are in one order, or stand on one side of it. -/
theorem agree_or_aside (clear : ¬ Straddles x z y) (left : x.isNumeric) (right : y.isNumeric)
    (inner : ¬ z.isNumeric) :
    byNumber x y = byText x y ∨ byText z x = .lt ∨ byText y z = .lt := by
  rw [← Std.OrientedCmp.gt_iff_lt (a := x), ← Std.OrientedCmp.gt_iff_lt (a := z)]
  by_cases lower : byText x z = .gt
  · exact .inr (.inl lower)
  by_cases upper : byText z y = .gt
  · exact .inr (.inr upper)
  by_cases agree : byNumber x y = byText x y
  · exact .inl agree
  · exact absurd ⟨left, right, inner, lower, upper, agree⟩ clear

/-- Comparisons that agree on a pair agree on it turned around. -/
theorem agree_symm (agree : byNumber x y = byText x y) : byNumber y x = byText y x := by
  have number : byNumber y x = (byNumber x y).swap := Std.OrientedCmp.eq_swap
  have text : byText y x = (byText x y).swap := Std.OrientedCmp.eq_swap
  rw [number, text, agree]

/-- Where the two comparisons agree, the order of a list is the one by text. -/
theorem compare_of_agree (agree : byNumber a b = byText a b) : compare a b = byText a b := by
  by_cases both : a.isNumeric ∧ b.isNumeric
  · rw [compare_of_numeric both.1 both.2, agree]
  · exact compare_of_not_numeric both

/-- The order of a list chains where it is the one by text at all three pairs. -/
theorem chains_of_byText (first : compare a b = byText a b) (second : compare b c = byText b c)
    (whole : compare a c = byText a c) : Chains compare a b c := by
  rw [Chains, first, second, whole]
  exact chains_of_transCmp byText a b c

/-- It chains from a value that is no number, unless the other two straddle it. -/
theorem chains_first (text : ¬ a.isNumeric) (clear : ¬ Straddles c a b) : Chains compare a b c := by
  have first : compare a b = byText a b := compare_of_not_numeric fun both => text both.1
  have whole : compare a c = byText a c := compare_of_not_numeric fun both => text both.1
  by_cases both : b.isNumeric ∧ c.isNumeric
  · intro ab bc
    rcases agree_or_aside clear both.2 both.1 text with agree | below | above
    · exact chains_of_byText first (compare_of_agree (agree_symm agree)) whole ab bc
    · rw [whole, below]
      simp
    · -- the first link says otherwise
      rw [first] at ab
      exact absurd (Std.OrientedCmp.gt_iff_lt.2 above) ab
  · exact chains_of_byText first (compare_of_not_numeric both) whole

/-- It chains through a value that is no number, unless the other two straddle it. -/
theorem chains_middle (text : ¬ b.isNumeric) (clear : ¬ Straddles a b c) : Chains compare a b c := by
  have first : compare a b = byText a b := compare_of_not_numeric fun both => text both.2
  have second : compare b c = byText b c := compare_of_not_numeric fun both => text both.1
  by_cases both : a.isNumeric ∧ c.isNumeric
  · intro ab bc
    rcases agree_or_aside clear both.1 both.2 text with agree | below | above
    · exact chains_of_byText first second (compare_of_agree agree) ab bc
    · rw [first] at ab
      exact absurd (Std.OrientedCmp.gt_iff_lt.2 below) ab
    · rw [second] at bc
      exact absurd (Std.OrientedCmp.gt_iff_lt.2 above) bc
  · exact chains_of_byText first second (compare_of_not_numeric both)

/-- It chains up to a value that is no number, unless the other two straddle it. -/
theorem chains_last (text : ¬ c.isNumeric) (clear : ¬ Straddles b c a) : Chains compare a b c := by
  have second : compare b c = byText b c := compare_of_not_numeric fun both => text both.2
  have whole : compare a c = byText a c := compare_of_not_numeric fun both => text both.2
  by_cases both : a.isNumeric ∧ b.isNumeric
  · intro ab bc
    rcases agree_or_aside clear both.2 both.1 text with agree | below | above
    · exact chains_of_byText (compare_of_agree (agree_symm agree)) second whole ab bc
    · -- the second link says otherwise
      rw [second] at bc
      exact absurd (Std.OrientedCmp.gt_iff_lt.2 below) bc
    · rw [whole, above]
      simp
  · exact chains_of_byText (compare_of_not_numeric both) second whole

/-- The order of a list chains at three values of which none is straddled by the other two. -/
theorem chains_of_not_straddles (first : ¬ Straddles c a b) (middle : ¬ Straddles a b c)
    (last : ¬ Straddles b c a) : Chains compare a b c := by
  by_cases na : a.isNumeric
  · by_cases nb : b.isNumeric
    · by_cases nc : c.isNumeric
      · rw [Chains, compare_of_numeric na nb, compare_of_numeric nb nc, compare_of_numeric na nc]
        exact chains_of_transCmp byNumber a b c
      · exact chains_last nc last
    · exact chains_middle nb middle
  · exact chains_first na first

/-- A value through which the order of a list chains both ways is not straddled. -/
theorem not_straddles_of_chains (up : Chains compare x z y) (down : Chains compare y z x) :
    ¬ Straddles x z y := by
  intro ⟨left, right, inner, lower, upper, differ⟩
  have whole : compare x y = byNumber x y := compare_of_numeric left right
  have first : compare x z = byText x z := compare_of_not_numeric fun both => inner both.2
  have second : compare z y = byText z y := compare_of_not_numeric fun both => inner both.1
  rw [Chains, first, second, whole] at up
  obtain ⟨ordered, strict⟩ := up lower upper
  obtain ⟨ordered', strict'⟩ := chains_of_transCmp byText x z y lower upper
  cases text : byText x y with
  | gt => exact ordered' text
  | lt =>
      -- by number the two are level, so both links are, and so are the two by text
      have level : byNumber x y = .eq := by
        cases number : byNumber x y with
        | lt => exact absurd (number.trans text.symm) differ
        | eq => rfl
        | gt => exact absurd number ordered
      obtain ⟨sameLeft, sameRight⟩ := strict level
      have same : byText x y = .eq := Std.TransCmp.eq_trans sameLeft sameRight
      rw [text] at same
      cases same
  | eq =>
      -- by text all three are level, so that the chain down forbids what the chain up asks for
      obtain ⟨sameLeft, sameRight⟩ := strict' text
      have below : byNumber x y = .lt := by
        cases number : byNumber x y with
        | lt => rfl
        | eq => exact absurd (number.trans text.symm) differ
        | gt => exact absurd number ordered
      have back : compare y z ≠ .gt := by
        rw [compare_swap, second, sameRight]
        decide
      have forth : compare z x ≠ .gt := by
        rw [compare_swap, first, sameLeft]
        decide
      refine (down back forth).1 ?_
      rw [compare_swap, whole, below]
      rfl

/-! ### Columns -/

/-- **When the order of a list is a total preorder on a column**: turned around, two values always compare
the other way; and the order chains at all values of the column just if none of them is straddled by two
others. -/
theorem compare_preorder_iff (column : List Value) :
    (∀ a b : Value, compare b a = (compare a b).swap) ∧
      ((∀ a ∈ column, ∀ b ∈ column, ∀ c ∈ column, Chains compare a b c) ↔
        ∀ x ∈ column, ∀ z ∈ column, ∀ y ∈ column, ¬ Straddles x z y) := by
  refine ⟨compare_swap, ?_, ?_⟩
  · intro chains x hx z hz y hy
    exact not_straddles_of_chains (chains x hx z hz y hy) (chains y hy z hz x hx)
  · intro clear a ha b hb c hc
    exact chains_of_not_straddles (clear c hc a ha b hb) (clear a ha b hb c hc) (clear b hb c hc a ha)

/-- Numbers and texts in one column, of which none is straddled: the texts stand before or after all the
numbers. -/
def mixed : List Value := [ofText "x1", ofText "10", ofText "", ofText "9"]

/-- The numbers of it are not in the order of their texts, and the whole is in order all the same. -/
theorem compare_preorder_mixed :
    compare (ofText "9") (ofText "10") ≠ byText (ofText "9") (ofText "10") ∧
      Chains compare (ofText "9") (ofText "10") (ofText "x1") :=
  ⟨by decide +kernel, (compare_preorder_iff mixed).2.2 (by decide +kernel) _ (by simp [mixed])
    _ (by simp [mixed]) _ (by simp [mixed])⟩

/-- A record with one field. -/
def entry (text : String) : Record := .ofList [("k", ofText text)]

/-- **Not every column is in order**: 10 comes before 1a and 1a before 2, but 10 comes after 2.  So the
order in which the three are sorted depends on the one they had. -/
theorem compare_cycle :
    Straddles (ofText "10") (ofText "1a") (ofText "2") ∧
      compare (ofText "10") (ofText "1a") = .lt ∧ compare (ofText "1a") (ofText "2") = .lt ∧
      compare (ofText "10") (ofText "2") = .gt ∧
      ListView.sorted "k" false [entry "10", entry "1a", entry "2"] = [entry "10", entry "1a", entry "2"] ∧
      ListView.sorted "k" false [entry "2", entry "10", entry "1a"] =
        [entry "2", entry "10", entry "1a"] := by
  decide +kernel

end Value

end LineScript
