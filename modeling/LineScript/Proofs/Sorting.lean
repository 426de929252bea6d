import LineScript.List.Sorting

/-!
**Sorting keeps all items, and sorts stably where the order is one.**

An order by rank puts items in the order of a number.  Sorting by it never breaks down: the items end up
in the order of their ranks, and those of one rank as they stood.  Whatever the order, no item is lost or
made up, even where sorting breaks down.  Both are proved of each part of the algorithm at once.

Main definitions:

* `LineScript.Sorting.SameTies` — items of one rank stand in both lists alike;
* `LineScript.Sorting.Sorts` — the stably sorted form of a list;
* `LineScript.Sorting.Drawn`, `LineScript.Sorting.Ends` — what is drawn from two sequences, and from both ends;
* `LineScript.Sorting.Settles` — what a list is to be made into, by rank or not;
* `LineScript.Sorting.Yields` — **an attempt that breaks down only where the order is none**.

Main results:

* `LineScript.Sorting.exists_drawn` — what is drawn from two sequences, and what is left of them;
* `LineScript.Sorting.Ends.apart`, `LineScript.Sorting.mergeEnds_cases` — the ends do not draw the same item if
  the order is one, and merging from both ends;
* `LineScript.Sorting.yields_quicksort`, `LineScript.Sorting.yields_drift` — sorting by partition and by runs;
* `LineScript.Sorting.yields_sort` — **sorting**.
-/

set_option autoImplicit false

namespace LineScript.Sorting

variable {α : Type} {less : α → α → Bool} {rank : α → Int} {dom u v w old middle new : List α}

/-! ### Orders by rank -/

/-- The order goes by rank on some items, among which are those of a list. -/
structure Ranked (less : α → α → Bool) (rank : α → Int) (dom v : List α) : Prop where
  less_eq : ∀ x ∈ dom, ∀ y ∈ dom, less x y = decide (rank x < rank y)
  subset : ∀ x ∈ v, x ∈ dom

theorem Ranked.mono (h : Ranked less rank dom v) (hsub : ∀ x ∈ w, x ∈ v) : Ranked less rank dom w :=
  ⟨h.less_eq, fun x hx => h.subset x (hsub x hx)⟩

theorem Ranked.less_iff (h : Ranked less rank dom v) {x y : α} (hx : x ∈ v) (hy : y ∈ v) :
    less x y = true ↔ rank x < rank y := by
  rw [h.less_eq x (h.subset x hx) y (h.subset y hy), decide_eq_true_iff]

/-- The items of each rank stand in both lists alike. -/
def SameTies (rank : α → Int) (old new : List α) : Prop :=
  ∀ k, new.filter (fun x => rank x == k) = old.filter fun x => rank x == k

theorem SameTies.refl (rank : α → Int) (v : List α) : SameTies rank v v := fun _ => rfl

theorem SameTies.trans (h₁ : SameTies rank old middle) (h₂ : SameTies rank middle new) :
    SameTies rank old new :=
  fun k => (h₂ k).trans (h₁ k)

theorem SameTies.append (h₁ : SameTies rank old new) (h₂ : SameTies rank v w) :
    SameTies rank (old ++ v) (new ++ w) := by
  intro k
  rw [List.filter_append, List.filter_append, h₁ k, h₂ k]

theorem SameTies.cons (h : SameTies rank old new) (x : α) : SameTies rank (x :: old) (x :: new) :=
  (SameTies.refl rank [x]).append h

theorem SameTies.reverse (h : SameTies rank old new) : SameTies rank old.reverse new.reverse := by
  intro k
  rw [List.filter_reverse, List.filter_reverse, h k]

/-- Two items of different rank change places. -/
theorem sameTies_swap {x y : α} (hne : rank x ≠ rank y) (v : List α) :
    SameTies rank (x :: y :: v) (y :: x :: v) := by
  intro k
  by_cases hx : rank x = k
  · have hy : ¬ rank y = k := fun hy => hne (hx.trans hy.symm)
    simp [hx, hy]
  · simp [List.filter_cons, hx]

/-- Two stretches without a common rank change places. -/
theorem sameTies_append_comm (hne : ∀ x ∈ u, ∀ y ∈ v, rank x ≠ rank y) : SameTies rank (u ++ v) (v ++ u) := by
  intro k
  rw [List.filter_append, List.filter_append]
  by_cases hk : u.filter (fun x => rank x == k) = []
  · simp [hk]
  · have hv : v.filter (fun x => rank x == k) = [] := by
      obtain ⟨x, hx⟩ := List.exists_mem_of_ne_nil _ hk
      simp only [List.mem_filter, beq_iff_eq] at hx
      refine List.filter_eq_nil_iff.2 fun y hy hyk => hne x hx.1 y hy ?_
      exact hx.2.trans (beq_iff_eq.1 hyk).symm
    simp [hv]

/-- In the order of rank. -/
abbrev Ordered (rank : α → Int) (v : List α) : Prop := v.Pairwise fun x y => rank x ≤ rank y

/-- **The stably sorted form of a list**, by rank. -/
structure Sorts (rank : α → Int) (old new : List α) : Prop where
  ties : SameTies rank old new
  ordered : Ordered rank new

/-- A list that is in order is the only stably sorted form of itself. -/
theorem Sorts.eq_of_ordered (h : Sorts rank old new) (hperm : new.Perm old) (hold : Ordered rank old) :
    new = old := by
  induction old generalizing new with
  | nil => exact hperm.eq_nil
  | cons x old ih =>
      obtain ⟨y, new, rfl⟩ : ∃ y ys, new = y :: ys := by
        refine List.exists_cons_of_ne_nil fun hnil => ?_
        simp [hnil] at hperm
      obtain ⟨hx, hold'⟩ := List.pairwise_cons.1 hold
      obtain ⟨hy, hnew'⟩ := List.pairwise_cons.1 h.ordered
      have hyx : rank y ≤ rank x := by
        rcases List.mem_cons.1 (hperm.mem_iff.2 (List.mem_cons_self : x ∈ x :: old)) with rfl | hmem
        · exact Int.le_refl _
        · exact hy x hmem
      have hxy : rank x ≤ rank y := by
        rcases List.mem_cons.1 (hperm.mem_iff.1 (List.mem_cons_self : y ∈ y :: new)) with rfl | hmem
        · exact Int.le_refl _
        · exact hx y hmem
      have hrank : rank y = rank x := Int.le_antisymm hyx hxy
      -- both stand first among the items of their rank
      have hfirst := h.ties (rank x)
      simp only [List.filter_cons, hrank, beq_self_eq_true, if_true, List.cons.injEq] at hfirst
      obtain ⟨rfl, -⟩ := hfirst
      have hties : SameTies rank old new := by
        intro k
        have hk := h.ties k
        rw [List.filter_cons, List.filter_cons] at hk
        split at hk
        · exact (List.cons.inj hk).2
        · exact hk
      rw [ih ⟨hties, hnew'⟩ hperm.cons_inv hold']

/-- The same items, of which those of one rank are left as they stood. -/
structure Keeps (less : α → α → Bool) (rank : α → Int) (dom old new : List α) : Prop where
  perm : new.Perm old
  ties : Ranked less rank dom old → SameTies rank old new

theorem Keeps.refl (less : α → α → Bool) (rank : α → Int) (dom v : List α) : Keeps less rank dom v v :=
  ⟨.refl v, fun _ => .refl rank v⟩

theorem Keeps.ranked (h : Keeps less rank dom old new) (hold : Ranked less rank dom old) :
    Ranked less rank dom new :=
  hold.mono fun _ => h.perm.mem_iff.1

theorem Keeps.trans (h₁ : Keeps less rank dom old middle) (h₂ : Keeps less rank dom middle new) :
    Keeps less rank dom old new :=
  ⟨h₂.perm.trans h₁.perm, fun hold => (h₁.ties hold).trans (h₂.ties (h₁.ranked hold))⟩

theorem Keeps.append (h₁ : Keeps less rank dom old new) (h₂ : Keeps less rank dom v w) :
    Keeps less rank dom (old ++ v) (new ++ w) where
  perm := h₁.perm.append h₂.perm
  ties h := (h₁.ties (h.mono fun _ => List.mem_append_left v)).append
    (h₂.ties (h.mono fun _ => List.mem_append_right old))

/-- **What a list is to be made into**: a list of the same items, which is stably sorted if the order goes by
rank. -/
structure Settles (less : α → α → Bool) (rank : α → Int) (dom old new : List α) : Prop
    extends Keeps less rank dom old new where
  ordered : Ranked less rank dom old → Ordered rank new

theorem Keeps.settles (h₁ : Keeps less rank dom old middle) (h₂ : Settles less rank dom middle new) :
    Settles less rank dom old new :=
  ⟨h₁.trans h₂.toKeeps, fun hold => h₂.ordered (h₁.ranked hold)⟩

/-- Two parts that are sorted already are merged. -/
theorem Settles.merged {u' v' : List α} (h₁ : Settles less rank dom u u') (h₂ : Settles less rank dom v v')
    (hperm : w.Perm (u' ++ v'))
    (hsorts : Ranked less rank dom (u' ++ v') → Ordered rank u' → Ordered rank v' → Sorts rank (u' ++ v') w) :
    Settles less rank dom (u ++ v) w := by
  have hkeeps := h₁.toKeeps.append h₂.toKeeps
  have hall (h : Ranked less rank dom (u ++ v)) : Sorts rank (u' ++ v') w :=
    hsorts (hkeeps.ranked h) (h₁.ordered (h.mono fun _ => List.mem_append_left v))
      (h₂.ordered (h.mono fun _ => List.mem_append_right u))
  exact ⟨⟨hperm.trans hkeeps.perm, fun h => (hkeeps.ties h).trans (hall h).ties⟩, fun h => (hall h).ordered⟩

/-! ### Insertion -/

theorem perm_insertLast (less : α → α → Bool) (x : α) (done : List α) :
    (insertLast less x done).Perm (x :: done) := by
  induction done with
  | nil => exact .refl _
  | cons y ys ih =>
      rw [insertLast]
      split
      · exact (ih.cons y).trans (.swap x y ys)
      · exact .refl _

/-- Putting in an item keeps items in order and comes last among its rank.  The sequence goes from the last
item to the first. -/
theorem sorts_insertLast {x : α} {done : List α} (h : Ranked less rank dom (x :: done))
    (hdone : done.Pairwise fun a b => rank b ≤ rank a) :
    (insertLast less x done).Pairwise (fun a b => rank b ≤ rank a) ∧
      SameTies rank (x :: done) (insertLast less x done) := by
  induction done with
  | nil => exact ⟨by simp [insertLast], .refl _ _⟩
  | cons y ys ih =>
      obtain ⟨hy, hys⟩ := List.pairwise_cons.1 hdone
      have hless : less x y = true ↔ rank x < rank y := h.less_iff (by simp) (by simp)
      rw [insertLast]
      split
      next hxy =>
        have hlt : rank x < rank y := hless.1 hxy
        obtain ⟨hpair, hties⟩ := ih (h.mono fun z hz => by grind) hys
        refine ⟨List.pairwise_cons.2 ⟨fun z hz => ?_, hpair⟩, ?_⟩
        · rcases List.mem_cons.1 ((perm_insertLast less x ys).mem_iff.1 hz) with rfl | hz
          · omega
          · exact hy z hz
        · exact (sameTies_swap (by omega) ys).trans (hties.cons y)
      next hxy =>
        have hle : rank y ≤ rank x := by
          rw [hless] at hxy
          omega
        refine ⟨List.pairwise_cons.2 ⟨fun z hz => ?_, hdone⟩, .refl _ _⟩
        rcases List.mem_cons.1 hz with rfl | hz
        · exact hle
        · exact Int.le_trans (hy z hz) hle

theorem perm_foldl_insertLast (less : α → α → Bool) (rest done : List α) :
    (rest.foldl (fun done x => insertLast less x done) done).Perm (rest.reverse ++ done) := by
  induction rest generalizing done with
  | nil => exact .refl _
  | cons x rest ih =>
      rw [List.reverse_cons, List.append_assoc]
      exact (ih (insertLast less x done)).trans ((perm_insertLast less x done).append_left _)

theorem sorts_foldl_insertLast {rest done : List α} (h : Ranked less rank dom (rest ++ done))
    (hdone : done.Pairwise fun a b => rank b ≤ rank a) :
    (rest.foldl (fun done x => insertLast less x done) done).Pairwise (fun a b => rank b ≤ rank a) ∧
      SameTies rank (rest.reverse ++ done) (rest.foldl (fun done x => insertLast less x done) done) := by
  induction rest generalizing done with
  | nil => exact ⟨hdone, .refl _ _⟩
  | cons x rest ih =>
      have hmem : ∀ y, y ∈ insertLast less x done ↔ y ∈ x :: done :=
        fun y => (perm_insertLast less x done).mem_iff
      obtain ⟨hpair, hties⟩ := sorts_insertLast (h.mono (w := x :: done) (by grind)) hdone
      obtain ⟨hpair', hties'⟩ := ih (h.mono (w := rest ++ insertLast less x done) (by grind)) hpair
      refine ⟨hpair', ?_⟩
      rw [List.reverse_cons, List.append_assoc]
      exact ((SameTies.refl rank rest.reverse).append hties).trans hties'

/-- Items are put into items that are in order. -/
theorem settles_insertAll {front : List α} (rest : List α)
    (hfront : Ranked less rank dom front → Ordered rank front) :
    Settles less rank dom (front ++ rest) (insertAll less front rest) := by
  have hperm : (insertAll less front rest).Perm (front ++ rest) := by
    have hfold := perm_foldl_insertLast less rest front.reverse
    rw [← List.reverse_append] at hfold
    exact (List.reverse_perm _).trans (hfold.trans (List.reverse_perm _))
  have hsorts (h : Ranked less rank dom (front ++ rest)) :
      Sorts rank (front ++ rest) (insertAll less front rest) := by
    have hdown : front.reverse.Pairwise fun a b => rank b ≤ rank a :=
      List.pairwise_reverse.2 (hfront (h.mono (by simp +contextual)))
    obtain ⟨hpair, hties⟩ := sorts_foldl_insertLast (h.mono (w := rest ++ front.reverse) (by grind)) hdown
    refine ⟨?_, List.pairwise_reverse.2 hpair⟩
    have hback := hties.reverse
    rwa [← List.reverse_append, List.reverse_reverse] at hback
  exact ⟨⟨hperm, fun h => (hsorts h).ties⟩, fun h => (hsorts h).ordered⟩

theorem settles_insertAll_nil (less : α → α → Bool) (rank : α → Int) (dom v : List α) :
    Settles less rank dom v (insertAll less [] v) :=
  settles_insertAll v fun _ => .nil

/-! ### Small sorts -/

theorem perm_mergePairs (less : α → α → Bool) (a b c d : α) :
    (mergePairs less a b c d).Perm [a, b, c, d] := by
  classical
  refine List.perm_iff_count.2 fun x => ?_
  unfold mergePairs
  grind

/-- Two pairs in order.  What is exchanged differs in rank. -/
theorem sorts_mergePairs {a b c d : α} (h : Ranked less rank dom [a, b, c, d]) (hab : rank a ≤ rank b)
    (hcd : rank c ≤ rank d) : Sorts rank [a, b, c, d] (mergePairs less a b c d) := by
  have hless : ∀ x ∈ [a, b, c, d], ∀ y ∈ [a, b, c, d], less x y = decide (rank x < rank y) :=
    fun x hx y hy => h.less_eq x (h.subset x hx) y (h.subset y hy)
  simp only [List.mem_cons, List.not_mem_nil, or_false, forall_eq_or_imp, forall_eq] at hless
  have hca : less c a = decide (rank c < rank a) := by simp only [hless]
  have hdb : less d b = decide (rank d < rank b) := by simp only [hless]
  by_cases hearly : rank c < rank a
  · have hfront : SameTies rank [a, b, c, d] [c, a, b, d] :=
      (sameTies_append_comm (u := [a, b]) (v := [c]) (by simp; omega)).append (.refl _ [d])
    by_cases hlate : rank d < rank b
    · by_cases hda : rank d < rank a
      · have hshape : mergePairs less a b c d = [c, d, a, b] := by
          simp [mergePairs, hca, hdb, hearly, hlate, hless, hda]
        rw [hshape]
        exact ⟨sameTies_append_comm (u := [a, b]) (v := [c, d]) (by simp; omega), by simp; omega⟩
      · have hshape : mergePairs less a b c d = [c, a, d, b] := by
          simp [mergePairs, hca, hdb, hearly, hlate, hless, hda]
        rw [hshape]
        refine ⟨hfront.trans ?_, by simp; omega⟩
        exact ((sameTies_swap (by omega) []).cons a).cons c
    · have hba : ¬ rank b < rank a := by omega
      have hshape : mergePairs less a b c d = [c, a, b, d] := by
        simp [mergePairs, hca, hdb, hearly, hlate, hless, hba]
      rw [hshape]
      exact ⟨hfront, by simp; omega⟩
  · by_cases hlate : rank d < rank b
    · have hdc : ¬ rank d < rank c := by omega
      have hshape : mergePairs less a b c d = [a, c, d, b] := by
        simp [mergePairs, hca, hdb, hearly, hlate, hless, hdc]
      rw [hshape]
      refine ⟨SameTies.cons ?_ a, by simp; omega⟩
      exact sameTies_append_comm (u := [b]) (v := [c, d]) (by simp; omega)
    · by_cases hcb : rank c < rank b
      · have hshape : mergePairs less a b c d = [a, c, b, d] := by
          simp [mergePairs, hca, hdb, hearly, hlate, hless, hcb]
        rw [hshape]
        exact ⟨(sameTies_swap (by omega) [d]).cons a, by simp; omega⟩
      · have hshape : mergePairs less a b c d = [a, b, c, d] := by
          simp [mergePairs, hca, hdb, hearly, hlate, hless, hcb]
        rw [hshape]
        exact ⟨.refl _ _, by simp; omega⟩

/-- A pair in order. -/
theorem settles_pair (less : α → α → Bool) (rank : α → Int) (dom : List α) (p q : α) :
    Settles less rank dom [p, q] (if less q p then [q, p] else [p, q]) := by
  have hless (h : Ranked less rank dom [p, q]) : less q p = true ↔ rank q < rank p :=
    h.less_iff (by simp) (by simp)
  split
  next hqp =>
    refine ⟨⟨.swap p q [], fun h => sameTies_swap ?_ []⟩, fun h => ?_⟩
    · have hlt := (hless h).1 hqp
      omega
    · have hlt := (hless h).1 hqp
      simp only [List.pairwise_pair]
      omega
  next hqp =>
    refine ⟨.refl _ _ _ _, fun h => ?_⟩
    rw [hless h] at hqp
    simp only [List.pairwise_pair]
    omega

theorem settles_sortFour (less : α → α → Bool) (rank : α → Int) (dom : List α) (p q r s : α) :
    Settles less rank dom [p, q, r, s] (sortFour less p q r s) := by
  have hmerge {a b c d : α} (h₁ : Settles less rank dom [p, q] [a, b])
      (h₂ : Settles less rank dom [r, s] [c, d]) :
      Settles less rank dom [p, q, r, s] (mergePairs less a b c d) :=
    h₁.merged h₂ (perm_mergePairs less a b c d) fun h hab hcd =>
      sorts_mergePairs h (by simpa using hab) (by simpa using hcd)
  have h₁ := settles_pair less rank dom p q
  have h₂ := settles_pair less rank dom r s
  unfold sortFour
  cases hqp : less q p <;> cases hsr : less s r <;>
    · rw [hqp] at h₁
      rw [hsr] at h₂
      exact hmerge h₁ h₂

theorem settles_sortHalf (less : α → α → Bool) (rank : α → Int) (dom : List α) (fours : Bool) (v : List α) :
    Settles less rank dom v (sortHalf less fours v) := by
  unfold sortHalf
  split
  · rename_i p q r s rest
    split
    · have hfour := settles_sortFour less rank dom p q r s
      have hfront := hfour.toKeeps.append (.refl less rank dom rest)
      refine hfront.settles (settles_insertAll rest fun h => hfour.ordered ?_)
      exact h.mono fun _ => hfour.perm.mem_iff.2
    · exact settles_insertAll_nil less rank dom _
  · exact settles_insertAll_nil less rank dom v

/-! ### Drawing -/

/-- What is drawn from two sequences and what is left of them: the items that were used up in each, and if
both are in order by a key, how they compare with those that are left of the other. -/
structure Drawn (first : α → α → Bool) (n : Nat) (xs ys drawn xs' ys' used used' : List α) : Prop where
  left : xs = used ++ xs'
  right : ys = used' ++ ys'
  perm : drawn.Perm (used ++ used')
  length : n ≤ xs.length → n ≤ ys.length → drawn.length = n
  emptied : xs.length + ys.length ≤ n → xs' = [] ∨ ys' = []
  sorts : ∀ key : α → Int, (∀ x ∈ xs, ∀ y ∈ ys, first x y = decide (key x ≤ key y)) →
    Ordered key xs → Ordered key ys →
      Sorts key (used ++ used') drawn ∧ (∀ x ∈ used, ∀ y ∈ ys', key x ≤ key y) ∧
        ∀ y ∈ used', ∀ x ∈ xs', key y < key x

namespace Drawn

variable {first : α → α → Bool} {n : Nat} {x y : α} {xs ys drawn xs' ys' used used' : List α}

/-- One more item is drawn from the first sequence. -/
theorem consLeft (h : Drawn first n xs (y :: ys) drawn xs' ys' used used') (hfirst : first x y = true) :
    Drawn first (n + 1) (x :: xs) (y :: ys) (x :: drawn) xs' ys' (x :: used) used' := by
  refine ⟨?_, h.right, h.perm.cons x, ?_, ?_, fun key hkey hxs hys => ?_⟩
  · rw [h.left]
    rfl
  · intro hn hn'
    have hlen := h.length (by simpa using hn) (by omega)
    simp [hlen]
  · intro hn
    exact h.emptied (by simp at hn ⊢; omega)
  · obtain ⟨hx, hxs'⟩ := List.pairwise_cons.1 hxs
    obtain ⟨hsorts, hleft, hright⟩ := h.sorts key (fun a ha => hkey a (by simp [ha])) hxs' hys
    have hxy : key x ≤ key y := by
      have := hkey x (by simp) y (by simp)
      rw [hfirst] at this
      simpa using this.symm
    -- the item comes before all of its own sequence, and before all of the other
    have hall : ∀ z ∈ y :: ys, key x ≤ key z := by
      intro z hz
      rcases List.mem_cons.1 hz with rfl | hz
      · exact hxy
      · exact Int.le_trans hxy ((List.pairwise_cons.1 hys).1 z hz)
    refine ⟨⟨hsorts.ties.cons x, List.pairwise_cons.2 ⟨fun z hz => ?_, hsorts.ordered⟩⟩, ?_, hright⟩
    · rcases List.mem_append.1 (h.perm.mem_iff.1 hz) with hz | hz
      · exact hx z (by rw [h.left]; simp [hz])
      · exact hall z (by rw [h.right]; simp [hz])
    · intro z hz t ht
      rcases List.mem_cons.1 hz with rfl | hz
      · exact hall t (by rw [h.right]; simp [ht])
      · exact hleft z hz t ht

/-- One more item is drawn from the second sequence. -/
theorem consRight (h : Drawn first n (x :: xs) ys drawn xs' ys' used used') (hfirst : first x y = false) :
    Drawn first (n + 1) (x :: xs) (y :: ys) (y :: drawn) xs' ys' used (y :: used') := by
  refine ⟨h.left, ?_, (h.perm.cons y).trans List.perm_middle.symm, ?_, ?_, fun key hkey hxs hys => ?_⟩
  · rw [h.right]
    rfl
  · intro hn hn'
    have hlen := h.length (by omega) (by simpa using hn')
    simp [hlen]
  · intro hn
    exact h.emptied (by simp at hn ⊢; omega)
  · obtain ⟨hy, hys'⟩ := List.pairwise_cons.1 hys
    obtain ⟨hsorts, hleft, hright⟩ := h.sorts key (fun a ha b hb => hkey a ha b (by simp [hb])) hxs hys'
    have hyx : key y < key x := by
      have := hkey x (by simp) y (by simp)
      rw [hfirst] at this
      simpa using this.symm
    have hall : ∀ z ∈ x :: xs, key y < key z := by
      intro z hz
      rcases List.mem_cons.1 hz with rfl | hz
      · exact hyx
      · exact Int.lt_of_lt_of_le hyx ((List.pairwise_cons.1 hxs).1 z hz)
    have hused : ∀ z ∈ used, key y < key z := fun z hz => hall z (by rw [h.left]; simp [hz])
    have hties : SameTies key (used ++ y :: used') (y :: (used ++ used')) := by
      have hpass : SameTies key (used ++ [y]) ([y] ++ used) := sameTies_append_comm (by grind)
      have := hpass.append (.refl key used')
      simpa using this
    refine ⟨⟨hties.trans (hsorts.ties.cons y), List.pairwise_cons.2 ⟨fun z hz => ?_, hsorts.ordered⟩⟩,
      hleft, ?_⟩
    · rcases List.mem_append.1 (h.perm.mem_iff.1 hz) with hz | hz
      · exact Int.le_of_lt (hused z hz)
      · exact hy z (by rw [h.right]; simp [hz])
    · intro z hz t ht
      rcases List.mem_cons.1 hz with rfl | hz
      · exact hall t (by rw [h.left]; simp [ht])
      · exact hright z hz t ht

end Drawn

/-- Nothing is drawn where nothing is wanted or one of the sequences is used up. -/
theorem drawn_nothing {n : Nat} {xs ys : List α} (first : α → α → Bool)
    (hstop : n = 0 ∨ xs = [] ∨ ys = []) : Drawn first n xs ys [] xs ys [] [] := by
  refine ⟨rfl, rfl, .refl _, fun hn hn' => ?_, fun hn => ?_, fun key _ _ _ => ?_⟩
  · rcases hstop with rfl | rfl | rfl
    · rfl
    · exact (Nat.le_zero.1 hn).symm
    · exact (Nat.le_zero.1 hn').symm
  · rcases hstop with rfl | hnil | hnil
    · exact .inl (List.eq_nil_of_length_eq_zero (by omega))
    · exact .inl hnil
    · exact .inr hnil
  · exact ⟨⟨.refl _ _, .nil⟩, by simp, by simp⟩

theorem exists_drawn (first : α → α → Bool) (n : Nat) (xs ys : List α) : ∃ used used',
    Drawn first n xs ys (draw first n xs ys).1 (draw first n xs ys).2.1 (draw first n xs ys).2.2 used used' := by
  fun_induction draw first n xs ys with
  | case1 n x xs y ys hfirst drawn xs' ys' hdraw ih =>
      rw [hdraw] at ih
      obtain ⟨used, used', ih⟩ := ih
      exact ⟨x :: used, used', ih.consLeft hfirst⟩
  | case2 n x xs y ys hfirst drawn xs' ys' hdraw ih =>
      rw [hdraw] at ih
      obtain ⟨used, used', ih⟩ := ih
      exact ⟨used, y :: used', ih.consRight (Bool.eq_false_iff.2 hfirst)⟩
  | case3 n xs ys hstop =>
      refine ⟨[], [], drawn_nothing first ?_⟩
      match n, xs, ys with
      | 0, _, _ => exact .inl rfl
      | _ + 1, [], _ => exact .inr (.inl rfl)
      | _ + 1, _ :: _, [] => exact .inr (.inr rfl)
      | n + 1, x :: xs, y :: ys => exact (hstop n x xs y ys rfl rfl rfl).elim

/-! ### Merging -/

/-- What is in order by one key is so by the opposite key from the other end. -/
theorem Ordered.reverse (h : Ordered rank v) : Ordered (fun x => -rank x) v.reverse := by
  refine List.pairwise_reverse.2 (h.imp fun {x y} hxy => ?_)
  show -rank y ≤ -rank x
  omega

theorem Sorts.reverse (h : Sorts (fun x => -rank x) old new) : Sorts rank old.reverse new.reverse where
  ties := by
    refine SameTies.reverse fun k => ?_
    have hk := h.ties (-k)
    have hsame : (fun x => -rank x == -k) = fun x => rank x == k := by
      funext x
      simp only [Bool.beq_eq_decide_eq, decide_eq_decide]
      omega
    rwa [hsame] at hk
  ordered := by
    refine List.pairwise_reverse.2 (h.ordered.imp fun {x y} hxy => ?_)
    have hxy : -rank x ≤ -rank y := hxy
    omega

/-- Two sequences in order are drawn until they are used up. -/
theorem sorts_drawAll {first : α → α → Bool} {key : α → Int} {xs ys : List α}
    (hkey : ∀ x ∈ xs, ∀ y ∈ ys, first x y = decide (key x ≤ key y)) (hxs : Ordered key xs)
    (hys : Ordered key ys) : Sorts key (xs ++ ys) (drawAll first xs ys) := by
  obtain ⟨used, used', h⟩ := exists_drawn first (xs.length + ys.length) xs ys
  obtain ⟨hsorts, hleft, hright⟩ := h.sorts key hkey hxs hys
  unfold drawAll
  generalize draw first (xs.length + ys.length) xs ys = r at h hsorts hleft hright ⊢
  obtain ⟨drawn, xs', ys'⟩ := r
  have hx := h.left
  have hy := h.right
  dsimp only at h hsorts hleft hright hx hy ⊢
  have hxs' := hx ▸ hxs
  have hys' := hy ▸ hys
  have hties : SameTies key (xs ++ ys) (drawn ++ (xs' ++ ys')) := by
    -- what was used up of the second sequence comes before what is left of the first
    have hpass : SameTies key (xs' ++ used') (used' ++ xs') := sameTies_append_comm (by grind)
    have hmoved := ((SameTies.refl key used).append hpass).append (.refl key ys')
    have hdrawn := hsorts.ties.append (.refl key (xs' ++ ys'))
    rw [hx, hy]
    refine SameTies.trans ?_ hdrawn
    simpa using hmoved
  refine ⟨hties, List.pairwise_append.2 ⟨hsorts.ordered, ?_, fun x hx' y hy' => ?_⟩⟩
  · rcases h.emptied (Nat.le_refl _) with rfl | rfl
    · exact (List.pairwise_append.1 hys').2.1
    · simpa using (List.pairwise_append.1 hxs').2.1
  · have hcross := (List.pairwise_append.1 hxs').2.2
    have hcross' := (List.pairwise_append.1 hys').2.2
    rcases List.mem_append.1 (h.perm.mem_iff.1 hx') with hx' | hx' <;>
      rcases List.mem_append.1 hy' with hy' | hy'
    · exact hcross x hx' y hy'
    · exact hleft x hx' y hy'
    · exact Int.le_of_lt (hright x hx' y hy')
    · exact hcross' x hx' y hy'

theorem perm_drawAll (first : α → α → Bool) (xs ys : List α) : (drawAll first xs ys).Perm (xs ++ ys) := by
  classical
  obtain ⟨used, used', h⟩ := exists_drawn first (xs.length + ys.length) xs ys
  unfold drawAll
  generalize draw first (xs.length + ys.length) xs ys = r at h ⊢
  obtain ⟨drawn, xs', ys'⟩ := r
  refine List.perm_iff_count.2 fun a => ?_
  have hx := congrArg (List.count a) h.left
  have hy := congrArg (List.count a) h.right
  have hperm := h.perm.count_eq a
  simp only [List.count_append] at hx hy hperm ⊢
  omega

theorem perm_merge (less : α → α → Bool) (xs ys : List α) : (merge less xs ys).Perm (xs ++ ys) := by
  unfold merge
  split
  · exact perm_drawAll _ xs ys
  · have hback := perm_drawAll (fun y x => !less y x) ys.reverse xs.reverse
    rw [← List.reverse_append] at hback
    exact (List.reverse_perm _).trans (hback.trans (List.reverse_perm _))

theorem not_less_eq {xs ys : List α} (h : Ranked less rank dom (xs ++ ys)) :
    ∀ x ∈ xs, ∀ y ∈ ys, (!less y x) = decide (rank x ≤ rank y) := by
  intro x hx y hy
  rw [h.less_eq y (h.subset y (by simp [hy])) x (h.subset x (by simp [hx])), ← decide_not]
  simp only [Int.not_lt]

theorem not_less_eq_reverse {xs ys : List α} (h : Ranked less rank dom (xs ++ ys)) :
    ∀ y ∈ ys.reverse, ∀ x ∈ xs.reverse, (!less y x) = decide (-rank y ≤ -rank x) := by
  intro y hy x hx
  rw [not_less_eq h x (List.mem_reverse.1 hx) y (List.mem_reverse.1 hy), decide_eq_decide]
  omega

theorem sorts_merge {xs ys : List α} (h : Ranked less rank dom (xs ++ ys)) (hxs : Ordered rank xs)
    (hys : Ordered rank ys) : Sorts rank (xs ++ ys) (merge less xs ys) := by
  unfold merge
  split
  · exact sorts_drawAll (not_less_eq h) hxs hys
  · have hback := sorts_drawAll (not_less_eq_reverse h) hys.reverse hxs.reverse
    simpa using hback.reverse

/-! ### Merging from both ends -/

/-- Two beginnings of a sequence, of which one is longer, leave an item between them. -/
theorem exists_between {xs front rest begin rest' : List α} (h : xs = front ++ rest) (h' : xs = begin ++ rest')
    (hlt : begin.length < front.length) : ∃ x ∈ front, x ∈ rest' := by
  rcases List.append_eq_append_iff.1 (h.symm.trans h') with ⟨z, rfl, -⟩ | ⟨z, rfl, rfl⟩
  · rw [List.length_append] at hlt
    omega
  · obtain ⟨x, hx⟩ := List.exists_mem_of_ne_nil z fun hz => by simp [hz] at hlt
    exact ⟨x, by simp [hx], by simp [hx]⟩

/-- What is left in a sequence by what is drawn from its front is what neither end draws, and then what is
drawn from its back. -/
theorem eq_take_append_reverse {xs used rest back rest' : List α} (h : xs = used ++ rest)
    (h' : xs.reverse = back ++ rest') (hle : xs.length ≤ rest.length + rest'.length) :
    rest = rest.take (rest.length + rest'.length - xs.length) ++ back.reverse ∧
      rest'.reverse = used ++ rest.take (rest.length + rest'.length - xs.length) := by
  have hxs : xs = rest'.reverse ++ back.reverse := by
    rw [← List.reverse_append, ← h', List.reverse_reverse]
  have hlen := congrArg List.length h
  have hshort : used.length ≤ rest'.reverse.length := by
    rw [List.length_append] at hlen
    rw [List.length_reverse]
    omega
  obtain ⟨z, hz⟩ := List.prefix_of_prefix_length_le ⟨rest, h.symm⟩ ⟨back.reverse, hxs.symm⟩ hshort
  have hrest : rest = z ++ back.reverse := by
    rw [h, ← hz, List.append_assoc] at hxs
    exact List.append_cancel_left hxs
  have htake : rest.take (rest.length + rest'.length - xs.length) = z := by
    have hn : rest.length + rest'.length - xs.length = z.length := by
      have := congrArg List.length hz
      simp only [List.length_append, List.length_reverse] at this hlen
      omega
    rw [hn, hrest, List.take_left]
  rw [htake]
  exact ⟨hrest, hz.symm⟩

/-- Two sequences in three parts each: the first parts are merged in front and the last parts at the back, and
at most one item is between them. -/
theorem sorts_ends {x₀ x₁ x₂ y₀ y₁ y₂ front back : List α} (hfront : Sorts rank (x₀ ++ y₀) front)
    (hback : Sorts rank (x₂ ++ y₂) back) (hperm : front.Perm (x₀ ++ y₀)) (hperm' : back.Perm (x₂ ++ y₂))
    (hxs : Ordered rank (x₀ ++ (x₁ ++ x₂))) (hys : Ordered rank (y₀ ++ (y₁ ++ y₂)))
    (hx₀ : ∀ x ∈ x₀, ∀ y ∈ y₁ ++ y₂, rank x ≤ rank y) (hy₀ : ∀ y ∈ y₀, ∀ x ∈ x₁ ++ x₂, rank y < rank x)
    (hx₁ : ∀ x ∈ x₁, ∀ y ∈ y₂, rank x ≤ rank y) (hy₁ : ∀ y ∈ y₁, ∀ x ∈ x₂, rank y < rank x)
    (hone : (x₁ ++ y₁).length ≤ 1) :
    Sorts rank ((x₀ ++ (x₁ ++ x₂)) ++ (y₀ ++ (y₁ ++ y₂))) (front ++ (x₁ ++ y₁) ++ back) := by
  have hties : SameTies rank ((x₀ ++ (x₁ ++ x₂)) ++ (y₀ ++ (y₁ ++ y₂))) (front ++ (x₁ ++ y₁) ++ back) := by
    have hpass : SameTies rank ((x₁ ++ x₂) ++ y₀) (y₀ ++ (x₁ ++ x₂)) := sameTies_append_comm (by grind)
    have hpass' : SameTies rank (x₂ ++ y₁) (y₁ ++ x₂) := sameTies_append_comm (by grind)
    have hswap : SameTies rank (x₀ ++ (x₁ ++ x₂) ++ (y₀ ++ (y₁ ++ y₂)))
        (x₀ ++ y₀ ++ (x₁ ++ (x₂ ++ y₁) ++ y₂)) := by
      simpa using ((SameTies.refl rank x₀).append hpass).append (.refl rank (y₁ ++ y₂))
    have hswap' := (SameTies.refl rank (x₀ ++ y₀)).append
      (((SameTies.refl rank x₁).append hpass').append (.refl rank y₂))
    have hmerged : SameTies rank (x₀ ++ y₀ ++ (x₁ ++ (y₁ ++ x₂) ++ y₂)) (front ++ (x₁ ++ y₁) ++ back) := by
      simpa using (hfront.ties.append (.refl rank (x₁ ++ y₁))).append hback.ties
    exact (hswap.trans hswap').trans hmerged
  obtain ⟨-, -, hcrossx⟩ := List.pairwise_append.1 hxs
  obtain ⟨-, -, hcrossy⟩ := List.pairwise_append.1 hys
  obtain ⟨-, -, hcrossx'⟩ := List.pairwise_append.1 (List.pairwise_append.1 hxs).2.1
  obtain ⟨-, -, hcrossy'⟩ := List.pairwise_append.1 (List.pairwise_append.1 hys).2.1
  -- the front is before the middle and the back, which are made of the same parts
  have hbefore : ∀ a ∈ front, ∀ b, b ∈ x₁ ++ x₂ ∨ b ∈ y₁ ++ y₂ → rank a ≤ rank b := by
    intro a ha b hb
    rcases List.mem_append.1 (hperm.mem_iff.1 ha) with ha | ha <;> rcases hb with hb | hb
    · exact hcrossx a ha b hb
    · exact hx₀ a ha b hb
    · exact Int.le_of_lt (hy₀ a ha b hb)
    · exact hcrossy a ha b hb
  have hmiddle : (x₁ ++ y₁).Pairwise fun x y => rank x ≤ rank y := by
    match x₁ ++ y₁, hone with
    | [], _ => exact .nil
    | [x], _ => exact List.pairwise_singleton _ x
  refine ⟨hties, List.pairwise_append.2 ⟨List.pairwise_append.2 ⟨hfront.ordered, hmiddle, ?_⟩,
    hback.ordered, ?_⟩⟩
  · exact fun a ha b hb => hbefore a ha b (by grind)
  · intro a ha b hb
    have hb := List.mem_append.1 (hperm'.mem_iff.1 hb)
    rcases List.mem_append.1 ha with ha | ha
    · exact hbefore a ha b (by grind)
    · rcases List.mem_append.1 ha with ha | ha <;> rcases hb with hb | hb
      · exact hcrossx' a ha b hb
      · exact hx₁ a ha b hb
      · exact Int.le_of_lt (hy₁ a ha b hb)
      · exact hcrossy' a ha b hb

/-- What is drawn from both ends of two halves, and what each end leaves of them. -/
structure Ends (less : α → α → Bool) (xs ys front xs₁ ys₁ back ys₂ xs₂ x₀ y₀ y₂ x₂ : List α) : Prop where
  front : Drawn (fun x y => !less y x) xs.length xs ys front xs₁ ys₁ x₀ y₀
  back : Drawn (fun y x => !less y x) xs.length ys.reverse xs.reverse back ys₂ xs₂ y₂ x₂
  le : xs.length ≤ ys.length
  le' : ys.length ≤ xs.length + 1

namespace Ends

variable {xs ys front xs₁ ys₁ back ys₂ xs₂ x₀ y₀ y₂ x₂ : List α}

/-- Each end draws as many items as the first half has. -/
theorem counts (e : Ends less xs ys front xs₁ ys₁ back ys₂ xs₂ x₀ y₀ y₂ x₂) :
    (x₀.length + y₀.length = xs.length ∧ y₂.length + x₂.length = xs.length) ∧
      (xs.length = x₀.length + xs₁.length ∧ ys.length = y₀.length + ys₁.length) ∧
      xs.length = x₂.length + xs₂.length ∧ ys.length = y₂.length + ys₂.length := by
  have hcount := e.front.length (Nat.le_refl _) e.le
  have hcount' := e.back.length (by simpa using e.le) (by simp)
  have hused := e.front.perm.length_eq
  have hused' := e.back.perm.length_eq
  have hlenx := congrArg List.length e.front.left
  have hleny := congrArg List.length e.front.right
  have hlenx' := congrArg List.length e.back.right
  have hleny' := congrArg List.length e.back.left
  simp only [List.length_append, List.length_reverse] at hused hused' hlenx hleny hlenx' hleny'
  omega

/-- **If the order goes by rank the ends never draw the same item**: one of them would have to draw it before
an item of the other sequence, and the other one after it. -/
theorem apart (e : Ends less xs ys front xs₁ ys₁ back ys₂ xs₂ x₀ y₀ y₂ x₂)
    (h : Ranked less rank dom (xs ++ ys)) (hxs : Ordered rank xs) (hys : Ordered rank ys) :
    xs.length ≤ xs₁.length + xs₂.length ∧ ys.length ≤ ys₁.length + ys₂.length := by
  obtain ⟨-, hleft, hright⟩ := e.front.sorts rank (not_less_eq h) hxs hys
  obtain ⟨-, hleft', hright'⟩ :=
    e.back.sorts (fun x => -rank x) (not_less_eq_reverse h) hys.reverse hxs.reverse
  have hx : xs = xs₂.reverse ++ x₂.reverse := by
    rw [← List.reverse_append, ← e.back.right, List.reverse_reverse]
  have hy : ys = ys₂.reverse ++ y₂.reverse := by
    rw [← List.reverse_append, ← e.back.left, List.reverse_reverse]
  have hcounts := e.counts
  have hle := e.le
  have hle' := e.le'
  refine ⟨Nat.not_lt.1 fun hover => ?_, Nat.not_lt.1 fun hover => ?_⟩
  · -- an item of the first sequence is drawn twice, and so one of the second is left out
    obtain ⟨x, hfrontx, hbackx⟩ := exists_between e.front.left hx (by simp; omega)
    obtain ⟨y, hresty, hresty'⟩ := exists_between hy e.front.right (by simp; omega)
    have hfirst := hleft x hfrontx y hresty'
    have hlast := hright' x (List.mem_reverse.1 hbackx) y (List.mem_reverse.1 hresty)
    omega
  · obtain ⟨y, hfronty, hbacky⟩ := exists_between e.front.right hy (by simp; omega)
    obtain ⟨x, hrestx, hrestx'⟩ := exists_between hx e.front.left (by simp; omega)
    have hfirst := hright y hfronty x hrestx'
    have hlast := hleft' y (List.mem_reverse.1 hbacky) x (List.mem_reverse.1 hrestx)
    omega

/-- The items in the middle, which neither end has drawn. -/
def between (xs ys xs₁ ys₁ ys₂ xs₂ : List α) : List α :=
  xs₁.take (xs₁.length + xs₂.length - xs.length) ++ ys₁.take (ys₁.length + ys₂.length - ys.length)

/-- The halves in three parts each, if the ends do not draw the same item. -/
theorem parts (e : Ends less xs ys front xs₁ ys₁ back ys₂ xs₂ x₀ y₀ y₂ x₂)
    (hsplit : xs.length ≤ xs₁.length + xs₂.length ∧ ys.length ≤ ys₁.length + ys₂.length) :
    ∃ x₁ y₁, between xs ys xs₁ ys₁ ys₂ xs₂ = x₁ ++ y₁ ∧
      (xs₁ = x₁ ++ x₂.reverse ∧ ys₁ = y₁ ++ y₂.reverse) ∧
      xs₂.reverse = x₀ ++ x₁ ∧ ys₂.reverse = y₀ ++ y₁ := by
  obtain ⟨hrestx, hbeginx⟩ := eq_take_append_reverse e.front.left e.back.right hsplit.1
  obtain ⟨hresty, hbeginy⟩ := eq_take_append_reverse e.front.right e.back.left hsplit.2
  exact ⟨_, _, rfl, ⟨hrestx, hresty⟩, hbeginx, hbeginy⟩

theorem perm (e : Ends less xs ys front xs₁ ys₁ back ys₂ xs₂ x₀ y₀ y₂ x₂)
    (hsplit : xs.length ≤ xs₁.length + xs₂.length ∧ ys.length ≤ ys₁.length + ys₂.length) :
    (front ++ between xs ys xs₁ ys₁ ys₂ xs₂ ++ back.reverse).Perm (xs ++ ys) := by
  classical
  obtain ⟨x₁, y₁, hmiddle, ⟨hrestx, hresty⟩, -⟩ := e.parts hsplit
  refine List.perm_iff_count.2 fun a => ?_
  have hperm := e.front.perm.count_eq a
  have hperm' := e.back.perm.count_eq a
  have hx := congrArg (List.count a) e.front.left
  have hy := congrArg (List.count a) e.front.right
  rw [hrestx] at hx
  rw [hresty] at hy
  rw [hmiddle]
  simp only [List.count_append, List.count_reverse] at hperm hperm' hx hy ⊢
  omega

theorem sorts (e : Ends less xs ys front xs₁ ys₁ back ys₂ xs₂ x₀ y₀ y₂ x₂)
    (hsplit : xs.length ≤ xs₁.length + xs₂.length ∧ ys.length ≤ ys₁.length + ys₂.length)
    (h : Ranked less rank dom (xs ++ ys)) (hxs : Ordered rank xs) (hys : Ordered rank ys) :
    Sorts rank (xs ++ ys) (front ++ between xs ys xs₁ ys₁ ys₂ xs₂ ++ back.reverse) := by
  obtain ⟨x₁, y₁, hmiddle, ⟨hrestx, hresty⟩, hbeginx, hbeginy⟩ := e.parts hsplit
  obtain ⟨hsorts, hleft, hright⟩ := e.front.sorts rank (not_less_eq h) hxs hys
  obtain ⟨hsorts', hleft', hright'⟩ :=
    e.back.sorts (fun x => -rank x) (not_less_eq_reverse h) hys.reverse hxs.reverse
  have hatBack : Sorts rank (x₂.reverse ++ y₂.reverse) back.reverse := by simpa using hsorts'.reverse
  have hpermBack : back.reverse.Perm (x₂.reverse ++ y₂.reverse) := by
    rw [← List.reverse_append]
    exact (List.reverse_perm back).trans (e.back.perm.trans (List.reverse_perm _).symm)
  have hin : ∀ x ∈ x₁, x ∈ xs₂ := fun x hx => List.mem_reverse.1 (by simp [hbeginx, hx])
  have hin' : ∀ y ∈ y₁, y ∈ ys₂ := fun y hy => List.mem_reverse.1 (by simp [hbeginy, hy])
  have hone : (x₁ ++ y₁).length ≤ 1 := by
    have hlen := congrArg List.length hrestx
    have hlen' := congrArg List.length hresty
    have hcounts := e.counts
    have hle' := e.le'
    simp only [List.length_append, List.length_reverse] at hlen hlen' ⊢
    omega
  have hx : xs = x₀ ++ (x₁ ++ x₂.reverse) := hrestx ▸ e.front.left
  have hy : ys = y₀ ++ (y₁ ++ y₂.reverse) := hresty ▸ e.front.right
  rw [hx] at hxs
  rw [hy] at hys
  rw [hmiddle, hx, hy]
  refine sorts_ends hsorts hatBack e.front.perm hpermBack hxs hys ?_ ?_ ?_ ?_ hone
  · exact fun x hx y hy => hleft x hx y (hresty ▸ hy)
  · exact fun y hy x hx => hright y hy x (hrestx ▸ hx)
  · intro x hx y hy
    have := hleft' y (List.mem_reverse.1 hy) x (hin x hx)
    omega
  · intro y hy x hx
    have := hright' x (List.mem_reverse.1 hx) y (hin' y hy)
    omega

end Ends

/-- **Merging from both ends** merges two halves that are in order, and breaks down only where the order is
none. -/
theorem mergeEnds_cases {xs ys : List α} (less : α → α → Bool) (rank : α → Int) (dom : List α)
    (hle : xs.length ≤ ys.length) (hle' : ys.length ≤ xs.length + 1) :
    (∃ w, mergeEnds less xs ys = .ok w ∧ w.Perm (xs ++ ys) ∧
        (Ranked less rank dom (xs ++ ys) → Ordered rank xs → Ordered rank ys → Sorts rank (xs ++ ys) w)) ∨
      (mergeEnds less xs ys = .error (xs ++ ys) ∧
        (Ranked less rank dom (xs ++ ys) → Ordered rank xs → Ordered rank ys → False)) := by
  obtain ⟨x₀, y₀, hfront⟩ := exists_drawn (fun x y => !less y x) xs.length xs ys
  obtain ⟨y₂, x₂, hback⟩ := exists_drawn (fun y x => !less y x) xs.length ys.reverse xs.reverse
  unfold mergeEnds
  generalize draw (fun x y => !less y x) xs.length xs ys = r at hfront ⊢
  generalize draw (fun y x => !less y x) xs.length ys.reverse xs.reverse = r' at hback ⊢
  have e : Ends less xs ys r.1 r.2.1 r.2.2 r'.1 r'.2.1 r'.2.2 x₀ y₀ y₂ x₂ := ⟨hfront, hback, hle, hle'⟩
  dsimp only
  split
  next hsplit => exact .inl ⟨_, rfl, e.perm hsplit, e.sorts hsplit⟩
  next hsplit => exact .inr ⟨rfl, fun h hxs hys => hsplit (e.apart h hxs hys)⟩

/-! ### Attempts -/

/-- **An attempt that breaks down only where the order is none**: it has a result as it is wanted, or leaves
the same items and the order does not go by rank. -/
def Yields {β : Type} (less : α → α → Bool) (rank : α → Int) (dom v : List α) (wanted : β → Prop) :
    Attempt α β → Prop
  | .ok b => wanted b
  | .error w => w.Perm v ∧ ¬ Ranked less rank dom v

namespace Yields

variable {β γ : Type} {wanted : β → Prop} {wanted' : γ → Prop} {r : Attempt α β}

theorem bind {f : β → Attempt α γ} (h : Yields less rank dom v wanted r)
    (hf : ∀ b, wanted b → Yields less rank dom v wanted' (f b)) :
    Yields less rank dom v wanted' (r >>= f) := by
  cases r with
  | ok b => exact hf b h
  | error w => exact h

/-- An attempt at a part of the items. -/
theorem mapError {g : List α → List α} (h : Yields less rank dom v wanted r)
    (hperm : ∀ w, w.Perm v → (g w).Perm u) (hsub : ∀ x ∈ v, x ∈ u) :
    Yields less rank dom u wanted (r.mapError g) := by
  cases r with
  | ok b => exact h
  | error w => exact ⟨hperm w h.1, fun hu => h.2 (hu.mono hsub)⟩

theorem map {f : β → γ} (h : Yields less rank dom v wanted r) (hf : ∀ b, wanted b → wanted' (f b)) :
    Yields less rank dom v wanted' (r.map f) := by
  cases r with
  | ok b => exact hf b h
  | error w => exact h

end Yields

/-- An attempt to sort keeps the items, and sorts them if the order goes by rank. -/
theorem Yields.items_perm {r : Attempt α (List α)} (h : Yields less rank dom v (Settles less rank dom v) r) :
    r.items.Perm v := by
  cases r with
  | ok w => exact h.perm
  | error w => exact h.1

theorem Yields.exists_sorts {r : Attempt α (List α)} (h : Yields less rank dom v (Settles less rank dom v) r)
    (hv : Ranked less rank dom v) : ∃ w, r = .ok w ∧ Sorts rank v w := by
  cases r with
  | ok w => exact ⟨w, rfl, h.ties hv, h.ordered hv⟩
  | error w => exact (h.2 hv).elim

theorem yields_sortSmall (less : α → α → Bool) (rank : α → Int) (dom v : List α) :
    Yields less rank dom v (Settles less rank dom v) (sortSmall less v) := by
  have hleft := settles_sortHalf less rank dom (decide (8 ≤ v.length)) (v.take (v.length / 2))
  have hright := settles_sortHalf less rank dom (decide (8 ≤ v.length)) (v.drop (v.length / 2))
  have hlen := hleft.perm.length_eq
  have hlen' := hright.perm.length_eq
  rw [List.length_take] at hlen
  rw [List.length_drop] at hlen'
  have hparts : v.take (v.length / 2) ++ v.drop (v.length / 2) = v := List.take_append_drop _ v
  have hkeeps := hleft.toKeeps.append hright.toKeeps
  unfold sortSmall
  dsimp only
  generalize sortHalf less _ (v.take (v.length / 2)) = xs at hleft hlen hkeeps ⊢
  generalize sortHalf less _ (v.drop (v.length / 2)) = ys at hright hlen' hkeeps ⊢
  have hle : xs.length ≤ ys.length := by omega
  have hle' : ys.length ≤ xs.length + 1 := by omega
  rcases mergeEnds_cases less rank dom hle hle' with ⟨w, hw, hperm, hsorts⟩ | ⟨hbroken, hnot⟩
  · rw [hw]
    have hmerged := hleft.merged hright hperm hsorts
    rwa [hparts] at hmerged
  · rw [hbroken]
    rw [hparts] at hkeeps
    refine ⟨hkeeps.perm, fun h => hnot (hkeeps.ranked h) (hleft.ordered (h.mono ?_))
      (hright.ordered (h.mono ?_))⟩
    · exact fun _ => List.mem_of_mem_take
    · exact fun _ => List.mem_of_mem_drop

/-! ### Runs -/

theorem chain_isPrefix (next : α → α → Bool) (x : α) (v : List α) : chain next x v <+: v := by
  induction v generalizing x with
  | nil => exact List.prefix_refl _
  | cons y v ih =>
      rw [chain]
      split
      · exact (List.prefix_cons_inj y).2 (ih y)
      · exact List.nil_prefix

theorem pairwise_chain {R : α → α → Prop} {next : α → α → Bool} {x : α}
    (htrans : ∀ a b c, R a b → R b c → R a c)
    (hnext : ∀ a ∈ x :: chain next x v, ∀ b ∈ x :: chain next x v, next a b = true → R a b) :
    (x :: chain next x v).Pairwise R := by
  induction v generalizing x with
  | nil => exact List.pairwise_singleton R x
  | cons y v ih =>
      by_cases hxy : next x y = true
      · simp only [chain, hxy, if_true] at hnext ⊢
        have hlink : R x y := hnext x (by simp) y (by simp) hxy
        have hrest := ih (x := y) fun a ha b hb =>
          hnext a (List.mem_cons_of_mem x ha) b (List.mem_cons_of_mem x hb)
        refine List.pairwise_cons.2 ⟨fun z hz => ?_, hrest⟩
        rcases List.mem_cons.1 hz with rfl | hz
        · exact hlink
        · exact htrans x y z hlink ((List.pairwise_cons.1 hrest).1 z hz)
      · simp only [chain, hxy]
        exact List.pairwise_singleton R x

/-- Where all ranks differ, every order keeps the ties. -/
theorem sameTies_reverse (h : v.Pairwise fun x y => rank y < rank x) : SameTies rank v v.reverse := by
  intro k
  have hone : (v.filter fun x => rank x == k).length ≤ 1 := by
    have hpair := h.filter fun x => rank x == k
    match hv : v.filter fun x => rank x == k with
    | [] => simp
    | [x] => simp
    | x :: y :: rest =>
        rw [hv] at hpair
        have hx : x ∈ v.filter fun x => rank x == k := by simp [hv]
        have hy : y ∈ v.filter fun x => rank x == k := by simp [hv]
        have hlt := (List.pairwise_cons.1 hpair).1 y (by simp)
        simp only [List.mem_filter, beq_iff_eq] at hx hy
        omega
  rw [List.filter_reverse]
  match v.filter (fun x => rank x == k), hone with
  | [], _ => rfl
  | [x], _ => rfl

/-- The run at the front is made of the first items. -/
theorem settles_firstRun (less : α → α → Bool) (rank : α → Int) (dom v : List α) :
    Settles less rank dom (v.take (firstRun less v).length) (firstRun less v) := by
  match v with
  | [] => exact ⟨.refl _ _ _ _, fun _ => .nil⟩
  | [x] => exact ⟨.refl _ _ _ _, fun _ => List.pairwise_singleton _ x⟩
  | x :: y :: rest =>
      have htake (next : α → α → Bool) : (x :: y :: rest).take (x :: chain next x (y :: rest)).length =
          x :: chain next x (y :: rest) :=
        (List.prefix_iff_eq_take.1 ((List.prefix_cons_inj x).2 (chain_isPrefix next x (y :: rest)))).symm
      rw [firstRun]
      split
      · -- downwards no two items are level, so that the run may be turned around
        have hdown (h : Ranked less rank dom (x :: chain (fun a b => less b a) x (y :: rest))) :
            (x :: chain (fun a b => less b a) x (y :: rest)).Pairwise fun a b => rank b < rank a :=
          pairwise_chain (fun a b c hab hbc => by omega) fun a ha b hb hab => (h.less_iff hb ha).1 hab
        rw [List.length_reverse, htake]
        exact ⟨⟨List.reverse_perm _, fun h => sameTies_reverse (hdown h)⟩, fun h =>
          List.pairwise_reverse.2 ((hdown h).imp fun hlt => Int.le_of_lt hlt)⟩
      · rw [htake]
        refine ⟨.refl _ _ _ _, fun h => pairwise_chain (fun a b c hab hbc => by omega) fun a ha b hb hab => ?_⟩
        have hless := h.less_iff hb ha
        simp only [Bool.not_eq_true'] at hab
        simp only [hab, Bool.false_eq_true, false_iff] at hless
        omega

/-- A run of some items: it has these items, sorted if it says so, and always if there is no later. -/
structure Run.Holds (less : α → α → Bool) (rank : α → Int) (dom : List α) (later : Later α) (v : List α)
    (r : Run α) : Prop where
  keeps : Keeps less rank dom v r.items
  ordered : r.sorted = true → Ranked less rank dom v → Ordered rank r.items
  eager : later = none → r.sorted = true

/-- What is sorted later is sorted well. -/
def Later.Sound (less : α → α → Bool) (rank : α → Int) (dom : List α) (later : Later α) : Prop :=
  ∀ sort, later = some sort → ∀ v, Yields less rank dom v (Settles less rank dom v) (sort v)

variable {later : Later α}

theorem sound_none : Later.Sound less rank dom none := fun _ h => nomatch h

theorem Run.Holds.settle {r : Run α} (h : r.Holds less rank dom later v)
    (hlater : later.Sound less rank dom) :
    Yields less rank dom v (Settles less rank dom v) (r.settle later) := by
  unfold Run.settle
  cases later with
  | none => exact ⟨h.keeps, h.ordered (h.eager rfl)⟩
  | some sort =>
      cases hr : r.sorted with
      | true => exact ⟨h.keeps, h.ordered hr⟩
      | false =>
          have hsort := hlater sort rfl r.items
          simp only [Bool.false_eq_true, if_false]
          cases hresult : sort r.items with
          | ok w =>
              rw [hresult] at hsort
              exact h.keeps.settles hsort
          | error w =>
              rw [hresult] at hsort
              exact ⟨hsort.1.trans h.keeps.perm, fun hv => hsort.2 (h.keeps.ranked hv)⟩

/-- The next run is made of the first items, and of one at least. -/
theorem yields_nextRun (less : α → α → Bool) (rank : α → Int) (dom : List α) (later : Later α) {enough : Nat}
    (hpos : 0 < enough) (v : List α) :
    Yields less rank dom v
      (fun r => r.Holds less rank dom later (v.take r.items.length) ∧ (v ≠ [] → 0 < r.items.length))
      (nextRun less later enough v) := by
  have htake (n : Nat) : v.take (v.take n).length = v.take n := by
    rw [List.take_eq_take_iff, List.length_take]
    omega
  have hsome (n : Nat) (hn : 0 < n) (hv : v ≠ []) : 0 < (v.take n).length := by
    have := List.length_pos_iff.2 hv
    rw [List.length_take]
    omega
  unfold nextRun
  dsimp only
  by_cases hrun : enough ≤ (firstRun less v).length
  · rw [if_pos hrun]
    have hfirst := settles_firstRun less rank dom v
    exact ⟨⟨hfirst.toKeeps, fun _ => hfirst.ordered, fun _ => rfl⟩, fun _ => Nat.lt_of_lt_of_le hpos hrun⟩
  · rw [if_neg hrun]
    cases later with
    | some sort =>
        refine ⟨⟨?_, nofun, nofun⟩, hsome enough hpos⟩
        dsimp only
        rw [htake]
        exact .refl _ _ _ _
    | none =>
        have hsmall := yields_sortSmall less rank dom (v.take smallSize)
        refine (hsmall.mapError (u := v) (fun w hw => ?_) fun _ => List.mem_of_mem_take).bind fun w hw => ?_
        · have := hw.append_right (v.drop smallSize)
          rwa [List.take_append_drop] at this
        · have hlen := hw.perm.length_eq
          refine ⟨⟨?_, fun _ h => ?_, fun _ => rfl⟩, fun hv => ?_⟩
          · dsimp only
            rw [hlen, htake]
            exact hw.toKeeps
          · dsimp only at h ⊢
            rw [hlen, htake] at h
            exact hw.ordered h
          · dsimp only
            rw [hlen]
            exact hsome smallSize (by decide) hv

theorem Run.Holds.join {left right : Run α} (hu : left.Holds less rank dom later u)
    (hv : right.Holds less rank dom later v) (hlater : later.Sound less rank dom) (room : Nat) :
    Yields less rank dom (u ++ v) (Run.Holds less rank dom later (u ++ v)) (join less later room left right) := by
  unfold Sorting.join
  split
  next hboth =>
    refine ⟨hu.keeps.append hv.keeps, nofun, fun hnone => ?_⟩
    have := hu.eager hnone
    simp [this] at hboth
  next =>
    refine ((hu.settle hlater).mapError (fun w hw => hw.append hv.keeps.perm)
      fun _ => List.mem_append_left v).bind fun xs hxs => ?_
    refine ((hv.settle hlater).mapError (fun w hw => hxs.perm.append hw)
      fun _ => List.mem_append_right u).bind fun ys hys => ?_
    have hmerged := hxs.merged hys (perm_merge less xs ys) sorts_merge
    exact ⟨hmerged.toKeeps, fun _ => hmerged.ordered, fun _ => rfl⟩

/-! ### The tree of merges -/

/-- The runs that wait, and the items they were made of. -/
inductive Waiting.Holds (less : α → α → Bool) (rank : α → Int) (dom : List α) (later : Later α) :
    List α → Waiting α → Prop
  | nil : Holds less rank dom later [] []
  | cons {u v : List α} {waiting : Waiting α} {r : Run α} {depth : Nat} (hu : Holds less rank dom later u waiting)
      (hv : r.Holds less rank dom later v) : Holds less rank dom later (u ++ v) ((r, depth) :: waiting)

theorem Waiting.Holds.perm {waiting : Waiting α} (h : waiting.Holds less rank dom later u) :
    waiting.items.Perm u := by
  induction h with
  | nil => exact .refl _
  | cons _ hv ih => exact ih.append hv.keeps.perm

theorem yields_joinDeeper {waiting : Waiting α} {last : Run α} (hlater : later.Sound less rank dom)
    (room depth : Nat) (hu : waiting.Holds less rank dom later u) (hv : last.Holds less rank dom later v) :
    Yields less rank dom (u ++ v)
      (fun r => ∃ u' v', u' ++ v' = u ++ v ∧ r.1.Holds less rank dom later u' ∧
        r.2.Holds less rank dom later v' ∧ (depth = 0 → r.1 = []))
      (joinDeeper less later room depth waiting last) := by
  induction hu generalizing v last with
  | nil => exact ⟨[], v, rfl, .nil, hv, fun _ => rfl⟩
  | @cons u u' waiting run d hu hrun ih =>
      rw [joinDeeper]
      split
      · have hjoin := hrun.join hv hlater room
        refine (hjoin.mapError (u := u ++ u' ++ v) (fun w hw => ?_) (by simp +contextual)).bind
          fun joined hjoined => ?_
        · rw [List.append_assoc]
          exact hu.perm.append hw
        · rw [List.append_assoc]
          exact ih hjoined
      next hlt => exact ⟨u ++ u', v, rfl, .cons hu hrun, hv, fun h => by omega⟩

theorem yields_driftFrom {waiting : Waiting α} {last : Run α} (hlater : later.Sound less rank dom)
    (room scale : Nat) {enough : Nat} (hpos : 0 < enough) (place : Nat) (rest : List α)
    (hu : waiting.Holds less rank dom later u) (hv : last.Holds less rank dom later v) :
    Yields less rank dom (u ++ v ++ rest) (Settles less rank dom (u ++ v ++ rest))
      (driftFrom less later room scale enough waiting last place rest) := by
  fun_induction driftFrom less later room scale enough waiting last place rest generalizing u v with
  | case1 waiting last place =>
      rw [List.append_nil]
      refine (yields_joinDeeper hlater room 0 hu hv).bind fun r hr => ?_
      obtain ⟨u', v', hsame, hwaiting, hlast, hnil⟩ := hr
      have hall : v' = u ++ v := by
        have hempty := hnil rfl
        rw [hempty] at hwaiting
        cases hwaiting
        exact hsame
      rw [← hall]
      exact hlast.settle hlater
  | case2 waiting last place x rest middle =>
      rename_i ih
      have hnext := yields_nextRun less rank dom later hpos (x :: rest)
      refine (hnext.mapError (u := u ++ v ++ x :: rest) (fun w hw => ?_) fun _ => List.mem_append_right _).bind
        fun next ⟨hnext, hlen⟩ => ?_
      · exact (hu.perm.append hv.keeps.perm).append hw
      have hparts : (x :: rest).take next.items.length ++ rest.drop (next.items.length - 1) = x :: rest := by
        have hdrop : rest.drop (next.items.length - 1) = (x :: rest).drop next.items.length := by
          obtain ⟨n, hn⟩ : ∃ n, next.items.length = n + 1 := ⟨next.items.length - 1, by
            have := hlen (by simp)
            omega⟩
          simp [hn]
        rw [hdrop, List.take_append_drop]
      have hsplit (t : List α) : t ++ x :: rest =
          t ++ (x :: rest).take next.items.length ++ rest.drop (next.items.length - 1) := by
        rw [List.append_assoc, hparts]
      refine ((yields_joinDeeper hlater room _ hu hv).mapError (u := u ++ v ++ x :: rest) (fun w hw => ?_)
        fun _ => List.mem_append_left _).bind fun r hr => ?_
      · rw [hsplit, ← List.append_assoc]
        exact (hw.append hnext.keeps.perm).append_right _
      · obtain ⟨u', v', hsame, hwaiting, hlast, -⟩ := hr
        rw [hsplit, ← hsame]
        exact ih next r.1 r.2 (.cons hwaiting hlast) hnext

theorem enoughOf_pos {count : Nat} (hpos : 0 < count) : 0 < enoughOf count := by
  unfold enoughOf rootOf
  split
  · omega
  · have hlog : 1 ≤ count.log2 := (Nat.le_log2 (by omega)).2 (by omega)
    have htwo : 2 ^ 1 ≤ 1 <<< ((1 + count.log2) / 2) := by
      rw [Nat.one_shiftLeft]
      exact Nat.pow_le_pow_right (by omega) (by omega)
    exact Nat.div_pos (Nat.le_trans htwo (Nat.le_add_right _ _)) (by omega)

/-- **Sorting by the runs there are.** -/
theorem yields_drift (hlater : later.Sound less rank dom) (room : Nat) (v : List α) :
    Yields less rank dom v (Settles less rank dom v) (drift less later room v) := by
  cases v with
  | nil =>
      have hnil : drift less later room [] = .ok [] := by
        cases later <;>
          simp [drift, nextRun, firstRun, enoughOf, driftFrom, joinDeeper, Run.settle, bind, Except.bind]
      rw [hnil]
      exact ⟨.refl _ _ _ _, fun _ => .nil⟩
  | cons x rest =>
      have hpos : 0 < enoughOf (x :: rest).length := enoughOf_pos (by simp)
      refine (yields_nextRun less rank dom later hpos (x :: rest)).bind fun first hfirst => ?_
      have hrest := yields_driftFrom hlater room (((1 <<< 62) + (x :: rest).length - 1) / (x :: rest).length) hpos 0
        ((x :: rest).drop first.items.length) .nil hfirst.1
      rwa [List.nil_append, List.take_append_drop] at hrest

/-! ### Partition -/

/-- Parting items keeps those of one rank as they stood, if each rank is all in one part. -/
theorem keeps_parted {p : α → Bool}
    (hlt : Ranked less rank dom v → ∀ x ∈ v, ∀ y ∈ v, p x = true → p y = false → rank x < rank y) :
    Keeps less rank dom v (v.filter p ++ v.filter fun x => !p x) := by
  refine ⟨List.filter_append_perm p v, fun h k => ?_⟩
  rw [List.filter_append, List.filter_filter, List.filter_filter]
  by_cases hk : ∃ x ∈ v, rank x = k ∧ p x = true
  · obtain ⟨x, hx, hxk, hpx⟩ := hk
    have hin : ∀ y ∈ v, rank y = k → p y = true := by
      intro y hy hyk
      by_cases hpy : p y = true
      · exact hpy
      · have := hlt h x hx y hy hpx (by simpa using hpy)
        omega
    have h₁ : v.filter (fun y => rank y == k && p y) = v.filter fun y => rank y == k :=
      List.filter_congr fun y hy => by
        by_cases hyk : rank y = k <;> simp [hyk, hin y hy]
    have h₂ : v.filter (fun y => rank y == k && !p y) = [] :=
      List.filter_eq_nil_iff.2 fun y hy => by
        by_cases hyk : rank y = k <;> simp [hyk, hin y hy]
    rw [h₁, h₂, List.append_nil]
  · have h₁ : v.filter (fun y => rank y == k && p y) = [] :=
      List.filter_eq_nil_iff.2 fun y hy => by
        by_cases hyk : rank y = k
        · simp only [hyk, beq_self_eq_true, Bool.true_and]
          exact fun hpy => hk ⟨y, hy, hyk, hpy⟩
        · simp [hyk]
    have h₂ : v.filter (fun y => rank y == k && !p y) = v.filter fun y => rank y == k :=
      List.filter_congr fun y hy => by
        by_cases hyk : rank y = k
        · have hpy : p y = false := by
            by_cases hpy : p y = true
            · exact (hk ⟨y, hy, hyk, hpy⟩).elim
            · simpa using hpy
          simp [hyk, hpy]
        · simp [hyk]
    rw [h₁, h₂, List.nil_append]

/-- Two parts of which the first has the lower ranks are sorted one by one. -/
theorem settles_parted {p : α → Bool} {left right : List α} (hleft : Settles less rank dom (v.filter p) left)
    (hright : Settles less rank dom (v.filter fun x => !p x) right)
    (hlt : Ranked less rank dom v → ∀ x ∈ v, ∀ y ∈ v, p x = true → p y = false → rank x < rank y) :
    Settles less rank dom v (left ++ right) := by
  refine ⟨(keeps_parted hlt).trans (hleft.toKeeps.append hright.toKeeps), fun h => ?_⟩
  have hleft' := hleft.ordered (h.mono fun _ hx => (List.mem_filter.1 hx).1)
  have hright' := hright.ordered (h.mono fun _ hx => (List.mem_filter.1 hx).1)
  refine List.pairwise_append.2 ⟨hleft', hright', fun x hx y hy => ?_⟩
  have hx := List.mem_filter.1 (hleft.perm.mem_iff.1 hx)
  have hy := List.mem_filter.1 (hright.perm.mem_iff.1 hy)
  exact Int.le_of_lt (hlt h x hx.1 y hy.1 hx.2 (by simpa using hy.2))

/-- What is level with an item that none comes before is a least item. -/
theorem rank_le_of_level {a pivot x : α} (h : Ranked less rank dom v) (ha : a ∈ dom) (hpivot : pivot ∈ v)
    (hx : x ∈ v) (hlevel : less a pivot = false) (hafter : less x a = false) : rank pivot ≤ rank x := by
  rw [h.less_eq a ha pivot (h.subset pivot hpivot), decide_eq_false_iff_not] at hlevel
  rw [h.less_eq x (h.subset x hx) a ha, decide_eq_false_iff_not] at hafter
  omega

/-- The items that do not come after a least item are all level with it, and so in order. -/
theorem settles_least {pivot : α} (hpivot : pivot ∈ v) (hdom : ∀ x ∈ v, x ∈ dom)
    (hleast : Ranked less rank dom v → ∀ x ∈ v, rank pivot ≤ rank x) :
    Settles less rank dom (v.filter fun x => !less pivot x) (v.filter fun x => !less pivot x) := by
  refine ⟨.refl _ _ _ _, fun h => List.pairwise_of_forall_mem_list fun x hx y hy => ?_⟩
  have hall : Ranked less rank dom v := ⟨h.less_eq, hdom⟩
  have hx := List.mem_filter.1 hx
  have hle : ¬ less pivot x = true := by simpa using hx.2
  rw [hall.less_iff hpivot hx.1] at hle
  have := hleast hall y (List.mem_filter.1 hy).1
  omega

/-- **Sorting by partition.**  The item on the left, by which the items were parted before, comes after none of
them. -/
theorem yields_quicksort {ancestor : Option α} (room limit : Nat) (hdom : ∀ x ∈ v, x ∈ dom)
    (hancestor : ∀ a, ancestor = some a → a ∈ dom ∧ ∀ x ∈ v, less x a = false) :
    Yields less rank dom v (Settles less rank dom v) (quicksort less room limit ancestor v) := by
  fun_induction quicksort less room limit ancestor v with
  | case1 limit ancestor v hsmall => exact yields_sortSmall less rank dom v
  | case2 ancestor v hbig limit pivot hpivot level before others hparted hempty same after hparted' ih =>
      have hmem : pivot ∈ v := List.mem_of_getElem? hpivot
      rw [List.partition_eq_filter_filter] at hparted'
      obtain ⟨rfl, rfl⟩ := Prod.mk.inj hparted'
      -- the pivot is a least item: level with the ancestor, or found to be so
      have hleast (h : Ranked less rank dom v) : ∀ x ∈ v, rank pivot ≤ rank x := by
        intro x hx
        cases hlevel : level with
        | true =>
            obtain ⟨a, ha, hle⟩ := Option.any_eq_true _ _ |>.1 hlevel
            obtain ⟨hadom, hafter⟩ := hancestor a ha
            exact rank_le_of_level h hadom hmem hx (by simpa using hle) (hafter x hx)
        | false =>
            rw [hlevel, List.partition_eq_filter_filter] at hparted
            have hnone : v.filter (fun x => less x pivot) = [] := by
              rw [List.isEmpty_iff] at hempty
              exact (Prod.mk.inj hparted).1.trans hempty
            have hnot := List.filter_eq_nil_iff.1 hnone x hx
            rw [h.less_iff hx hmem] at hnot
            omega
      have hafter := ih (fun x hx => hdom x (List.mem_filter.1 hx).1) nofun
      refine (hafter.map fun w hw => settles_parted (settles_least hmem hdom hleast) hw fun h x hx y hy hpx hpy => ?_).mapError
        (fun w hw => ?_) fun x hx => (List.mem_filter.1 hx).1
      · have h₁ : ¬ less pivot x = true := by simpa using hpx
        have h₂ : less pivot y = true := by simpa using hpy
        rw [h.less_iff hmem hx] at h₁
        rw [h.less_iff hmem hy] at h₂
        omega
      · exact (hw.append_left _).trans (List.filter_append_perm _ v)
  | case3 ancestor v hbig limit pivot hpivot level before others hparted hsome ih ih' =>
      have hmem : pivot ∈ v := List.mem_of_getElem? hpivot
      cases hlevel : level with
      | true =>
          rw [hlevel] at hparted
          obtain ⟨rfl, rfl⟩ := Prod.mk.inj hparted
          simp at hsome
      | false =>
          rw [hlevel, if_neg (by simp), List.partition_eq_filter_filter] at hparted
          obtain ⟨rfl, rfl⟩ := Prod.mk.inj hparted
          have hright := ih (fun x hx => hdom x (List.mem_filter.1 hx).1) fun a ha => by
            cases ha
            exact ⟨hdom pivot hmem, fun x hx => by simpa using (List.mem_filter.1 hx).2⟩
          have hleft := ih' (fun x hx => hdom x (List.mem_filter.1 hx).1) fun a ha =>
            ⟨(hancestor a ha).1, fun x hx => (hancestor a ha).2 x (List.mem_filter.1 hx).1⟩
          have hperm := List.filter_append_perm (fun x => less x pivot) v
          refine (hright.mapError (fun w hw => (hw.append_left _).trans hperm)
            fun x hx => (List.mem_filter.1 hx).1).bind fun right hright => ?_
          refine (hleft.mapError (fun w hw => (hw.append hright.perm).trans hperm)
            fun x hx => (List.mem_filter.1 hx).1).bind fun left hleft => ?_
          refine settles_parted hleft hright fun h x hx y hy hpx hpy => ?_
          have h₁ := (h.less_iff hx hmem).1 hpx
          have h₂ : ¬ less y pivot = true := by simpa using hpy
          rw [h.less_iff hy hmem] at h₂
          omega
  | case4 => exact yields_drift sound_none room _

/-- An attempt that is as it should be where the order is looked at on these items only, and on more. -/
theorem Yields.of_subset {r : Attempt α (List α)} (hown : Yields less rank v v (Settles less rank v v) r)
    (h : (∀ x ∈ v, x ∈ dom) → Yields less rank dom v (Settles less rank dom v) r) :
    Yields less rank dom v (Settles less rank dom v) r := by
  by_cases hdom : ∀ x ∈ v, x ∈ dom
  · exact h hdom
  · have hnot : ¬ Ranked less rank dom v := fun h => hdom h.subset
    have hperm := hown.items_perm
    cases r with
    | ok w => exact ⟨⟨hperm, fun h => (hnot h).elim⟩, fun h => (hnot h).elim⟩
    | error w => exact ⟨hperm, hnot⟩

theorem sound_quicksort (room : Nat) :
    Later.Sound less rank dom (some fun w => quicksort less room (2 * w.length.log2) none w) := by
  rintro _ ⟨rfl⟩ v
  exact .of_subset (yields_quicksort room _ (fun _ => id) nofun) fun hdom => yields_quicksort room _ hdom nofun

/-! ### Sorting -/

/-- **Sorting**: no item is lost or made up, and if the order goes by rank the items are stably sorted. -/
theorem yields_sort (less : α → α → Bool) (rank : α → Int) (dom v : List α) :
    Yields less rank dom v (Settles less rank dom v) (sort less v) := by
  unfold sort
  dsimp only
  split
  · exact settles_insertAll_nil less rank dom v
  · split
    · exact yields_drift sound_none _ v
    · exact yields_drift (sound_quicksort _) _ v

end LineScript.Sorting
