import Mathlib.Data.Int.CardIntervalMod
import Mathlib.Data.Set.Card
import LineScript.Draws

/-!
**A number between two bounds, exactly.**

A number from `lo` to `hi` is made from a draw of 64 bits: the draw is taken modulo the number of choices and
added to `lo`, and all of this in words that may wrap around.  Draws that would favour the small remainders
are passed over.  Here it is shown that the words wrap around only where they should, that no choice is
favoured, and that no more than half of the draws are passed over, however many choices there are.

Which draws are accepted, and what an accepted draw is turned into, is defined by what becomes of a supply
that begins with it.

Main definitions:

* `LineScript.Draws.choices` — how many numbers there are between two bounds;
* `LineScript.Draws.Accepts` — the draw is accepted;
* `LineScript.Draws.outcome` — what it is turned into.

Main results:

* `LineScript.Draws.uniform_of_accepts`, `LineScript.Draws.uniform_of_rejects` — the first draw is used, or it
  is passed over;
* `LineScript.Draws.outcome_toInt` — the words compute what the numbers do;
* `LineScript.Draws.ncard_outcome` — so many draws are turned into each number;
* `LineScript.Draws.uniform_exact` — **a number between two bounds is drawn exactly**.
-/

set_option autoImplicit false

namespace LineScript.Draws

variable {lo hi : Int64} {x : UInt64}

/-! ### Which draws are accepted -/

/-- How many numbers there are from `lo` to `hi`. -/
def choices (lo hi : Int64) : Nat := (hi.toInt - lo.toInt).toNat + 1

/-- **The draw is accepted**: if it comes first, no other is drawn. -/
def Accepts (lo hi : Int64) (x : UInt64) : Prop := (uniform ⟨[x], 0⟩ lo hi).2.taken = 1

instance (lo hi : Int64) (x : UInt64) : Decidable (Accepts lo hi x) := inferInstanceAs (Decidable (_ = 1))

/-- What the draw is turned into, if it is accepted. -/
def outcome (lo hi : Int64) (x : UInt64) : Int64 := (uniform ⟨[x], 0⟩ lo hi).1

theorem uniform_of_full (full : 2 ^ 64 ≤ choices lo hi) (d : Draws) :
    d.uniform lo hi = (d.next.1.toInt64, d.next.2) := if_pos full

theorem uniform_of_lt (few : choices lo hi < 2 ^ 64) (d : Draws) :
    d.uniform lo hi =
      (lo + ((d.below (zone (choices lo hi))).1.toNat % choices lo hi).toUInt64.toInt64,
        (d.below (zone (choices lo hi))).2) := if_neg (Nat.not_le.2 few)

theorem accepts_of_full (full : 2 ^ 64 ≤ choices lo hi) (x : UInt64) : Accepts lo hi x := by
  rw [Accepts, uniform_of_full full]
  rfl

/-- Where the draws do not stand for all numbers, those below the zone are accepted. -/
theorem accepts_iff_of_lt (few : choices lo hi < 2 ^ 64) :
    Accepts lo hi x ↔ x.toNat < zone (choices lo hi) := by
  rw [Accepts, uniform_of_lt few]
  by_cases inside : x.toNat < zone (choices lo hi)
  · simp [below, belowFrom, inside]
  · simp [below, belowFrom, inside]

/-- **A draw that is accepted is used**, and the rest of the supply is left. -/
theorem uniform_of_accepts (accepts : Accepts lo hi x) (rest : List UInt64) (taken : Nat) :
    uniform ⟨x :: rest, taken⟩ lo hi = (outcome lo hi x, ⟨rest, taken + 1⟩) := by
  rcases Nat.lt_or_ge (choices lo hi) (2 ^ 64) with few | full
  · have inside := (accepts_iff_of_lt few).1 accepts
    simp [outcome, uniform_of_lt few, below, belowFrom, inside]
  · simp [outcome, uniform_of_full full, next]

/-- **A draw that is not accepted is passed over.** -/
theorem uniform_of_rejects (rejects : ¬ Accepts lo hi x) (rest : List UInt64) (taken : Nat) :
    uniform ⟨x :: rest, taken⟩ lo hi = uniform ⟨rest, taken + 1⟩ lo hi := by
  rcases Nat.lt_or_ge (choices lo hi) (2 ^ 64) with few | full
  · have outside := mt (accepts_iff_of_lt few).2 rejects
    simp [uniform_of_lt few, below, belowFrom, outside]
  · exact absurd (accepts_of_full full x) rejects

/-- The first draw that is accepted decides. -/
theorem uniform_of_first {before after : List UInt64} (rejects : ∀ y ∈ before, ¬ Accepts lo hi y)
    (accepts : Accepts lo hi x) (taken : Nat) :
    uniform ⟨before ++ x :: after, taken⟩ lo hi =
      (outcome lo hi x, ⟨after, taken + before.length + 1⟩) := by
  induction before generalizing taken with
  | nil => exact uniform_of_accepts accepts after taken
  | cons y before ih =>
      have later := ih (fun z among => rejects z (List.mem_cons_of_mem y among)) (taken + 1)
      rw [List.cons_append, uniform_of_rejects (rejects y List.mem_cons_self), later, List.length_cons]
      congr 3
      omega

/-! ### What an accepted draw is turned into -/

theorem choices_pos (lo hi : Int64) : 0 < choices lo hi := Nat.succ_pos _

theorem choices_le (lo hi : Int64) : choices lo hi ≤ 2 ^ 64 := by
  have lower := lo.le_toInt
  have upper := hi.toInt_lt
  unfold choices
  omega

/-- Between bounds in order, the number of choices is what it is among the integers. -/
theorem choices_cast (ordered : lo ≤ hi) : (choices lo hi : Int) = hi.toInt - lo.toInt + 1 := by
  have le := Int64.le_iff_toInt_le.1 ordered
  unfold choices
  omega

/-- A range of all numbers goes from the least to the greatest. -/
theorem bounds_of_full (full : 2 ^ 64 ≤ choices lo hi) : lo.toInt = -2 ^ 63 ∧ hi.toInt = 2 ^ 63 - 1 := by
  have lower := lo.le_toInt
  have upper := hi.toInt_lt
  unfold choices at full
  omega

/-- **The words compute what the numbers do.**  Where there are fewer choices than draws, the remainder is
added to the lower bound, and the sum does not wrap around; a range of all numbers takes the draw as it
comes, as a signed word. -/
theorem outcome_toInt (ordered : lo ≤ hi) (accepts : Accepts lo hi x) :
    (outcome lo hi x).toInt =
      if choices lo hi < 2 ^ 64 then lo.toInt + (x.toNat % choices lo hi : Nat)
      else (x.toNat : Int).bmod (2 ^ 64) := by
  have size : Int64.size = 2 ^ 64 := rfl
  split
  · rename_i few
    have inside := (accepts_iff_of_lt few).1 accepts
    have remainder : x.toNat % choices lo hi < choices lo hi := Nat.mod_lt _ (choices_pos lo hi)
    have count := choices_cast ordered
    have lower := lo.le_toInt
    have upper := hi.toInt_lt
    have within : (lo.toInt + (x.toNat % choices lo hi : Nat)).bmod (2 ^ 64) =
        lo.toInt + (x.toNat % choices lo hi : Nat) := by
      refine Int.bmod_eq_of_le ?_ ?_
      · omega
      · omega
    -- the remainder alone may not fit a signed word, but the sum does
    calc (outcome lo hi x).toInt = (lo + Int64.ofNat (x.toNat % choices lo hi)).toInt := by
          simp [outcome, uniform_of_lt few, below, belowFrom, inside, Nat.toUInt64]
      _ = (lo.toInt + (x.toNat % choices lo hi : Nat)).bmod (2 ^ 64) := by
          rw [Int64.toInt_add, Int64.toInt_ofNat', size, Int.add_bmod_bmod]
      _ = lo.toInt + (x.toNat % choices lo hi : Nat) := within
  · rename_i many
    calc (outcome lo hi x).toInt = (Int64.ofNat x.toNat).toInt := by
          rw [outcome, uniform_of_full (Nat.not_lt.1 many), ← UInt64.toInt64_ofNat', UInt64.ofNat_toNat]
          rfl
      _ = (x.toNat : Int).bmod (2 ^ 64) := by rw [Int64.toInt_ofNat', size]

/-- An accepted draw is turned into a number between the bounds. -/
theorem outcome_mem (ordered : lo ≤ hi) (accepts : Accepts lo hi x) :
    lo ≤ outcome lo hi x ∧ outcome lo hi x ≤ hi := by
  rw [Int64.le_iff_toInt_le, Int64.le_iff_toInt_le]
  rcases Nat.lt_or_ge (choices lo hi) (2 ^ 64) with few | full
  · have hexact := outcome_toInt ordered accepts
    rw [if_pos few] at hexact
    have remainder : x.toNat % choices lo hi < choices lo hi := Nat.mod_lt _ (choices_pos lo hi)
    have count := choices_cast ordered
    omega
  · obtain ⟨least, greatest⟩ := bounds_of_full full
    have lower := (outcome lo hi x).le_toInt
    have upper := (outcome lo hi x).toInt_lt
    omega

/-! ### How many draws there are -/

/-- Draws are counted by their numbers. -/
theorem ncard_toNat {bound : Nat} (fits : bound ≤ 2 ^ 64) (p : Nat → Prop) [DecidablePred p] :
    {x : UInt64 | x.toNat < bound ∧ p x.toNat}.ncard = bound.count p := by
  have image : UInt64.toNat '' {x : UInt64 | x.toNat < bound ∧ p x.toNat} =
      ((Finset.range bound).filter p : Finset Nat) := by
    ext k
    simp only [Set.mem_image, Set.mem_ofPred_eq, Finset.coe_filter, Finset.mem_range]
    constructor
    · rintro ⟨x, there, rfl⟩
      exact there
    · rintro ⟨less, there⟩
      have same : (UInt64.ofNat k).toNat = k := UInt64.toNat_ofNat_of_lt' (Nat.lt_of_lt_of_le less fits)
      exact ⟨UInt64.ofNat k, by rw [same]; exact ⟨less, there⟩, same⟩
  have injective : Function.Injective UInt64.toNat := fun _ _ => UInt64.toNat.inj
  rw [← Set.ncard_image_of_injective _ injective, image, Set.ncard_coe_finset,
    Nat.count_eq_card_filter_range]

theorem zone_lt (n : Nat) : zone n < 2 ^ 64 := by
  have whole := Nat.div_mul_le_self 18446744073709551615 n
  unfold zone
  omega

/-- The zone is a whole number of times the choices, and more than half of all draws. -/
theorem half_le_zone {n : Nat} (pos : 0 < n) (few : n < 2 ^ 64) : 2 ^ 63 ≤ zone n := by
  have whole : zone n + 18446744073709551615 % n = 18446744073709551615 := by
    rw [zone, Nat.mul_comm]
    exact Nat.div_add_mod _ _
  have remainder : 18446744073709551615 % n < n := Nat.mod_lt _ pos
  have once : 0 < 18446744073709551615 / n := Nat.div_pos (by omega) pos
  have least : n ≤ zone n := Nat.le_mul_of_pos_left n once
  omega

/-- The draws that are turned into a number: as many as there are whole rounds of the choices, and a single
one in a range of all numbers. -/
def share (n : Nat) : Nat := if n < 2 ^ 64 then 18446744073709551615 / n else 1

theorem share_pos {n : Nat} (pos : 0 < n) : 0 < share n := by
  unfold share
  split
  · exact Nat.div_pos (by omega) pos
  · exact Nat.one_pos

/-- **As many draws are turned into each number** as into any other. -/
theorem ncard_outcome (ordered : lo ≤ hi) {v : Int64} (least : lo ≤ v) (most : v ≤ hi) :
    {x : UInt64 | Accepts lo hi x ∧ outcome lo hi x = v}.ncard = share (choices lo hi) := by
  have below := Int64.le_iff_toInt_le.1 least
  have above := Int64.le_iff_toInt_le.1 most
  rcases Nat.lt_or_ge (choices lo hi) (2 ^ 64) with few | full
  · let r := (v.toInt - lo.toInt).toNat
    have count := choices_cast ordered
    have small : r < choices lo hi := by omega
    have same : {x : UInt64 | Accepts lo hi x ∧ outcome lo hi x = v} =
        {x : UInt64 | x.toNat < zone (choices lo hi) ∧ x.toNat ≡ r [MOD choices lo hi]} := by
      ext x
      simp only [Set.mem_ofPred_eq, Nat.ModEq, Nat.mod_eq_of_lt small, ← accepts_iff_of_lt few]
      refine and_congr_right fun accepts => ?_
      have hexact := outcome_toInt ordered accepts
      rw [if_pos few] at hexact
      rw [← Int64.toInt_inj, hexact]
      omega
    have rounds : zone (choices lo hi) / choices lo hi = 18446744073709551615 / choices lo hi :=
      Nat.mul_div_cancel _ (choices_pos lo hi)
    have even : zone (choices lo hi) % choices lo hi = 0 := Nat.mul_mod_left _ _
    rw [same, ncard_toNat (Nat.le_of_lt (zone_lt _)) (· ≡ r [MOD choices lo hi]),
      Nat.count_modEq_card _ (choices_pos lo hi), rounds, even, share, if_pos few, if_neg (Nat.not_lt_zero _),
      Nat.add_zero]
  · have same : {x : UInt64 | Accepts lo hi x ∧ outcome lo hi x = v} = {v.toUInt64} := by
      ext x
      have taken : outcome lo hi x = x.toInt64 := by
        rw [outcome, uniform_of_full full]
        rfl
      simp only [Set.mem_ofPred_eq, Set.mem_singleton_iff, accepts_of_full full, true_and, taken]
      constructor
      · rintro rfl
        exact (UInt64.toUInt64_toInt64 x).symm
      · rintro rfl
        exact Int64.toInt64_toUInt64 v
    rw [same, Set.ncard_singleton, share, if_neg (Nat.not_lt.2 full)]

/-- At least half of all draws are accepted. -/
theorem half_le_accepts (lo hi : Int64) : 2 ^ 63 ≤ {x : UInt64 | Accepts lo hi x}.ncard := by
  rcases Nat.lt_or_ge (choices lo hi) (2 ^ 64) with few | full
  · have same : {x : UInt64 | Accepts lo hi x} =
        {x : UInt64 | x.toNat < zone (choices lo hi) ∧ True} := by
      ext x
      simp only [Set.mem_ofPred_eq, and_true, accepts_iff_of_lt few]
    rw [same, ncard_toNat (Nat.le_of_lt (zone_lt _)) fun _ => True, Nat.count_true]
    exact half_le_zone (choices_pos lo hi) few
  · have same : {x : UInt64 | Accepts lo hi x} = {x : UInt64 | x.toNat < 2 ^ 64 ∧ True} := by
      ext x
      simp only [Set.mem_ofPred_eq, and_true, accepts_of_full full, x.toNat_lt]
    rw [same, ncard_toNat (Nat.le_refl _) fun _ => True, Nat.count_true]
    omega

/-- **A number between two bounds is drawn exactly.**  Of a supply with a draw that is accepted the
first such draw is used, and turned into a number between the bounds, as the same computation has it
among the integers.  Each number has as many accepted draws as any other, and at least half of all draws
are accepted. -/
theorem uniform_exact (ordered : lo ≤ hi) :
    ((choices lo hi : Int) = hi.toInt - lo.toInt + 1 ∧ choices lo hi ≤ 2 ^ 64 ∧
      zone (choices lo hi) < 2 ^ 64) ∧
    (∀ d : Draws, (∃ x ∈ d.supply, Accepts lo hi x) →
      ∃ before x after, d.supply = before ++ x :: after ∧ (∀ y ∈ before, ¬ Accepts lo hi y) ∧
        Accepts lo hi x ∧
        d.uniform lo hi = (outcome lo hi x, ⟨after, d.taken + before.length + 1⟩) ∧
        (lo ≤ outcome lo hi x ∧ outcome lo hi x ≤ hi) ∧
        (outcome lo hi x).toInt =
          if choices lo hi < 2 ^ 64 then lo.toInt + (x.toNat % choices lo hi : Nat)
          else (x.toNat : Int).bmod (2 ^ 64)) ∧
    (∃ share, 0 < share ∧ ∀ v, lo ≤ v → v ≤ hi →
      {x : UInt64 | Accepts lo hi x ∧ outcome lo hi x = v}.ncard = share) ∧
    2 ^ 63 ≤ {x : UInt64 | Accepts lo hi x}.ncard := by
  refine ⟨⟨choices_cast ordered, choices_le lo hi, zone_lt _⟩, fun d hsome => ?_,
    ⟨share (choices lo hi), share_pos (choices_pos lo hi), fun v least most => ?_⟩, half_le_accepts lo hi⟩
  · have found : (d.supply.find? fun x => decide (Accepts lo hi x)).isSome := by simpa using hsome
    obtain ⟨x, first⟩ := Option.isSome_iff_exists.1 found
    obtain ⟨accepts, before, after, supply, rejects⟩ := List.find?_eq_some_iff_append.1 first
    replace accepts : Accepts lo hi x := by simpa using accepts
    replace rejects : ∀ y ∈ before, ¬ Accepts lo hi y := by simpa using rejects
    obtain ⟨_, taken⟩ := d
    subst supply
    exact ⟨before, x, after, rfl, rejects, accepts, uniform_of_first rejects accepts taken,
      outcome_mem ordered accepts, outcome_toInt ordered accepts⟩
  · exact ncard_outcome ordered least most

/-- More than half of the range: there are so many choices that every second draw is passed over, as the
first one is here. -/
theorem uniform_exact_rejecting :
    let d : Draws := ⟨[18446744073709551615, 7], 0⟩
    Int64.minValue ≤ 0 ∧ (∃ x ∈ d.supply, Accepts .minValue 0 x) ∧ ¬ Accepts .minValue 0 18446744073709551615 ∧
      ((d.uniform .minValue 0).1 = -9223372036854775801 ∧ (d.uniform .minValue 0).2.taken = 2) ∧
      ∃ share, 0 < share ∧ {x | Accepts .minValue 0 x ∧ outcome .minValue 0 x = 0}.ncard = share := by
  intro d
  have ordered : Int64.minValue ≤ 0 := by decide
  have accepts : Accepts .minValue 0 7 := by decide +kernel
  have rejects : ¬ Accepts .minValue 0 18446744073709551615 := by decide +kernel
  obtain ⟨_, draws, ⟨share, pos, shares⟩, _⟩ := uniform_exact ordered
  obtain ⟨before, x, after, supply, passed, used, drawn, _, _⟩ := draws d ⟨7, by decide, accepts⟩
  refine ⟨ordered, ⟨7, by decide, accepts⟩, rejects, ?_, share, pos, shares 0 ordered (by decide)⟩
  rw [drawn]
  -- the first draw is not accepted, and there are only two
  rcases before with _ | ⟨y, _ | ⟨z, before⟩⟩
  · cases supply
    exact absurd used rejects
  · cases supply
    exact ⟨by decide +kernel, rfl⟩
  · have longer := congrArg List.length supply
    simp [d] at longer

end LineScript.Draws
