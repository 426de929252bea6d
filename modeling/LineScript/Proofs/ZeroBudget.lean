import LineScript.Proofs.Executed
import LineScript.Proofs.SettingLines

/-!
**Which texts of settings leave a run no statement at all.**

A budget of `0` or `none` stands for no budget.  It is known by its text, before the text is read as a
count, and a count may be written in more ways than one: with zeros in front, or with a plus sign.  So `00`
and `+0` are read as counts, and the budget is then zero, which is used up before the first statement.  This
module finds all the ways of writing zero that are taken for a count, and with them all the texts whose
settings have a budget of zero: those whose last accepted line on the budget has one of them.  Under all
other settings a run executes its first statement.

Main definition:

* `LineScript.Settings.LongZero` — a way to write zero other than `0`.

Main results:

* `LineScript.Settings.budget_eq_zero_iff` — the texts that are read as a budget of zero;
* `LineScript.Settings.stepBudget_eq_zero_iff` — the settings with a budget of zero;
* `LineScript.Invocation.executed_eq_nil_iff` — a run executes nothing just if the budget is zero;
* `LineScript.Settings.zero_budget_iff` — **when no budget is zero, and what follows for runs**.
-/

set_option autoImplicit false

namespace LineScript

/-! ### Ways to write zero -/

namespace Decimal

/-- The number of some digits is zero just if all of them are, and so is what comes before. -/
theorem ofDigitChars_eq_zero {cs : List Char} (digits : ∀ c ∈ cs, c.isDigit = true) (init : Nat) :
    Nat.ofDigitChars 10 cs init = 0 ↔ init = 0 ∧ ∀ c ∈ cs, c = '0' := by
  induction cs generalizing init with
  | nil => simp
  | cons c cs ih =>
      have digit : 48 ≤ c.toNat ∧ c.toNat ≤ 57 := Char.isDigit_iff_toNat.1 (digits c (by simp))
      have zero : c.toNat - '0'.toNat = 0 ↔ c = '0' := by
        rw [← Char.toNat_inj]
        change c.toNat - 48 = 0 ↔ c.toNat = 48
        omega
      rw [Nat.ofDigitChars_cons, ih (fun d mem => digits d (by simp [mem])), List.forall_mem_cons, ← zero,
        Nat.add_eq_zero_iff, Nat.mul_eq_zero]
      constructor
      · rintro ⟨⟨ten | first, here⟩, rest⟩
        · cases ten
        · exact ⟨first, here, rest⟩
      · rintro ⟨first, here, rest⟩
        exact ⟨⟨.inr first, here⟩, rest⟩

/-- Digits are read as zero just if they are some zeros. -/
theorem digits?_eq_zero_iff {cs : List Char} : digits? cs = some 0 ↔ ∃ n, cs = List.replicate (n + 1) '0' := by
  have zeros : (∃ n, cs = List.replicate (n + 1) '0') ↔ cs ≠ [] ∧ ∀ c ∈ cs, c = '0' := by
    constructor
    · rintro ⟨n, rfl⟩
      exact ⟨by simp, fun c mem => List.eq_of_mem_replicate mem⟩
    · rintro ⟨hne, all⟩
      obtain ⟨n, length⟩ := Nat.exists_eq_add_one_of_ne_zero (mt List.length_eq_zero_iff.1 hne)
      exact ⟨n, List.eq_replicate_iff.2 ⟨length, all⟩⟩
  rw [zeros]
  unfold digits?
  split
  · rename_i digits
    obtain ⟨hne, digits⟩ : cs ≠ [] ∧ ∀ c ∈ cs, c.isDigit = true := by simpa using digits
    rw [Option.some.injEq, ofDigitChars_eq_zero digits]
    simp [hne]
  · rename_i other
    refine iff_of_false (by simp) ?_
    rintro ⟨hne, all⟩
    refine other ?_
    simp only [Bool.and_eq_true, Bool.not_eq_true', List.isEmpty_eq_false_iff, List.all_eq_true]
    refine ⟨hne, fun c mem => ?_⟩
    rw [all c mem]
    rfl

/-- A count is zero just if it is written as some zeros, perhaps after a plus sign. -/
theorem count?_eq_zero_iff {cs : List Char} :
    count? cs = some 0 ↔ ∃ n, cs = List.replicate (n + 1) '0' ∨ cs = '+' :: List.replicate (n + 1) '0' := by
  unfold count? countBelow?
  simp only [Option.filter_eq_some_iff]
  rw [and_iff_left (by decide)]
  split
  · rename_i rest
    rw [digits?_eq_zero_iff]
    simp [List.replicate_succ]
  · rename_i other
    rw [digits?_eq_zero_iff]
    refine exists_congr fun n => (or_iff_left ?_).symm
    exact other _

end Decimal

namespace Case

/-- A sign whose lower-case form comes before all letters is that form already. -/
theorem asciiLower_of_lt {c : Char} (before : (asciiLower c).toNat < 65) : asciiLower c = c := by
  have upper : 'A' ≤ c ∧ c ≤ 'Z' ↔ 65 ≤ c.toNat ∧ c.toNat ≤ 90 := Iff.rfl
  have small : ∀ n < 123, 97 ≤ n → 65 ≤ (Char.ofNat n).toNat := by decide
  unfold asciiLower at before ⊢
  split
  · rename_i letter
    rw [if_pos letter] at before
    obtain ⟨low, high⟩ := upper.1 letter
    have after := small (c.toNat + 32) (by omega) (by omega)
    omega
  · rfl

theorem asciiLowercase_of_lt {text : String} (before : ∀ c ∈ (asciiLowercase text).toList, c.toNat < 65) :
    asciiLowercase text = text := by
  have same : text.toList.map asciiLower = text.toList.map id := by
    refine List.map_congr_left fun c mem => asciiLower_of_lt (before _ ?_)
    simpa [asciiLowercase] using ⟨c, mem, rfl⟩
  rw [asciiLowercase, same, List.map_id, String.ofList_toList]

end Case

namespace Settings

/-- **A way to write zero other than `0`**: more than one zero, or some zeros after a plus sign. -/
def LongZero (value : String) : Prop :=
  ∃ n, value.toList = List.replicate (n + 2) '0' ∨ value.toList = '+' :: List.replicate (n + 1) '0'

theorem budget_eq_some_iff {value : String} {b : Nat} :
    budget value = .ok (some b) ↔
      Case.asciiLowercase value ≠ "none" ∧ Case.asciiLowercase value ≠ "0" ∧
        Text.count? (Case.asciiLowercase value) = some b := by
  unfold budget
  split
  · simp_all
  · simp_all
  · rename_i notNone notZero
    cases count : Text.count? (Case.asciiLowercase value) with
    | none => simp
    | some n =>
        simp only [Except.ok.injEq, Option.some.injEq]
        exact ⟨fun same => ⟨notNone, notZero, same⟩, fun same => same.2.2⟩

/-- Zeros and a plus sign are the same in lower case. -/
theorem LongZero.asciiLowercase_eq {value : String} (long : LongZero value) :
    Case.asciiLowercase value = value := by
  have zero : Case.asciiLower '0' = '0' := by decide
  have plus : Case.asciiLower '+' = '+' := by decide
  have same : value.toList.map Case.asciiLower = value.toList := by
    obtain ⟨n, chars | chars⟩ := long
    · rw [chars, List.map_replicate, zero]
    · rw [chars, List.map_cons, List.map_replicate, zero, plus]
  rw [Case.asciiLowercase, same, String.ofList_toList]

/-- **The texts that are read as a budget of zero.** -/
theorem budget_eq_zero_iff {value : String} : budget value = .ok (some 0) ↔ LongZero value := by
  rw [budget_eq_some_iff, Text.count?, Decimal.count?_eq_zero_iff]
  constructor
  · rintro ⟨_, notZero, n, chars⟩
    have same : Case.asciiLowercase value = value := by
      refine Case.asciiLowercase_of_lt fun c mem => ?_
      rcases chars with chars | chars
      · rw [chars] at mem
        rw [List.eq_of_mem_replicate mem]
        decide
      · rw [chars, List.mem_cons] at mem
        rcases mem with rfl | mem
        · decide
        · rw [List.eq_of_mem_replicate mem]
          decide
    rw [same] at notZero chars
    rcases chars with chars | chars
    · cases n with
      | zero => exact absurd (String.toList_inj.1 chars) notZero
      | succ n => exact ⟨n, .inl chars⟩
    · exact ⟨n, .inr chars⟩
  · intro long
    rw [long.asciiLowercase_eq]
    have other : ∀ {text : String} {n : Nat}, text.toList = List.replicate (n + 2) '0' ∨
        text.toList = '+' :: List.replicate (n + 1) '0' → text ≠ "none" ∧ text ≠ "0" := by
      rintro text n (chars | chars)
      · constructor <;> rintro rfl <;> simp [List.replicate_succ] at chars
      · constructor <;> rintro rfl <;> simp at chars
    obtain ⟨n, chars⟩ := long
    obtain ⟨notNone, notZero⟩ := other chars
    refine ⟨notNone, notZero, ?_⟩
    rcases chars with chars | chars
    · exact ⟨n + 1, .inl chars⟩
    · exact ⟨n, .inr chars⟩

theorem LastNamed.unique {text value value' : String} {f : Setting} (h : LastNamed text f value)
    (h' : LastNamed text f value') : value' = value := by
  obtain ⟨k, names, last⟩ := h
  obtain ⟨k', names', last'⟩ := h'
  obtain rfl : k' = k := Nat.le_antisymm (last k' _ names') (last' k _ names)
  obtain ⟨_, line, name, here, assigns, _⟩ := names
  obtain ⟨_, line', name', here', assigns', _⟩ := names'
  obtain rfl : line' = line := Option.some.inj (here'.symm.trans here)
  exact (assigns.unique assigns').2

/-- **The settings with a budget of zero**: the last line that is accepted and names it writes zero in
another way. -/
theorem stepBudget_eq_zero_iff (text : String) :
    (ofText text).1.stepBudget = some 0 ↔ ∃ value, LastNamed text .stepBudget value ∧ LongZero value := by
  rcases ofText_get text .stepBudget with ⟨value, last, read⟩ | ⟨hnone, kept⟩
  · have zero : (ofText text).1.stepBudget = some 0 ↔ LongZero value := by
      rw [← budget_eq_zero_iff]
      constructor
      · intro isZero
        exact isZero ▸ read
      · intro isZero
        exact Except.ok.inj (read.symm.trans isZero)
    rw [zero]
    constructor
    · intro long
      exact ⟨value, last, long⟩
    · rintro ⟨value', last', long⟩
      exact last.unique last' ▸ long
  · have unlimited : (ofText text).1.stepBudget = Option.none := kept
    rw [unlimited]
    refine iff_of_false (by simp) ?_
    rintro ⟨value, ⟨k, names, _⟩, _⟩
    exact hnone k value names

end Settings

/-! ### Runs -/

namespace Invocation

variable {script : Script} {inputs : Inputs} {arguments : String} {h g : Host} {i : Invocation}

/-- A run that was started stands before the first statement and has executed none. -/
theorem start_fresh (started : start script inputs arguments h = (.ok i, g)) :
    i.script = script ∧ i.cursor = 0 ∧ i.steps = 0 ∧ i.context.settings = inputs.settings := by
  unfold start at started
  dsimp only at started
  split at started
  · cases started
    exact ⟨rfl, rfl, rfl, rfl⟩
  · cases started
    exact ⟨rfl, rfl, rfl, rfl⟩
  · cases started

/-- At the first statement a budget is used up just if it is zero. -/
theorem spentBudget?_eq_some_iff (fresh : i.steps = 0) {b : Nat} :
    i.spentBudget? = some b ↔ i.context.settings.stepBudget = some 0 ∧ b = 0 := by
  unfold spentBudget?
  rw [fresh, Option.filter_eq_some_iff, decide_eq_true_eq, Nat.le_zero]
  constructor
  · rintro ⟨budget, rfl⟩
    exact ⟨budget, rfl⟩
  · rintro ⟨budget, rfl⟩
    exact ⟨budget, rfl⟩

/-- **A run of a script that has a statement executes none just if the budget is zero**, and is then
stopped for it. -/
theorem executed_eq_nil_iff (started : start script inputs arguments h = (.ok i, g))
    (hne : script.statements ≠ #[]) (fuel : Nat) :
    (i.executed (fuel + 1) g = [] ↔ inputs.settings.stepBudget = Option.some 0) ∧
      (inputs.settings.stepBudget = Option.some 0 →
        (i.run (fuel + 1) g).1 = .completed .overBudget i.context.values) := by
  obtain ⟨rfl, cursor, fresh, settings⟩ := start_fresh started
  have nonempty : 0 < i.script.statements.size := Array.size_pos_iff.2 hne
  have first : i.script.statements[i.cursor]? = Option.some i.script.statements[0] := by
    rw [cursor, Array.getElem?_eq_getElem nonempty]
  rw [← settings]
  by_cases zero : i.context.settings.stepBudget = Option.some 0
  · have spent : i.spentBudget? = Option.some 0 := (spentBudget?_eq_some_iff fresh).2 ⟨zero, rfl⟩
    have stops : i.step g = (.stops (.completed .overBudget i.context.values),
        ((i.session g).remark (.overBudget 0)).releaseLock.host) := by
      simp only [step, first, spent]
      rfl
    have idle : i.execution? g = none := by simp [execution?, ready?, spent]
    refine ⟨iff_of_true ?_ zero, fun _ => ?_⟩
    · rw [executed_of_stops stops, idle]
      rfl
    · simp only [run, stops]
  · have left : i.spentBudget? = none := by
      rw [Option.eq_none_iff_forall_ne_some]
      exact fun b spent => zero ((spentBudget?_eq_some_iff fresh).1 spent).1
    have ready : i.ready? = Option.some i.script.statements[0] := ready?_eq_some.2 ⟨left, first⟩
    refine ⟨iff_of_false ?_ zero, fun is => absurd is zero⟩
    simp [executed, execution?, ready]

end Invocation

/-! ### Texts and runs -/

namespace Settings

/-- **When no budget is zero.**  The budget of a text of settings is none or positive unless the last line
that is accepted and names it writes zero in another way than `0`.  Under these settings a run of a script
that has a statement executes at least one, again unless that is so; then it is stopped before the first. -/
theorem zero_budget_iff (text : String) :
    ((∀ b, (ofText text).1.stepBudget = some b → 0 < b) ↔
        ¬ ∃ value, LastNamed text .stepBudget value ∧ LongZero value) ∧
      ∀ (script : Script) (inputs : Inputs) (arguments : String) (h g : Host) (i : Invocation) (fuel : Nat),
        inputs.settings = (ofText text).1 → script.statements ≠ #[] →
        Invocation.start script inputs arguments h = (.ok i, g) →
          (i.executed (fuel + 1) g ≠ [] ↔ ¬ ∃ value, LastNamed text .stepBudget value ∧ LongZero value) ∧
            ((∃ value, LastNamed text .stepBudget value ∧ LongZero value) →
              (i.run (fuel + 1) g).1 = .completed .overBudget i.context.values) := by
  rw [← stepBudget_eq_zero_iff]
  refine ⟨?_, ?_⟩
  · constructor
    · intro positive zero
      exact absurd (positive 0 zero) (by decide)
    · intro notZero b budget
      apply Nat.pos_of_ne_zero
      rintro rfl
      exact notZero budget
  · intro script inputs arguments h g i fuel settings hne started
    obtain ⟨idle, stopped⟩ := Invocation.executed_eq_nil_iff started hne fuel
    rw [settings] at idle stopped
    exact ⟨not_congr idle, stopped⟩

/-- A script with a statement. -/
def greeter : Script := { name := "g", statements := #[.write "hi", .finish] }

theorem start_greeter (s : Settings) :
    Invocation.start greeter { settings := s } "" {} =
      (.ok { script := greeter, context := .ofInputs "g" { settings := s } }, {}) := rfl

/-- A later line decides: after `+0` the budget is three, and the greeter executes a statement. -/
theorem zero_budget_iff_overridden :
    (∀ b, (ofText "set step_budget +0\nset step_budget 3").1.stepBudget = some b → 0 < b) ∧
      ∃ i g, Invocation.start greeter { settings := (ofText "set step_budget +0\nset step_budget 3").1 } "" {} =
        (.ok i, g) ∧ i.executed 1 g ≠ [] := by
  have three : (ofText "set step_budget +0\nset step_budget 3").1.stepBudget = some 3 := by decide +kernel
  obtain ⟨text, runs⟩ := zero_budget_iff "set step_budget +0\nset step_budget 3"
  have positive : ∀ b, (ofText "set step_budget +0\nset step_budget 3").1.stepBudget = some b → 0 < b := by
    intro b budget
    rw [three, Option.some.injEq] at budget
    omega
  generalize ofText "set step_budget +0\nset step_budget 3" = loaded at *
  obtain ⟨executes, _⟩ :=
    runs greeter { settings := loaded.1 } "" {} _ _ 0 rfl (by simp [greeter]) (start_greeter loaded.1)
  exact ⟨positive, _, _, start_greeter loaded.1, executes.2 (text.1 positive)⟩

/-- **A budget of zero that is written with two zeros counts as one**: nothing is reported, the budget is
zero, and the greeter is stopped before its first statement. -/
theorem zero_budget_two_zeros :
    (ofText "set step_budget 00").2 = [] ∧
      ¬ (∀ b, (ofText "set step_budget 00").1.stepBudget = some b → 0 < b) ∧
      ∃ i g, Invocation.start greeter { settings := (ofText "set step_budget 00").1 } "" {} = (.ok i, g) ∧
        ∀ fuel, i.executed (fuel + 1) g = [] := by
  have zero : (ofText "set step_budget 00").1.stepBudget = some 0 := by decide +kernel
  have silent : (ofText "set step_budget 00").2 = [] := by decide +kernel
  generalize ofText "set step_budget 00" = loaded at *
  refine ⟨silent, fun positive => absurd (positive 0 zero) (by decide), _, _, start_greeter loaded.1, ?_⟩
  intro fuel
  exact (Invocation.executed_eq_nil_iff (start_greeter loaded.1) (by simp [greeter]) fuel).1.2 zero

end Settings

end LineScript
