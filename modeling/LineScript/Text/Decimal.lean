/-!
**Whole numbers as decimal text.**

A number is written as its decimal digits, with a minus sign in front when it is negative.  It is
read from an optional sign and one or more ASCII digits, and only if it lies in the range asked
for.  Reading accepts more than writing produces (a plus sign, leading zeros), and what was written
reads back.

Main definitions:

* `LineScript.Decimal.digits?` — the number of a run of digits;
* `LineScript.Decimal.count?`, `LineScript.Decimal.int64?` — reading an unsigned and a signed
  64-bit number;
* `LineScript.Decimal.write` — writing a signed number.

Main result:

* `LineScript.Decimal.int64?_write` — **a written number reads back**, the least one included.
-/

set_option autoImplicit false

namespace LineScript.Decimal

/-- The number of a non-empty run of ASCII digits. -/
def digits? (cs : List Char) : Option Nat :=
  if !cs.isEmpty && cs.all Char.isDigit then some (Nat.ofDigitChars 10 cs 0) else none

/-- A number below `bound`, with an optional plus sign. -/
def countBelow? (bound : Nat) (cs : List Char) : Option Nat :=
  let number :=
    match cs with
    | '+' :: rest => digits? rest
    | _ => digits? cs
  number.filter (· < bound)

/-- An unsigned 64-bit number. -/
def count? (cs : List Char) : Option Nat :=
  countBelow? 18446744073709551616 cs

/-- An integer: an optional sign and digits. -/
def int? (cs : List Char) : Option Int :=
  match cs with
  | '+' :: rest => (digits? rest).map Int.ofNat
  | '-' :: rest => (digits? rest).map fun n => -Int.ofNat n
  | _ => (digits? cs).map Int.ofNat

/-- A signed 64-bit number; one out of range is none. -/
def int64? (cs : List Char) : Option Int64 :=
  (int? cs).bind fun n =>
    if -9223372036854775808 ≤ n ∧ n < 9223372036854775808 then some (Int64.ofInt n) else none

/-- The decimal digits of an integer, after a minus sign if it is negative. -/
def writeInt : Int → List Char
  | .ofNat n => Nat.toDigits 10 n
  | .negSucc n => '-' :: Nat.toDigits 10 (n + 1)

/-- A signed 64-bit number in decimal. -/
def write (n : Int64) : List Char :=
  writeInt n.toInt

/-! ### What was written reads back -/

theorem digits?_toDigits (n : Nat) : digits? (Nat.toDigits 10 n) = some n := by
  have hd : ∀ c ∈ Nat.toDigits 10 n, c.isDigit = true := fun c hc =>
    Nat.isDigit_of_mem_toDigits (by decide) (by decide) hc
  simp [digits?, Nat.toDigits_ne_nil, List.all_eq_true.2 hd, Nat.ofDigitChars_ten_toDigits]

/-- Digits start with no sign, so they are read as they stand. -/
theorem int?_toDigits (n : Nat) : int? (Nat.toDigits 10 n) = some (Int.ofNat n) := by
  have hd : ∀ c ∈ Nat.toDigits 10 n, c.isDigit = true := fun c hc =>
    Nat.isDigit_of_mem_toDigits (by decide) (by decide) hc
  have hr := digits?_toDigits n
  cases hcs : Nat.toDigits 10 n with
  | nil => exact absurd hcs Nat.toDigits_ne_nil
  | cons c cs =>
    have hc : c.isDigit = true := hd c (by simp [hcs])
    have hplus : c ≠ '+' := by rintro rfl; exact absurd hc (by decide)
    have hminus : c ≠ '-' := by rintro rfl; exact absurd hc (by decide)
    rw [hcs] at hr
    simp [int?, hplus, hminus, hr]

theorem int?_writeInt (n : Int) : int? (writeInt n) = some n := by
  cases n with
  | ofNat n => exact int?_toDigits n
  | negSucc n => simp [writeInt, int?, digits?_toDigits, Int.negSucc_eq]

/-- **A written number reads back**, the least one included. -/
theorem int64?_write (n : Int64) : int64? (write n) = some n := by
  have hlo : -9223372036854775808 ≤ n.toInt := Int64.le_toInt n
  have hhi : n.toInt < 9223372036854775808 := Int64.toInt_lt n
  simp only [int64?, write, int?_writeInt, Option.bind_some, hlo, hhi, and_self, if_true,
    Int64.ofInt_toInt]

end LineScript.Decimal

namespace LineScript.Text

/-- A signed 64-bit number, read from the whole of a text. -/
def int64? (s : String) : Option Int64 := Decimal.int64? s.toList

/-- An unsigned 64-bit number, read from the whole of a text. -/
def count? (s : String) : Option Nat := Decimal.count? s.toList

/-- A signed 64-bit number in decimal. -/
def ofInt64 (n : Int64) : String := .ofList (Decimal.write n)

end LineScript.Text
