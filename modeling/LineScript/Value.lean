import LineScript.Text.Blank
import LineScript.Text.Decimal
import LineScript.Text.Case

/-!
**Values.**

A value is a text together with the number it reads as.  A statement uses whichever half it needs,
so nothing is ever converted at the place of use.  The two halves cannot disagree: the number is
the one the text reads as, blanks around it aside, and 0 when it reads as none.

Main definitions:

* `LineScript.Value` — a text and its number, with the proof that they agree;
* `LineScript.Value.ofText`, `LineScript.Value.ofNumber`, `LineScript.Value.ofBool` — the ways to
  make one;
* `LineScript.Value.compare` — the order of a sorted list.

Main results:

* `LineScript.Value.number_ofNumber` — a value made from a number has that number, and its text
  reads back as it;
* `LineScript.Value.ext_text` — **a value is determined by its text**.
-/

set_option autoImplicit false

namespace LineScript

/-- The number a text reads as: a signed 64-bit integer, blanks around it aside, or 0. -/
def numberOf (text : String) : Int64 :=
  (Decimal.int64? (Blank.trim text.toList)).getD 0

/-- A text and the number it reads as. -/
structure Value where
  text : String
  number : Int64
  number_eq : number = numberOf text
deriving DecidableEq

namespace Value

/-! ### Making values -/

/-- The value of a text. -/
def ofText (text : String) : Value := ⟨text, numberOf text, rfl⟩

/-- The value that every name has until it is given another. -/
def empty : Value := ofText ""

instance : Inhabited Value := ⟨empty⟩

/-- A value is determined by its text. -/
theorem ext_text {a b : Value} (h : a.text = b.text) : a = b := by
  obtain ⟨s, n, hn⟩ := a
  obtain ⟨t, m, hm⟩ := b
  subst hn hm
  simp_all

theorem ofText_text (v : Value) : ofText v.text = v := ext_text rfl

/-- A text without blanks is trimmed already. -/
theorem trim_eq_self {cs : List Char} (h : ∀ c ∈ cs, Blank.isBlank c = false) :
    Blank.trim cs = cs := by
  have drop : ∀ {ds : List Char}, (∀ c ∈ ds, Blank.isBlank c = false) →
      ds.dropWhile Blank.isBlank = ds := by
    intro ds hd
    cases ds with
    | nil => rfl
    | cons d ds => simp [List.dropWhile, hd d (by simp)]
  rw [Blank.trim, Blank.trimStart, drop h, Blank.trimEnd,
    drop (fun c hc => h c (List.mem_reverse.1 hc)), List.reverse_reverse]

/-- Decimal text has no blanks. -/
theorem isBlank_of_mem_write {n : Int64} {c : Char} (h : c ∈ Decimal.write n) :
    Blank.isBlank c = false := by
  have digit : ∀ {m : Nat} {d : Char}, d ∈ Nat.toDigits 10 m → Blank.isBlank d = false := by
    intro m d hd
    have range : 48 ≤ d.toNat ∧ d.toNat ≤ 57 :=
      Char.isDigit_iff_toNat.1 (Nat.isDigit_of_mem_toDigits (by decide) (by decide) hd)
    simp [Blank.isBlank]
    omega
  unfold Decimal.write Decimal.writeInt at h
  split at h
  · exact digit h
  · rcases List.mem_cons.1 h with rfl | h
    · decide
    · exact digit h

/-- Decimal text reads as the number it was written from. -/
theorem numberOf_ofInt64 (n : Int64) : numberOf (Text.ofInt64 n) = n := by
  simp [numberOf, Text.ofInt64, trim_eq_self (fun c h => isBlank_of_mem_write h),
    Decimal.int64?_write]

/-- The value of a number; its text is the number in decimal. -/
def ofNumber (n : Int64) : Value := ⟨Text.ofInt64 n, n, (numberOf_ofInt64 n).symm⟩

@[simp] theorem number_ofNumber (n : Int64) : (ofNumber n).number = n := rfl

@[simp] theorem text_ofText (s : String) : (ofText s).text = s := rfl

/-- A value of an integer that lies in the 64-bit range. -/
def ofInt (n : Int) : Value := ofNumber (Int64.ofInt n)

/-- The value of a truth: 1 or 0. -/
def ofBool (b : Bool) : Value := ofNumber (if b then 1 else 0)

/-! ### Reading values -/

/-- A value counts as true when its number is not 0. -/
def isTrue (v : Value) : Bool := v.number != 0

/-- The value has no text. -/
def isEmpty (v : Value) : Bool := v.text.isEmpty

/-- The text is a whole number, so that the number was read and not assumed. -/
def isNumeric (v : Value) : Bool := (Decimal.int64? (Blank.trim v.text.toList)).isSome

/-- Two values are the same text up to case. -/
def sameText (a : Value) (s : String) : Bool := Case.lowercase a.text == Case.lowercase s

/-- The order of a sorted list: by number when both sides are numeric, otherwise by lower-cased
text, code point by code point. -/
def compare (a b : Value) : Ordering :=
  if a.isNumeric && b.isNumeric then Ord.compare a.number.toInt b.number.toInt
  else Ord.compare (Case.lowercase a.text) (Case.lowercase b.text)

end Value

end LineScript
