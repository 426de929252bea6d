/-!
**Lengths of time and points in time.**

A duration is a whole number of nanoseconds.  An instant is the time since some fixed beginning.  The
clock counts seconds in 63 bits, so there is a last instant, and what would be later is no instant.

Main definitions:

* `LineScript.Duration` — a number of nanoseconds;
* `LineScript.Duration.text` — a duration in its largest fitting unit, such as `1.5ms`;
* `LineScript.Instant` — a point in time;
* `LineScript.Instant.after?` — **so much later**, if there is such an instant.
-/

set_option autoImplicit false

namespace LineScript

/-- A length of time, in nanoseconds. -/
structure Duration where
  nanos : Nat
deriving DecidableEq, Ord

namespace Duration

/-- No time at all. -/
def zero : Duration := ⟨0⟩

instance : Inhabited Duration := ⟨zero⟩

/-- A number of seconds. -/
def ofSeconds (n : Nat) : Duration := ⟨1000000000 * n⟩

theorem nanos_ofSeconds_pos {n : Nat} (h : n ≠ 0) : 0 < (ofSeconds n).nanos := by
  simp only [ofSeconds]
  omega

/-- A number of milliseconds. -/
def ofMillis (n : Nat) : Duration := ⟨1000000 * n⟩

/-- A number of microseconds. -/
def ofMicros (n : Nat) : Duration := ⟨1000 * n⟩

/-- The whole seconds. -/
def seconds (d : Duration) : Nat := d.nanos / 1000000000

/-- What is left beside the whole seconds, in nanoseconds. -/
def restNanos (d : Duration) : Nat := d.nanos % 1000000000

instance : LE Duration := ⟨fun a b => a.nanos ≤ b.nanos⟩

instance : LT Duration := ⟨fun a b => a.nanos < b.nanos⟩

instance (a b : Duration) : Decidable (a ≤ b) := inferInstanceAs (Decidable (a.nanos ≤ b.nanos))

instance (a b : Duration) : Decidable (a < b) := inferInstanceAs (Decidable (a.nanos < b.nanos))

instance : Min Duration := ⟨fun a b => if a ≤ b then a else b⟩

/-! ### Text -/

/-- A number with at least `width` digits, zeros in front. -/
def padded (width n : Nat) : List Char :=
  let digits := Nat.toDigits 10 n
  List.replicate (width - digits.length) '0' ++ digits

/-- A fraction of `width` decimal places without the zeros at its end, after a point; nothing if it
is zero. -/
def fraction (width n : Nat) : List Char :=
  if n == 0 then []
  else '.' :: ((padded width n).reverse.dropWhile (· == '0')).reverse

/-- A whole number and a fraction in a unit. -/
def inUnit (whole width rest : Nat) (unit : String) : String :=
  .ofList (Nat.toDigits 10 whole ++ fraction width rest) ++ unit

/-- The duration in the largest of seconds, milliseconds, microseconds and nanoseconds of which it
has at least one, with as many decimal places as it takes. -/
def text (d : Duration) : String :=
  if d.nanos ≥ 1000000000 then inUnit d.seconds 9 d.restNanos "s"
  else if d.nanos ≥ 1000000 then inUnit (d.nanos / 1000000) 6 (d.nanos % 1000000) "ms"
  else if d.nanos ≥ 1000 then inUnit (d.nanos / 1000) 3 (d.nanos % 1000) "µs"
  else inUnit d.nanos 0 0 "ns"

end Duration

/-! ### Instants -/

/-- How many nanoseconds the clock counts. -/
def clockSpan : Nat := 9223372036854775808 * 1000000000

/-- A point in time, as the number of nanoseconds since a fixed beginning. -/
@[ext] structure Instant where
  nanos : Nat
  inSpan : nanos < clockSpan
deriving DecidableEq

namespace Instant

/-- The beginning. -/
def beginning : Instant := ⟨0, by decide⟩

instance : Inhabited Instant := ⟨beginning⟩

/-- So much after the beginning, or the last instant if that is earlier. -/
def ofDuration (d : Duration) : Instant := ⟨min d.nanos (clockSpan - 1), by unfold clockSpan; omega⟩

/-- So much later, unless that is after the last instant. -/
def after? (t : Instant) (d : Duration) : Option Instant :=
  if h : t.nanos + d.nanos < clockSpan then some ⟨t.nanos + d.nanos, h⟩ else none

theorem after?_eq_some_iff {t u : Instant} {d : Duration} :
    t.after? d = some u ↔ u.nanos = t.nanos + d.nanos := by
  obtain ⟨n, h⟩ := u
  unfold after?
  split
  · simp only [Option.some.injEq, Instant.mk.injEq]
    exact eq_comm
  · simp only [reduceCtorEq, false_iff]
    omega

theorem after?_eq_none_iff {t : Instant} {d : Duration} :
    t.after? d = none ↔ clockSpan ≤ t.nanos + d.nanos := by
  unfold after?
  split <;> simp <;> omega

instance : LE Instant := ⟨fun a b => a.nanos ≤ b.nanos⟩

instance : LT Instant := ⟨fun a b => a.nanos < b.nanos⟩

instance (a b : Instant) : Decidable (a ≤ b) := inferInstanceAs (Decidable (a.nanos ≤ b.nanos))

instance (a b : Instant) : Decidable (a < b) := inferInstanceAs (Decidable (a.nanos < b.nanos))

instance : Min Instant := ⟨fun a b => if a ≤ b then a else b⟩

end Instant

end LineScript
