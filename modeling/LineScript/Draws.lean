/-!
**Random choices.**

Whatever is random in a run is taken from a supply of 64-bit numbers that the host hands in.  A
supply is a finite list followed by zeros without end, so that every use of it comes to an end: a
number below a bound is drawn by rejecting the numbers beyond the last whole multiple of the bound,
and zero is never rejected.

Main definitions:

* `LineScript.Draws` — a supply of numbers;
* `LineScript.Draws.uniform` — **a number between two bounds**, each as likely as any other;
* `LineScript.Draws.index` — a place in a list;
* `LineScript.Draws.shuffle` — a list in random order.
-/

set_option autoImplicit false

namespace LineScript

/-- Numbers still to be drawn; after the last of them come zeros. -/
structure Draws where
  supply : List UInt64
  /-- how many numbers were drawn -/
  taken : Nat := 0

namespace Draws

/-- The supply of nothing but zeros. -/
def zeros : Draws := ⟨[], 0⟩

instance : Inhabited Draws := ⟨zeros⟩

/-- Draws one number. -/
def next (d : Draws) : UInt64 × Draws :=
  match d.supply with
  | [] => (0, ⟨[], d.taken + 1⟩)
  | x :: rest => (x, ⟨rest, d.taken + 1⟩)

/-- Draws until a number is below `zone`.  A zone is never empty, so the zeros at the end of the
supply are below it. -/
def belowFrom (zone taken : Nat) : List UInt64 → UInt64 × Draws
  | [] => (0, ⟨[], taken + 1⟩)
  | x :: rest =>
    if x.toNat < zone then (x, ⟨rest, taken + 1⟩) else belowFrom zone (taken + 1) rest

/-- Draws until a number is below `zone`. -/
def below (d : Draws) (zone : Nat) : UInt64 × Draws := belowFrom zone d.taken d.supply

/-- The numbers below this one are drawn with equal chances when taken modulo `n`: the largest
multiple of `n` that the greatest number allows. -/
def zone (n : Nat) : Nat := 18446744073709551615 / n * n

/-- A number from `lo` to `hi`.  A range of all numbers takes a draw as it comes. -/
def uniform (d : Draws) (lo hi : Int64) : Int64 × Draws :=
  let n := (hi.toInt - lo.toInt).toNat + 1
  if n ≥ 18446744073709551616 then
    let (x, d) := d.next
    (x.toInt64, d)
  else
    let (x, d) := d.below (zone n)
    (lo + (x.toNat % n).toUInt64.toInt64, d)

/-- A place in a list of the given length, which is not empty. -/
def index (d : Draws) (length : Nat) : Nat × Draws :=
  let (x, d) := d.below (zone length)
  (x.toNat % length, d)

/-- Takes the element at a place out of a list. -/
def pick {α : Type} : Nat → List α → Option (α × List α)
  | _, [] => none
  | 0, x :: xs => some (x, xs)
  | i + 1, x :: xs => (pick i xs).map fun (y, ys) => (y, x :: ys)

/-- Takes the elements out of a list in random order; `count` is their number. -/
def shuffleFrom {α : Type} (d : Draws) : Nat → List α → List α × Draws
  | 0, xs => (xs, d)
  | count + 1, xs =>
    let (i, d) := d.index (count + 1)
    match pick i xs with
    | none => (xs, d)
    | some (x, rest) =>
      let (ys, d) := d.shuffleFrom count rest
      (x :: ys, d)

/-- A list in random order. -/
def shuffle {α : Type} (d : Draws) (xs : List α) : List α × Draws :=
  d.shuffleFrom xs.length xs

end Draws

end LineScript
