import LineScript.Regex.CharSet

/-!
**Characters as bytes.**

A text is stored in UTF-8, where a character takes one to four bytes.  The characters of a range are
described byte by byte: the range is cut into pieces in each of which every byte runs through a
range of its own, whatever the other bytes are.

Main definitions:

* `LineScript.Regex.ByteRange` — a range of bytes;
* `LineScript.Regex.ByteRange.cut?` — where a range of characters has to be cut;
* `LineScript.Regex.ByteRange.pieces` — the pieces of a range;
* `LineScript.Regex.CharSet.pieces` — **the pieces of a set**, in ascending order.
-/

set_option autoImplicit false

namespace LineScript.Regex

/-- The bytes from `lo` to `hi`. -/
structure ByteRange where
  lo : Nat
  hi : Nat
deriving DecidableEq

namespace ByteRange

/-- A cut after `last`, if it leaves something on both sides. -/
def cutAfter? (lo hi last : Nat) : Option { m : Nat // lo ≤ m ∧ m < hi } :=
  if h : lo ≤ last ∧ last < hi then some ⟨last, h⟩ else none

/-- The cut that the last bytes of the characters ask for, where `size` is the number of characters
that share all bytes but these: the first bytes may change only between full blocks. -/
def blockCut? (lo hi size : Nat) : Option { m : Nat // lo ≤ m ∧ m < hi } :=
  if lo / size = hi / size then none
  else if lo % size ≠ 0 then cutAfter? lo hi (lo / size * size + (size - 1))
  else if hi % size ≠ size - 1 then cutAfter? lo hi (hi / size * size - 1)
  else none

/-- Where the range of characters from `lo` to `hi` has to be cut: where the number of bytes
changes, and else at a block, of which single bytes know none. -/
def cut? (lo hi : Nat) : Option { m : Nat // lo ≤ m ∧ m < hi } :=
  ([0x7F, 0x7FF, 0xFFFF].findSome? (cutAfter? lo hi)).or
    (if hi ≤ 0x7F then none else [64, 4096, 262144].findSome? (blockCut? lo hi))

/-- The bytes of a character, by its code point. -/
def encode (n : Nat) : List Nat :=
  if n < 0x80 then [n]
  else if n < 0x800 then [0xC0 + n / 64, 0x80 + n % 64]
  else if n < 0x10000 then [0xE0 + n / 4096, 0x80 + n / 64 % 64, 0x80 + n % 64]
  else [0xF0 + n / 262144, 0x80 + n / 4096 % 64, 0x80 + n / 64 % 64, 0x80 + n % 64]

/-- The pieces of the range of characters from `lo` to `hi`. -/
def pieces (lo hi : Nat) : List (List ByteRange) :=
  match cut? lo hi with
  | some ⟨m, _⟩ => pieces lo m ++ pieces (m + 1) hi
  | none => [(encode lo).zipWith ByteRange.mk (encode hi)]
termination_by hi - lo

end ByteRange

/-- The pieces of a set, in ascending order.  A range across the code points that are no characters
is first cut there. -/
def CharSet.pieces (s : CharSet) : List (List ByteRange) :=
  s.ranges.flatMap fun (lo, hi) =>
    if lo < 0xE000 ∧ 0xD7FF < hi then ByteRange.pieces lo 0xD7FF ++ ByteRange.pieces 0xE000 hi
    else ByteRange.pieces lo hi

end LineScript.Regex
