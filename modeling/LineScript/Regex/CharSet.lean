import LineScript.Regex.Fold
import LineScript.Text.CodeRuns

/-!
**Sets of characters in patterns.**

A pattern describes a set of characters by ranges, by properties and by the operations on sets that
its brackets allow.  A set is kept as the list of its ranges, in ascending order and as few as
possible, so that two descriptions of one set come to the same list.

The code points between `0xD7FF` and `0xE000` are no characters.  The neighbours of a character are
counted as if they were not there, but two ranges on the two sides of the gap stay two ranges.

Main definitions:

* `LineScript.Regex.CharSet` — the sets;
* `LineScript.Regex.CharSet.contains` — **membership**;
* `LineScript.Regex.CharSet.ofRanges` — the set of the characters of some ranges, in any order;
* `LineScript.Regex.CharSet.union`, `LineScript.Regex.CharSet.inter`,
  `LineScript.Regex.CharSet.minus`, `LineScript.Regex.CharSet.differ`,
  `LineScript.Regex.CharSet.compl` — the operations on sets;
* `LineScript.Regex.CharSet.folded`, `LineScript.Regex.CharSet.asciiFolded` — the members together
  with their case variants.
-/

set_option autoImplicit false

namespace LineScript.Regex

/-- A set of characters: its ranges, each by its first and its last code point. -/
structure CharSet where
  ranges : List (Nat × Nat)
deriving DecidableEq

namespace CharSet

/-! ### Sets from ranges -/

/-- Joins a range with those of the ranges after it that it meets. -/
def joinFrom (lo hi : Nat) : List (Nat × Nat) → List (Nat × Nat)
  | [] => [(lo, hi)]
  | (lo', hi') :: rest =>
    if lo' ≤ hi + 1 then joinFrom lo (max hi hi') rest else (lo, hi) :: joinFrom lo' hi' rest

/-- The set of the characters of some ranges, in any order. -/
def ofRanges (rs : List (Nat × Nat)) : CharSet :=
  match rs.mergeSort fun a b => a.1 ≤ b.1 with
  | [] => ⟨[]⟩
  | (lo, hi) :: rest => ⟨joinFrom lo hi rest⟩

/-- The set without members. -/
def none : CharSet := ⟨[]⟩

/-- The set of all characters. -/
def all : CharSet := ⟨[(0, 0x10FFFF)]⟩

/-- The set of one character. -/
def single (c : Char) : CharSet := ⟨[(c.toNat, c.toNat)]⟩

/-- The characters from `lo` to `hi`. -/
def range (lo hi : Char) : CharSet := ⟨[(lo.toNat, hi.toNat)]⟩

/-- The ranges of run lengths that begin at `start`. -/
def rangesOfRuns (start : Nat) : CodeRuns → List (Nat × Nat)
  | outside :: inside :: rest =>
    (start + outside, start + outside + inside - 1) ::
      rangesOfRuns (start + outside + inside) rest
  | _ => []

/-- The characters that run lengths describe. -/
def ofRuns (r : CodeRuns) : CharSet := ⟨rangesOfRuns 0 r⟩

/-! ### Membership -/

/-- The code point lies in one of the ranges, which are in ascending order. -/
def containsFrom (n : Nat) : List (Nat × Nat) → Bool
  | [] => false
  | (lo, hi) :: rest => if n < lo then false else n ≤ hi || containsFrom n rest

/-- The character lies in the set. -/
def contains (s : CharSet) (c : Char) : Bool := containsFrom c.toNat s.ranges

/-- The set has no members. -/
def isEmpty (s : CharSet) : Bool := s.ranges.isEmpty

/-- All members are ASCII characters. -/
def isAscii (s : CharSet) : Bool := s.ranges.all fun r => r.2 < 128

/-- The only member of a set that has but one. -/
def only? (s : CharSet) : Option Char :=
  match s.ranges with
  | [(lo, hi)] => if lo = hi then some (Char.ofNat lo) else .none
  | _ => .none

/-! ### Operations -/

/-- The characters in one of two sets. -/
def union (a b : CharSet) : CharSet := ofRanges (a.ranges ++ b.ranges)

/-- The characters in one of several sets. -/
def unions (sets : List CharSet) : CharSet := ofRanges (sets.flatMap ranges)

/-- The common part of two lists of ranges. -/
def interFrom : List (Nat × Nat) → List (Nat × Nat) → List (Nat × Nat)
  | (a, b) :: as, (c, d) :: cs =>
    let rest := if b < d then interFrom as ((c, d) :: cs) else interFrom ((a, b) :: as) cs
    if max a c ≤ min b d then (max a c, min b d) :: rest else rest
  | _, _ => []
termination_by as cs => as.length + cs.length

/-- The characters in both of two sets. -/
def inter (a b : CharSet) : CharSet := ⟨interFrom a.ranges b.ranges⟩

/-- The code point of the next character. -/
def after (n : Nat) : Nat := if n = 0xD7FF then 0xE000 else n + 1

/-- The code point of the character before. -/
def before (n : Nat) : Nat := if n = 0xE000 then 0xD7FF else n - 1

/-- What some ranges leave of the range from `lo` to `hi`. -/
def leftOf (lo hi : Nat) : List (Nat × Nat) → List (Nat × Nat)
  | [] => [(lo, hi)]
  | (a, b) :: rest =>
    if b < lo then leftOf lo hi rest
    else if hi < a then [(lo, hi)]
    else
      (if lo < a then [(lo, before a)] else []) ++ (if b < hi then leftOf (after b) hi rest else [])

/-- The characters in the first of two sets only. -/
def minus (a b : CharSet) : CharSet := ⟨a.ranges.flatMap fun r => leftOf r.1 r.2 b.ranges⟩

/-- The characters in exactly one of two sets. -/
def differ (a b : CharSet) : CharSet := (a.union b).minus (a.inter b)

/-- The ranges between ranges, and up to the last character, where the range before them ended at
`hi`.  Between two ranges that meet at the gap there is no character; the two that meet there are
taken in its place. -/
def gapsAfter (hi : Nat) : List (Nat × Nat) → List (Nat × Nat)
  | [] => if hi < 0x10FFFF then [(after hi, 0x10FFFF)] else []
  | (lo, hi') :: rest =>
    (min (after hi) (before lo), max (after hi) (before lo)) :: gapsAfter hi' rest

/-- The characters not in a set. -/
def compl (s : CharSet) : CharSet :=
  match s.ranges with
  | [] => all
  | (lo, hi) :: rest => ⟨(if 0 < lo then [(0, before lo)] else []) ++ gapsAfter hi rest⟩

/-! ### Case -/

/-- The partners of the members of some ranges, both in ascending order. -/
def partnersFrom : List (Nat × List Nat) → List (Nat × Nat) → List Nat
  | (n, others) :: ps, (lo, hi) :: rs =>
    if n < lo then partnersFrom ps ((lo, hi) :: rs)
    else if hi < n then partnersFrom ((n, others) :: ps) rs
    else others ++ partnersFrom ps ((lo, hi) :: rs)
  | _, _ => []
termination_by ps rs => ps.length + rs.length

/-- The members and their case variants. -/
def folded (s : CharSet) : CharSet :=
  ofRanges (s.ranges ++ (partnersFrom Fold.partners s.ranges).map fun n => (n, n))

/-- The members and the case variants of those that are ASCII letters. -/
def asciiFolded (s : CharSet) : CharSet :=
  let upper := (s.inter (range 'A' 'Z')).ranges.map fun r => (r.1 + 32, r.2 + 32)
  let lower := (s.inter (range 'a' 'z')).ranges.map fun r => (r.1 - 32, r.2 - 32)
  ofRanges (s.ranges ++ upper ++ lower)

end CharSet

end LineScript.Regex
