/-!
**Stable sorting.**

Up to twenty items are sorted by insertion.  Of more items the runs that are in order already are kept
and merged, two at a time, in the order of a balanced tree.  What lies between such runs is put
together while it fits into the room there is, and is sorted by partition.

Nothing here needs the order to be one.  But where two halves are merged from both ends at once, an
order that contradicts itself shows: the ends take an item twice and leave out another.  Then sorting
breaks down, and the items are left as they stand at that time.

Main definitions:

* `LineScript.Sorting.Attempt` — a result, or the items that are left where sorting broke down;
* `LineScript.Sorting.mergeEnds` — **merges two halves from both ends**, or breaks down;
* `LineScript.Sorting.quicksort` — sorts by partition;
* `LineScript.Sorting.drift` — sorts by the runs there are;
* `LineScript.Sorting.sort` — **sorts items**.
-/

set_option autoImplicit false

namespace LineScript.Sorting

variable {α : Type}

/-- A result, or the items that are left where sorting broke down. -/
abbrev Attempt (α β : Type) := Except (List α) β

/-- The items that are there after sorting, whether it broke down or not. -/
def Attempt.items : Attempt α (List α) → List α
  | .ok v => v
  | .error v => v

/-- Sorting broke down. -/
def Attempt.brokeDown : Attempt α (List α) → Bool
  | .ok _ => false
  | .error _ => true

/-! ### Insertion -/

/-- Puts an item into a sequence that is in order from the last item to the first: after all items it
does not come before. -/
def insertLast (less : α → α → Bool) (x : α) : List α → List α
  | [] => [x]
  | y :: ys => if less x y then y :: insertLast less x ys else x :: y :: ys

/-- Puts items one by one into items that are in order. -/
def insertAll (less : α → α → Bool) (front rest : List α) : List α :=
  (rest.foldl (fun done x => insertLast less x done) front.reverse).reverse

/-! ### Small sorts -/

/-- Merges two pairs that are in order: first the first and the last of all four, and then the two in
between, of which it is known how they stood. -/
def mergePairs (less : α → α → Bool) (a b c d : α) : List α :=
  let early := less c a
  let late := less d b
  let first := if early then c else a
  let last := if late then b else d
  let left := if early then a else if late then c else b
  let right := if late then d else if early then b else c
  if less right left then [first, right, left, last] else [first, left, right, last]

/-- Four items, by five comparisons. -/
def sortFour (less : α → α → Bool) (p q r s : α) : List α :=
  let (a, b) := if less q p then (q, p) else (p, q)
  let (c, d) := if less s r then (s, r) else (r, s)
  mergePairs less a b c d

/-- One half of a small sort, by insertion, which may begin with four items at once. -/
def sortHalf (less : α → α → Bool) (fours : Bool) : List α → List α
  | p :: q :: r :: s :: rest =>
    if fours then insertAll less (sortFour less p q r s) rest
    else insertAll less [] (p :: q :: r :: s :: rest)
  | v => insertAll less [] v

/-- Draws so many items from the fronts of two sequences: what was drawn, and what is left of each. -/
def draw (first : α → α → Bool) : Nat → List α → List α → List α × List α × List α
  | n + 1, x :: xs, y :: ys =>
    if first x y then
      let (drawn, xs, ys) := draw first n xs (y :: ys)
      (x :: drawn, xs, ys)
    else
      let (drawn, xs, ys) := draw first n (x :: xs) ys
      (y :: drawn, xs, ys)
  | _, xs, ys => ([], xs, ys)

/-- **Merges two halves from both ends.**  Each end draws as many items as the first half has.  If
both drew the same item, merging breaks down; otherwise an item that neither drew goes in between. -/
def mergeEnds (less : α → α → Bool) (xs ys : List α) : Attempt α (List α) :=
  let (front, xs₁, ys₁) := draw (fun x y => !less y x) xs.length xs ys
  let (back, ys₂, xs₂) := draw (fun y x => !less y x) xs.length ys.reverse xs.reverse
  if xs.length ≤ xs₁.length + xs₂.length ∧ ys.length ≤ ys₁.length + ys₂.length then
    let middle := xs₁.take (xs₁.length + xs₂.length - xs.length) ++
      ys₁.take (ys₁.length + ys₂.length - ys.length)
    .ok (front ++ middle ++ back.reverse)
  else .error (xs ++ ys)

/-- How many items a small sort is for. -/
def smallSize : Nat := 32

/-- Sorts few items: both halves, which are then merged. -/
def sortSmall (less : α → α → Bool) (v : List α) : Attempt α (List α) :=
  let half := v.length / 2
  let fours : Bool := 8 ≤ v.length
  mergeEnds less (sortHalf less fours (v.take half)) (sortHalf less fours (v.drop half))

/-! ### Runs -/

/-- Draws from the fronts of two sequences until one of them is used up, and then takes the other. -/
def drawAll (first : α → α → Bool) (xs ys : List α) : List α :=
  let (drawn, xs, ys) := draw first (xs.length + ys.length) xs ys
  drawn ++ (xs ++ ys)

/-- Merges two sequences that are in order, from the end at which the shorter one stands. -/
def merge (less : α → α → Bool) (xs ys : List α) : List α :=
  if xs.length ≤ ys.length then drawAll (fun x y => !less y x) xs ys
  else (drawAll (fun y x => !less y x) ys.reverse xs.reverse).reverse

/-- The items that follow an item in a chain. -/
def chain (next : α → α → Bool) (x : α) : List α → List α
  | [] => []
  | y :: ys => if next x y then y :: chain next y ys else []

/-- The run at the front, in order.  One that goes down has no two items that are level, and is turned
around. -/
def firstRun (less : α → α → Bool) : List α → List α
  | [] => []
  | [x] => [x]
  | x :: y :: rest =>
    if less y x then (x :: chain (fun a b => less b a) x (y :: rest)).reverse
    else x :: chain (fun a b => !less b a) x (y :: rest)

/-- Items that follow one another. -/
structure Run (α : Type) where
  items : List α
  /-- the items are in order -/
  sorted : Bool

/-- How what is not in order is sorted when it has to be.  If there is no way, everything is sorted at
once. -/
abbrev Later (α : Type) := Option (List α → Attempt α (List α))

/-- A run in order. -/
def Run.settle (later : Later α) (r : Run α) : Attempt α (List α) :=
  match later with
  | none => .ok r.items
  | some sort => if r.sorted then .ok r.items else sort r.items

/-- The next run: the one at the front if it is long enough, or else the next few items. -/
def nextRun (less : α → α → Bool) (later : Later α) (enough : Nat) (v : List α) : Attempt α (Run α) :=
  let run := firstRun less v
  if enough ≤ run.length then .ok ⟨run, true⟩
  else if later.isSome then .ok ⟨v.take enough, false⟩
  else do
    let w ← (sortSmall less (v.take smallSize)).mapError (· ++ v.drop smallSize)
    return ⟨w, true⟩

/-- Makes one run of two.  Two that are not in order are left so if there is room to sort them
together. -/
def join (less : α → α → Bool) (later : Later α) (room : Nat) (left right : Run α) : Attempt α (Run α) :=
  if left.items.length + right.items.length ≤ room ∧ !left.sorted ∧ !right.sorted then
    .ok ⟨left.items ++ right.items, false⟩
  else do
    let xs ← (left.settle later).mapError (· ++ right.items)
    let ys ← (right.settle later).mapError (xs ++ ·)
    return ⟨merge less xs ys, true⟩

/-! ### The tree of merges -/

/-- How deep in the balanced tree two runs meet that lie between three places. -/
def meetingDepth (scale left middle right : Nat) : Nat :=
  let apart := scale * (left + middle) ^^^ scale * (middle + right)
  if apart = 0 then 64 else 63 - apart.log2

/-- Runs that wait to be joined, the last one first, each with the depth at which it meets the next. -/
abbrev Waiting (α : Type) := List (Run α × Nat)

/-- The items that wait, as they stand. -/
def Waiting.items : Waiting α → List α
  | [] => []
  | (run, _) :: waiting => Waiting.items waiting ++ run.items

/-- Joins the last run with all before it that it does not meet less deep than the next. -/
def joinDeeper (less : α → α → Bool) (later : Later α) (room depth : Nat) :
    Waiting α → Run α → Attempt α (Waiting α × Run α)
  | [], last => .ok ([], last)
  | (run, d) :: waiting, last =>
    if depth ≤ d then do
      let joined ← (join less later room run last).mapError (Waiting.items waiting ++ ·)
      joinDeeper less later room depth waiting joined
    else .ok ((run, d) :: waiting, last)

/-- Goes on with the items behind the runs that wait and a last run, which begins at a place. -/
def driftFrom (less : α → α → Bool) (later : Later α) (room scale enough : Nat) (waiting : Waiting α)
    (last : Run α) (place : Nat) : List α → Attempt α (List α)
  | [] => do
    let (_, all) ← joinDeeper less later room 0 waiting last
    all.settle later
  | x :: rest => do
    let middle := place + last.items.length
    let next ← (nextRun less later enough (x :: rest)).mapError (waiting.items ++ last.items ++ ·)
    let depth := meetingDepth scale place middle (middle + next.items.length)
    let rest := rest.drop (next.items.length - 1)
    let (waiting, last) ←
      (joinDeeper less later room depth waiting last).mapError (· ++ (next.items ++ rest))
    driftFrom less later room scale enough ((last, depth) :: waiting) next middle rest
termination_by rest => rest.length
decreasing_by
  simp only [List.length_drop, List.length_cons]
  omega

/-- About the square root of a number. -/
def rootOf (n : Nat) : Nat :=
  let shift := (1 + n.log2) / 2
  ((1 <<< shift) + (n >>> shift)) / 2

/-- How long a run is to be kept, among so many items. -/
def enoughOf (count : Nat) : Nat :=
  if count ≤ 4096 then min (count - count / 2) 64 else rootOf count

/-- **Sorts by the runs there are.** -/
def drift (less : α → α → Bool) (later : Later α) (room : Nat) (v : List α) : Attempt α (List α) := do
  let count := v.length
  let scale := ((1 <<< 62) + count - 1) / count
  let first ← nextRun less later (enoughOf count) v
  driftFrom less later room scale (enoughOf count) [] first 0 (v.drop first.items.length)

/-! ### Partition -/

/-- The place of the middle one of the items at three places. -/
def median (less : α → α → Bool) (v : List α) (a b c : Nat) : Nat :=
  let before (i j : Nat) : Bool := (v[i]?).any fun x => (v[j]?).any fun y => less x y
  if before a b = before a c then
    if before b c = before a b then b else c
  else a

/-- The place of a middle one among those near three places. -/
def medianNear (less : α → α → Bool) (v : List α) (a b c n : Nat) : Nat :=
  if 8 ≤ n then
    let near (i : Nat) := medianNear less v i (i + n / 8 * 4) (i + n / 8 * 7) (n / 8)
    median less v (near a) (near b) (near c)
  else median less v a b c
termination_by n

/-- The place of the item by which items are parted. -/
def pivotPlace (less : α → α → Bool) (v : List α) : Nat :=
  let n := v.length / 8
  if v.length < 64 then median less v 0 (n * 4) (n * 7) else medianNear less v 0 (n * 4) (n * 7) n

/-- Sorts by partition, and after too many partitions by runs.  All items come after the one on the
left, if there is one, by which they were parted before, or are level with it. -/
def quicksort (less : α → α → Bool) (room : Nat) : Nat → Option α → List α → Attempt α (List α)
  | limit, ancestor, v =>
    if v.length ≤ smallSize then sortSmall less v
    else
      match limit, v[pivotPlace less v]? with
      | limit + 1, some pivot =>
        let level := ancestor.any fun a => !less a pivot
        let (before, others) := if level then ([], v) else v.partition fun x => less x pivot
        if before.isEmpty then
          let (same, after) := v.partition fun x => !less pivot x
          ((quicksort less room limit none after).map (same ++ ·)).mapError (same ++ ·)
        else do
          let right ← (quicksort less room limit (some pivot) others).mapError (before ++ ·)
          let left ← (quicksort less room limit ancestor before).mapError (· ++ right)
          return left ++ right
      | _, _ => drift less none room v

/-! ### Sorting -/

/-- How many items there is room for when so many are sorted. -/
def roomFor (count : Nat) : Nat :=
  let wanted := max (max (count - count / 2) (min count 333333)) 48
  max wanted 170

/-- **Sorts items.** -/
def sort (less : α → α → Bool) (v : List α) : Attempt α (List α) :=
  let room := roomFor v.length
  if v.length ≤ 20 then .ok (insertAll less [] v)
  else if v.length ≤ 2 * smallSize then drift less none room v
  else drift less (some fun w => quicksort less room (2 * w.length.log2) none w) room v

end LineScript.Sorting
