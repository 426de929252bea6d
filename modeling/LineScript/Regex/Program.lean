import LineScript.Regex.Syntax

/-!
**Patterns as programs.**

An expression is turned into a list of instructions for a machine that explores a text with many
threads at once.  An instruction either consumes a character, or is passed without consuming
anything: a choice between two addresses in order of preference, a jump, a note of the present
position, a condition on the place.  Code is laid out in the order of the expression, so that an
instruction that names no address is followed by the next one.

A starred body that may match nothing is laid out as an optional repetition of at least one round:
only then are the preferences right, because a second visit to the same address at the same place is
never explored.

Main definitions:

* `LineScript.Regex.Instr` — the instructions;
* `LineScript.Regex.size` — the number of instructions of an expression;
* `LineScript.Regex.emit` — lays out the code of an expression;
* `LineScript.Regex.Program` — code together with the groups it notes.

Main result:

* `LineScript.Regex.size_emit` — **code has the size announced**, on which the addresses of forward
  jumps rest.
-/

set_option autoImplicit false

namespace LineScript.Regex

/-- An instruction. -/
inductive Instr where
  /-- consume a character of the set -/
  | one (set : CharSet)
  /-- go on at either address, the first preferred -/
  | split (first second : Nat)
  | jump (target : Nat)
  /-- note the position -/
  | note (slot : Nat)
  | look (l : Look)
  /-- the pattern has matched -/
  | done

/-- A choice between going on and leaving: a greedy one prefers to go on. -/
def Instr.choose (greedy : Bool) (inside outside : Nat) : Instr :=
  if greedy then .split inside outside else .split outside inside

/-- The number of instructions of an expression. -/
def size : Regex → Nat
  | empty => 0
  | text cs => cs.length
  | one _ _ => 1
  | look _ => 1
  | group _ _ r => size r + 2
  | seq a b => size a + size b
  | alt a b => size a + size b + 2
  | loop least most _ r =>
    match most with
    | some most => least * size r + (most - least) * (size r + 1)
    | none =>
      match least with
      | 0 => size r + 2
      | n + 1 => n * size r + (size r + 1)

/-- Applies a function the given number of times. -/
def times {α : Type} (f : α → α) : Nat → α → α
  | 0, a => a
  | n + 1, a => times f n (f a)

/-- Lays out the code of an expression after the code there is. -/
def emit : Regex → Array Instr → Array Instr
  | empty, code => code
  | text cs, code => code ++ (cs.map fun c => Instr.one (.single c)).toArray
  | one s _, code => code.push (.one s)
  | look l, code => code.push (.look l)
  | group index _ r, code => (emit r (code.push (.note (2 * index)))).push (.note (2 * index + 1))
  | seq a b, code => emit b (emit a code)
  | alt a b, code =>
    let here := code.size
    let second := here + size a + 2
    let code := emit a (code.push (.split (here + 1) second))
    emit b (code.push (.jump (second + size b)))
  | loop least most greedy r, code =>
    match most with
    | some most =>
      -- every optional round may leave for the end of all of them
      let code := times (emit r) least code
      let last := code.size + (most - least) * (size r + 1)
      times (fun code => emit r (code.push (.choose greedy (code.size + 1) last))) (most - least) code
    | none =>
      match least with
      | 0 =>
        let here := code.size
        let last := here + size r + 2
        let code := emit r (code.push (.choose greedy (here + 1) last))
        if r.consumes then code.push (.jump here) else code.push (.choose greedy (here + 1) last)
      | n + 1 =>
        let code := times (emit r) n code
        let here := code.size
        let code := emit r code
        code.push (.choose greedy here (code.size + 1))

/-- A program and the groups whose text it notes; group 0 is the whole match. -/
structure Program where
  code : Array Instr
  /-- the number of groups, the whole match among them -/
  groups : Nat
  /-- the names of groups, by index -/
  names : List (Nat × String)

/-- The program of an expression: the whole match is group 0. -/
def compile (r : Regex) : Program :=
  let groups := r.groups
  { code := (emit (group 0 none r) #[]).push .done
    groups := (groups.map Prod.fst).foldl max 0 + 1
    names := groups.filterMap fun (index, name) => name.map (index, ·) }

/-! ### Sizes -/

theorem size_times {f : Array Instr → Array Instr} {k : Nat} (h : ∀ code, (f code).size = code.size + k)
    (n : Nat) (code : Array Instr) : (times f n code).size = code.size + n * k := by
  induction n generalizing code with
  | zero => simp [times]
  | succ n ih => rw [times, ih, h, Nat.succ_mul]; omega

/-- **Code has the size announced.** -/
theorem size_emit (r : Regex) (code : Array Instr) : (emit r code).size = code.size + size r := by
  induction r generalizing code with
  | empty => simp [emit, size]
  | text cs => simp [emit, size]
  | one s bytes => simp [emit, size]
  | look l => simp [emit, size]
  | group index name r ih => simp [emit, size, ih]; omega
  | seq a b iha ihb => simp [emit, size, iha, ihb]; omega
  | alt a b iha ihb => simp [emit, size, iha, ihb]; omega
  | loop least most greedy r ih =>
    cases most with
    | some most =>
      simp only [emit, size]
      rw [size_times (k := size r + 1) (by intro code; simp [ih]; omega), size_times ih]
      omega
    | none =>
      cases least with
      | zero =>
        simp only [emit, size]
        split <;> simp [ih] <;> omega
      | succ n =>
        simp only [emit, size]
        simp [ih, size_times ih]
        omega

end LineScript.Regex
