import LineScript.Regex.ByteRange
import LineScript.Regex.Syntax
import Std.Data.HashMap

/-!
**The weight of an expression.**

Repetitions with bounds are laid out round by round, so a short pattern can stand for an automaton
of any size.  The weight of an expression is the number of bytes that an automaton for it takes when
it reads text byte by byte, and a pattern whose automaton is too heavy is refused.  There are two
automata: one reads forward and notes where groups begin and end, the other one reads backward and
notes nothing.

A state takes 32 bytes, a way out of a choice 4 more, and a step that a state offers among several 8
more.  The automata are not built, only measured: a layout knows how many states there are, which is
also the number of the next one.

For a set of characters beyond ASCII the automaton shares the states that several pieces of the set
have in common.  Those of a piece are looked up in a table with a fixed number of places, where the
latest entry of a place replaces the one before; what was replaced is built again.

Main definitions:

* `LineScript.Regex.Layout` — how large an automaton is so far;
* `LineScript.Regex.Layout.addSet`, `LineScript.Regex.Layout.addSetBackward` — the states of a set;
* `LineScript.Regex.Layout.addWords` — the states of a choice between texts;
* `LineScript.Regex.Layout.add` — the states of an expression;
* `LineScript.Regex.weight`, `LineScript.Regex.heaviest` — **the weight, and its limit**.
-/

set_option autoImplicit false

namespace LineScript.Regex

/-- How large an automaton is: the number of its states, and the bytes they take beyond the fixed
ones. -/
structure Layout where
  states : Nat
  extra : Nat

namespace Layout

/-- The bytes taken. -/
def bytes (l : Layout) : Nat := 32 * l.states + l.extra

/-- Adds some states without further bytes. -/
def plain (l : Layout) (n : Nat) : Layout := ⟨l.states + n, l.extra⟩

/-- Adds a state that offers several steps. -/
def offering (l : Layout) (steps : Nat) : Layout := ⟨l.states + 1, l.extra + 8 * steps⟩

/-- Adds a choice with the given number of ways out. -/
def choosing (l : Layout) (ways : Nat) : Layout := ⟨l.states + 1, l.extra + 4 * ways⟩

/-- Adds further ways out to a choice that is there. -/
def widened (l : Layout) (ways : Nat) : Layout := ⟨l.states, l.extra + 4 * ways⟩

/-! ### Sets of characters -/

/-- Mixes a number into a hash. -/
def mix (h : UInt64) (n : Nat) : UInt64 := (h ^^^ n.toUInt64) * 1099511628211

/-- The hash of some numbers. -/
def hash (ns : List Nat) : UInt64 := ns.foldl mix 14695981039346656037

/-- A table of states by what they stand for, with a fixed number of places. -/
structure Shared where
  layout : Layout
  table : Std.HashMap Nat (List Nat × Nat)

/-- The state that stands for `key`, built by `build` if the table does not hold it. -/
def Shared.state (s : Shared) (places : Nat) (key : List Nat) (build : Layout → Layout) :
    Nat × Shared :=
  let place := (hash key % places.toUInt64).toNat
  match s.table[place]?.filter fun e => e.1 = key with
  | some (_, state) => (state, s)
  | none => (s.layout.states, ⟨build s.layout, s.table.insert place (key, s.layout.states)⟩)

/-- A state in the making: the steps that are settled, the latest first, each by the bytes it takes
and the state it leads to, and the step whose state is not known yet. -/
structure Node where
  settled : List (ByteRange × Nat)
  pending : Option ByteRange

/-- The pending step leads to `next`. -/
def Node.settle (n : Node) (next : Nat) : Node :=
  match n.pending with
  | some r => ⟨(r, next) :: n.settled, none⟩
  | none => n

/-- The state of a node whose steps are all settled. -/
def Shared.ofNode (s : Shared) (n : Node) : Nat × Shared :=
  let steps := n.settled.reverse
  s.state 10000 (steps.flatMap fun (r, next) => [r.lo, r.hi, next]) (·.offering steps.length)

/-- Builds the states of so many nodes, the latest first, and settles the step of the one before
them. -/
def Shared.close (next : Nat) : Nat → List Node → Shared → List Node × Shared
  | 0, n :: nodes, s => (n.settle next :: nodes, s)
  | k + 1, n :: nodes, s =>
    let (state, s) := s.ofNode (n.settle next)
    close state k nodes s
  | _, [], s => ([], s)

/-- Adds a piece of a set: it shares the nodes with which the piece before it began alike. -/
def Shared.addPiece (target : Nat) (piece : List ByteRange) (nodes : List Node) (s : Shared) :
    List Node × Shared :=
  let alike := (piece.zip nodes.reverse).takeWhile fun (r, n) => n.pending = some r
  let (nodes, s) := s.close target (nodes.length - (alike.length + 1)) nodes
  match piece.drop alike.length, nodes with
  | r :: rest, n :: nodes =>
    ((rest.map fun r => ⟨[], some r⟩).reverse ++ { n with pending := some r } :: nodes, s)
  | _, nodes => (nodes, s)

/-- The states of a set, read forward: the target, and before it the bytes of each character. -/
def addSet (l : Layout) (pieces : List (List ByteRange)) : Layout :=
  let target := l.states
  let (nodes, s) := pieces.foldl (fun (nodes, s) piece => s.addPiece target piece nodes)
    ([⟨[], none⟩], (⟨l.plain 1, ∅⟩ : Shared))
  let (nodes, s) := s.close target (nodes.length - 1) nodes
  match nodes with
  | root :: _ => (s.ofNode root).2.layout
  | [] => s.layout

/-- The states of a set, read backward: a choice between its pieces, whose last bytes come first,
and the target behind them. -/
def addSetBackward (l : Layout) (pieces : List (List ByteRange)) : Layout :=
  let target := l.states + 1
  let s := pieces.foldl
    (fun (s : Shared) piece =>
      (piece.foldl (fun (next, s) r => Shared.state s 1000 [next, r.lo, r.hi] (·.plain 1))
        (target, s)).2)
    (⟨l.plain 2, ∅⟩ : Shared)
  s.layout.widened pieces.length

/-! ### Choices between texts -/

/-- The words that begin with a byte, without it. -/
abbrev Branch := Nat × List (List Nat)

/-- Adds a word to the branches of its first byte. -/
def addWord (byte : Nat) (word : List Nat) : List Branch → List Branch
  | [] => [(byte, [word])]
  | (b, words) :: rest =>
    if b = byte then (b, words ++ [word]) :: rest else (b, words) :: addWord byte word rest

/-- Divides words by their first bytes.  A word that is over divides those before it from those
after it, because it is preferred to the latter. -/
def chunksFrom (closed : List (List Branch)) (chunk : List Branch) :
    List (List Nat) → List (List Branch)
  | [] => closed ++ [chunk]
  | [] :: rest =>
    if !closed.isEmpty && chunk.isEmpty && closed.all List.isEmpty then
      chunksFrom closed chunk rest
    else chunksFrom (closed ++ [chunk]) [] rest
  | (byte :: word) :: rest => chunksFrom closed (addWord byte word chunk) rest

/-- Adds the states for words that are not all over, no longer than `length`. -/
def addTree : Nat → List (List Nat) → Layout → Layout
  | 0, _, l => l
  | length + 1, words, l =>
    let chunks := chunksFrom [] [] words
    let l := chunks.flatten.foldl
      (fun l (_, words) => if words.all List.isEmpty then l else addTree length words l) l
    let full := chunks.filter (!·.isEmpty)
    let l := full.foldl
      (fun l chunk => if chunk.length = 1 then l.plain 1 else l.offering chunk.length) l
    l.choosing (full.length + (chunks.length - 1))

/-- The states of a choice between texts: a tree of their bytes. -/
def addWords (l : Layout) (words : List (List Nat)) : Layout :=
  addTree ((words.map List.length).foldl max 0) words (l.plain 1)

end Layout

/-! ### Expressions -/

/-- The bytes of a text. -/
def bytesOf (cs : List Char) : List Nat := cs.flatMap fun c => ByteRange.encode c.toNat

/-- The bytes of the texts of a choice, if all its alternatives are texts. -/
def words? (r : Regex) : Option (List (List Nat)) :=
  r.branches.mapM fun b =>
    match b with
    | text cs => some (bytesOf cs)
    | _ => none

/-- The heaviest automaton that is accepted: ten binary megabytes. -/
def heaviest : Nat := 10485760

namespace Layout

/-- Adds the given number of copies, but none to an automaton that is too heavy already. -/
def copies (add : Layout → Layout) : Nat → Layout → Layout
  | 0, l => l
  | n + 1, l => if heaviest < l.bytes then l else copies add n (add l)

/-- Adds the states of an expression.  `further` tells that the expression is made of the
alternatives after the second one of a choice, for which the choice itself is there. -/
def add (backward further : Bool) : Regex → Layout → Layout
  | empty, l => l.plain 1
  | text cs, l => l.plain (bytesOf cs).length
  | one s _, l =>
    if s.isAscii then (l.plain 1).offering s.ranges.length
    else if backward then l.addSetBackward s.pieces
    else l.addSet s.pieces
  | look _, l => l.plain 1
  | group _ _ r, l =>
    if backward then add backward false r l else (add backward false r (l.plain 1)).plain 1
  | seq a b, l =>
    if backward then add backward false a (add backward false b l)
    else add backward false b (add backward false a l)
  | alt a b, l =>
    if further then add backward true b (add backward false a l)
    else
      match words? (alt a b) with
      | some words => l.addWords (if backward then words.map List.reverse else words)
      | none =>
        let ways := (alt a b).branches.length
        match b with
        | alt b c =>
          let l := add backward false b (add backward false a l)
          add backward true c ((l.choosing ways).plain 1)
        | b => ((add backward false b (add backward false a l)).choosing ways).plain 1
  | loop least most _ r, l =>
    let body := add backward false r
    match least, most with
    | 0, none =>
      if r.consumes then body (l.choosing 2) else (((body l).choosing 2).choosing 2).plain 1
    | least, none => (copies body least l).choosing 2
    | 0, some 1 => (body (l.choosing 2)).plain 1
    | least, some most =>
      let l := if least = 0 then l.plain 1 else copies body least l
      if least = most then l else copies (fun l => body (l.choosing 2)) (most - least) (l.plain 1)

end Layout

/-- Every match starts at the start of the text. -/
def isHeld : Regex → Bool
  | look l => l = .textStart
  | group _ _ r => r.isHeld
  | seq a b => a.isHeld || (a.isIdle && b.isHeld)
  | alt a b => a.isHeld && b.isHeld
  | loop least _ _ r => 0 < least && r.isHeld
  | _ => false

/-- Every match ends at the end of the text. -/
def isHeldBack : Regex → Bool
  | look l => l = .textEnd
  | group _ _ r => r.isHeldBack
  | seq a b => b.isHeldBack || (b.isIdle && a.isHeldBack)
  | alt a b => a.isHeldBack && b.isHeldBack
  | loop least _ _ r => 0 < least && r.isHeldBack
  | _ => false

/-- The automaton of an expression in one direction.  In front of it stand the states that pass over
what comes before a match, unless there is nothing before it, and behind it the one that has
matched. -/
def layout (backward : Bool) (r : Regex) : Layout :=
  let held := if backward then r.isHeldBack else r.isHeld
  let start : Layout :=
    if held then Layout.plain ⟨0, 0⟩ 1 else ((Layout.choosing ⟨0, 0⟩ 2).plain 1).offering 1
  (Layout.add backward false (group 0 none r) start).plain 1

/-- The weight of an expression: that of the heavier one of its automata. -/
def weight (r : Regex) : Nat := max (r.layout false).bytes (r.layout true).bytes

end LineScript.Regex
