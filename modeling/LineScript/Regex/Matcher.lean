import LineScript.Regex.Program
import LineScript.Regex.Property

/-!
**Matching.**

A program is run over a text by all its threads at once.  At every place the threads stand in order
of preference, no two of them at the same address, and a thread that has reached the end of the
program cuts off those behind it.  The match found is the leftmost one, and among those that start
there the preferred one, the first in the order in which the alternatives are written.

Main definitions:

* `LineScript.Regex.Look.holds` — whether a condition holds between two characters;
* `LineScript.Regex.Program.explore` — follows the instructions that consume nothing;
* `LineScript.Regex.Program.search` — **the positions of the leftmost preferred match**;
* `LineScript.Regex.Program.captures` — the texts of its groups.
-/

set_option autoImplicit false

namespace LineScript.Regex

/-! ### Conditions on a place -/

/-- The character belongs to a word. -/
def isWord (ascii : Bool) (c : Char) : Bool :=
  if ascii then c.isAlphanum || c == '_' else Property.word.contains c

/-- The condition holds between two characters; there is none at the ends of the text. -/
def Look.holds (before after : Option Char) : Look → Bool
  | textStart => before.isNone
  | textEnd => after.isNone
  | lineStart => before.isNone || before == some '\n'
  | lineEnd => after.isNone || after == some '\n'
  | crlfStart => before.isNone || before == some '\n' || (before == some '\r' && after != some '\n')
  | crlfEnd => after.isNone || after == some '\r' || (after == some '\n' && before != some '\r')
  | edge ascii e =>
    let b := before.any (isWord ascii)
    let a := after.any (isWord ascii)
    match e with
    | .any => b != a
    | .absent => b == a
    | .starts => !b && a
    | .ends => b && !a
    | .freeBefore => !b
    | .freeAfter => !a

namespace Program

/-! ### Threads -/

/-- The positions noted so far. -/
abbrev Slots := List (Option Nat)

/-- A thread: its address and the positions it has noted. -/
structure Thread where
  address : Nat
  slots : Slots

/-- The threads at one place, the preferred ones last, and the addresses that were visited there. -/
structure Frontier where
  visited : Array Bool
  threads : List Thread

/-- A place in a text. -/
structure Place where
  position : Nat
  before : Option Char
  after : Option Char

/-- The frontier of a place that no thread has reached. -/
def Frontier.empty (p : Program) : Frontier := ⟨Array.replicate p.code.size false, []⟩

/-- Follows the instructions that consume nothing, from the threads on the stack, the preferred
first.  An address is visited once: a later visit would be by a thread with less preference. -/
def exploreFrom (p : Program) (hat : Place) : Nat → List Thread → Frontier → Frontier
  | 0, _, front => front
  | _ + 1, [], front => front
  | fuel + 1, t :: stack, front =>
    if front.visited.getD t.address true then exploreFrom p hat fuel stack front
    else
      let front := { front with visited := front.visited.setIfInBounds t.address true }
      let go := fun address => { t with address }
      match p.code[t.address]? with
      | some (.one _) | some .done =>
        exploreFrom p hat fuel stack { front with threads := t :: front.threads }
      | some (.split a b) => exploreFrom p hat fuel (go a :: go b :: stack) front
      | some (.jump a) => exploreFrom p hat fuel (go a :: stack) front
      | some (.note slot) =>
        let t := ⟨t.address + 1, t.slots.set slot (some hat.position)⟩
        exploreFrom p hat fuel (t :: stack) front
      | some (.look l) =>
        if l.holds hat.before hat.after then exploreFrom p hat fuel (go (t.address + 1) :: stack) front
        else exploreFrom p hat fuel stack front
      | none => exploreFrom p hat fuel stack front

/-- Adds a thread to a frontier and follows it.  Each visit puts at most two threads on the stack,
so twice the size of the program is enough. -/
def explore (p : Program) (hat : Place) (t : Thread) (front : Frontier) : Frontier :=
  exploreFrom p hat (2 * p.code.size + 1) [t] front

/-! ### Consuming a character -/

/-- Lets the threads consume a character, the preferred first.  One that is done holds the match
unless a thread before it finds another, and cuts off those behind it. -/
def consume (p : Program) (c : Char) (hat : Place) (best : Option Slots) :
    List Thread → Frontier → Frontier × Option Slots
  | [], front => (front, best)
  | t :: ts, front =>
    match p.code[t.address]? with
    | some .done => (front, some t.slots)
    | some (.one s) =>
      if s.contains c then consume p c hat best ts (explore p hat ⟨t.address + 1, t.slots⟩ front)
      else consume p c hat best ts front
    | _ => consume p c hat best ts front

/-- The positions noted by the first thread that is done. -/
def firstDone (p : Program) (ts : List Thread) : Option Slots :=
  (ts.find? fun t =>
    match p.code[t.address]? with
    | some .done => true
    | _ => false).map Thread.slots

/-- A thread at the start of the program, with nothing noted. -/
def fresh (p : Program) : Thread := ⟨0, List.replicate (2 * p.groups) none⟩

/-- Runs the threads over the rest of a text.  As long as nothing has matched, a new thread starts
at every place, behind all others. -/
def searchFrom (p : Program) (position : Nat) (before : Option Char) (front : Frontier)
    (best : Option Slots) (rest : List Char) : Option Slots :=
  let hat : Place := ⟨position, before, rest.head?⟩
  let front := if best.isNone then explore p hat p.fresh front else front
  let threads := front.threads.reverse
  match rest with
  | [] => (firstDone p threads).or best
  | c :: rest =>
    let after : Place := ⟨position + 1, some c, rest.head?⟩
    let (front, best) := consume p c after best threads (.empty p)
    searchFrom p (position + 1) (some c) front best rest

/-- **The positions of the leftmost preferred match**: where each group starts and ends. -/
def search (p : Program) (text : List Char) : Option Slots :=
  searchFrom p 0 none (.empty p) none text

/-- The text of a group, empty if the group took no part in the match. -/
def slice (text : List Char) (slots : Slots) (group : Nat) : List Char :=
  match (slots[2 * group]?).join, (slots[2 * group + 1]?).join with
  | some start, some stop => (text.drop start).take (stop - start)
  | _, _ => []

/-- Some part of the text matches. -/
def isMatch (p : Program) (text : List Char) : Bool := (p.search text).isSome

/-- The texts of the groups of the match, by index and then by name. -/
def captures (p : Program) (text : List Char) :
    Option (List (Nat × List Char) × List (String × List Char)) :=
  (p.search text).map fun slots =>
    ((List.range p.groups).map fun i => (i, slice text slots i),
      p.names.map fun (i, name) => (name, slice text slots i))

end Program

end LineScript.Regex
