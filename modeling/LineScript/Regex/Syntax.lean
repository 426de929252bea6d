import LineScript.Regex.CharSet

/-!
**Regular expressions.**

The syntax tree of a pattern, with every flag already worked into it: a character set that ignores
case says so itself, and a repetition knows whether it prefers more or fewer rounds.

Trees are put together in a normal form.  A sequence within a sequence is part of it, and so is a
choice within a choice; characters in a row are one text; a choice between single characters is a
set.  When all alternatives of a choice begin with the same parts, these parts stand in front of the
choice once.  That settles the beginning before the alternatives are tried: `.*x|.*y` takes the last
`x` or `y` there is, whichever it is, and not the last `x` first.

Main definitions:

* `LineScript.Regex.Look` — the conditions on a place in the text;
* `LineScript.Regex` — the trees;
* `LineScript.Regex.ofSet` — one character of a set;
* `LineScript.Regex.sequence`, `LineScript.Regex.choice` — **sequences and choices in normal form**;
* `LineScript.Regex.repetition` — a repetition, simplified where its body cannot consume anything or
  its bounds leave no choice;
* `LineScript.Regex.groups` — the groups of a tree and their names.
-/

set_option autoImplicit false

namespace LineScript

/-- A condition on whether words meet at a place in the text. -/
inductive Regex.Edge where
  /-- exactly one side belongs to a word -/
  | any
  /-- both sides or neither belong to a word -/
  | absent
  /-- a word starts -/
  | starts
  /-- a word ends -/
  | ends
  /-- what comes before belongs to no word -/
  | freeBefore
  /-- what comes after belongs to no word -/
  | freeAfter
deriving DecidableEq

/-- A condition on a place in the text. -/
inductive Regex.Look where
  | textStart
  | textEnd
  | lineStart
  | lineEnd
  /-- the start of a line, where a carriage return and a line feed end one together -/
  | crlfStart
  /-- the end of such a line -/
  | crlfEnd
  /-- where words meet; `ascii` words are made of ASCII characters only -/
  | edge (ascii : Bool) (e : Regex.Edge)
deriving DecidableEq

/-- A regular expression. -/
inductive Regex where
  | empty
  /-- some characters in a row -/
  | text (cs : List Char)
  /-- one character of the set; `bytes` tells that the set was written as one of bytes -/
  | one (set : Regex.CharSet) (bytes : Bool)
  | look (l : Regex.Look)
  /-- a group whose text is kept -/
  | group (index : Nat) (name : Option String) (body : Regex)
  | seq (a b : Regex)
  /-- the first alternative is preferred -/
  | alt (a b : Regex)
  /-- between `least` and `most` rounds; a greedy one prefers more of them -/
  | loop (least : Nat) (most : Option Nat) (greedy : Bool) (body : Regex)
deriving DecidableEq

namespace Regex

/-! ### Lengths -/

/-- The number of characters in a shortest match, unless the tree holds a set without members. -/
def shortest? : Regex → Option Nat
  | empty => some 0
  | text cs => some cs.length
  | one s _ => if s.isEmpty then none else some 1
  | look _ => some 0
  | group _ _ r => r.shortest?
  | seq a b => a.shortest?.bind fun m => b.shortest?.map (m + ·)
  | alt a b => a.shortest?.bind fun m => b.shortest?.map (min m ·)
  | loop least _ _ r => r.shortest?.map (least * ·)

/-- Every match consumes a character. -/
def consumes (r : Regex) : Bool := r.shortest?.any (0 < ·)

/-- No match consumes a character. -/
def isIdle : Regex → Bool
  | empty => true
  | text cs => cs.isEmpty
  | one _ _ => false
  | look _ => true
  | group _ _ r => r.isIdle
  | seq a b => a.isIdle && b.isIdle
  | alt a b => a.isIdle && b.isIdle
  | loop _ most _ r => r.isIdle && most.isSome

/-! ### Sets -/

/-- One character of a set.  A set with a single member is that character. -/
def ofSet (s : CharSet) (bytes : Bool) : Regex :=
  if s.isEmpty then one s true
  else
    match s.only? with
    | some c => text [c]
    | none => one s bytes

/-! ### Sequences -/

/-- The parts of a sequence. -/
def parts : Regex → List Regex
  | empty => []
  | seq a b => a.parts ++ b.parts
  | r => [r]

/-- Joins the texts that stand next to each other. -/
def joinTexts : List Regex → List Regex
  | [] => []
  | text cs :: rest =>
    match joinTexts rest with
    | text ds :: rest => text (cs ++ ds) :: rest
    | rest => text cs :: rest
  | r :: rest => r :: joinTexts rest

/-- Puts parts one after the other. -/
def ofParts : List Regex → Regex
  | [] => empty
  | [r] => r
  | r :: rs => seq r (ofParts rs)

/-- The sequence of several expressions. -/
def sequence (rs : List Regex) : Regex := ofParts (joinTexts (rs.flatMap parts))

/-! ### Choices -/

/-- The alternatives of a choice. -/
def branches : Regex → List Regex
  | alt a b => a.branches ++ b.branches
  | r => [r]

/-- Puts alternatives next to each other, the earlier preferred. -/
def ofBranches : List Regex → Regex
  | [] => empty
  | [r] => r
  | r :: rs => alt r (ofBranches rs)

/-- The character of a text that has but one. -/
def char? : Regex → Option Char
  | text [c] => some c
  | _ => none

/-- The set of an expression for one character of a set. -/
def set? : Regex → Option CharSet
  | one s _ => some s
  | _ => none

/-- The set that a choice comes to when its alternatives are all characters, or all sets. -/
def joined? (bs : List Regex) : Option CharSet :=
  match bs.mapM char? with
  | some cs => some (.unions (cs.map CharSet.single))
  | none => (bs.mapM set?).map CharSet.unions

/-- The choice between several alternatives that have no beginning in common. -/
def plainChoice (bs : List Regex) : Regex :=
  match joined? bs with
  | some s => ofSet s false
  | none => ofBranches bs

/-- The elements that two lists begin with alike. -/
def commonStart : List Regex → List Regex → List Regex
  | a :: as, b :: bs => if a = b then a :: commonStart as bs else []
  | _, _ => []

/-- The parts that all alternatives begin with, if they are all sequences. -/
def sharedParts : List Regex → List Regex
  | [] => []
  | b :: bs =>
    if (b :: bs).all fun b => 2 ≤ b.parts.length then
      bs.foldl (fun shared b => commonStart shared b.parts) b.parts
    else []

/-- The choice between several expressions, the earlier preferred. -/
def choice (rs : List Regex) : Regex :=
  match rs.flatMap branches with
  | [r] => r
  | bs =>
    match joined? bs, sharedParts bs with
    | none, p :: ps =>
      let rests := bs.map fun b => sequence (b.parts.drop (ps.length + 1))
      sequence (p :: ps ++ [plainChoice (rests.flatMap branches)])
    | _, _ => plainChoice bs

/-! ### Repetitions and groups -/

/-- A repetition.  A body that consumes nothing needs no second round; no rounds at all match the
empty text, and exactly one is the body itself. -/
def repetition (least : Nat) (most : Option Nat) (greedy : Bool) (body : Regex) : Regex :=
  let (least, most) :=
    if body.isIdle then (min least 1, some (min (most.getD 1) 1)) else (least, most)
  if least == 0 && most == some 0 then empty
  else if least == 1 && most == some 1 then body
  else loop least most greedy body

/-- The groups of a tree, by index and name. -/
def groups : Regex → List (Nat × Option String)
  | empty => []
  | text _ => []
  | one _ _ => []
  | look _ => []
  | group index name r => (index, name) :: r.groups
  | seq a b => a.groups ++ b.groups
  | alt a b => a.groups ++ b.groups
  | loop _ _ _ r => r.groups

end Regex

end LineScript
