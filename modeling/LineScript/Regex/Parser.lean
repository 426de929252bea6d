import LineScript.Regex.Property
import LineScript.Regex.Syntax
import LineScript.Text.Letter

/-!
**Reading patterns.**

A pattern is read from left to right with a stack of the groups that are still open, so that no
nesting is ever recursed into; the classes in brackets have a stack of their own.  Every step takes
at least one character, and the number of steps is bounded by the length of the pattern.

The syntax is the usual one without look-around and back-references: literals, `.`, classes in
brackets with ranges, nesting and the operators `&&`, `--` and `~~`, the Perl and POSIX classes,
properties by name, groups with and without names, flags, anchors, word edges, and repetitions that
are greedy or lazy.  Why a pattern is refused is not told; only that it is.

Main definitions:

* `LineScript.Regex.Flags` — the flags in force at a place in the pattern;
* `LineScript.Regex.Reader.bracket?` — reads a class in brackets;
* `LineScript.Regex.Reader.step` — reads one item of a pattern;
* `LineScript.Regex.parse?` — **reads a pattern**.
-/

set_option autoImplicit false

namespace LineScript.Regex

/-- The flags in force at a place in a pattern. -/
structure Flags where
  ignoreCase : Bool
  multiLine : Bool
  dotAll : Bool
  swapGreed : Bool
  unicode : Bool
  crlf : Bool
  verbose : Bool

namespace Reader

/-! ### Characters and numbers -/

/-- Drops blanks and comments; `comment` tells that one has begun. -/
def skipBlank (comment : Bool) : List Char → List Char
  | [] => []
  | c :: cs =>
    if comment then skipBlank (c != '\n') cs
    else if Blank.isBlank c then skipBlank false cs
    else if c == '#' then skipBlank true cs
    else c :: cs

/-- Drops what does not count: nothing, or blanks and comments in a verbose pattern. -/
def skip (f : Flags) (cs : List Char) : List Char :=
  if f.verbose then skipBlank false cs else cs

/-- Drops one character and what does not count after it. -/
def next (f : Flags) (cs : List Char) : List Char :=
  skip f cs.tail

/-- The next character that counts after the present one.  Inside a comment the first character
that is not blank is taken. -/
def peekPast (f : Flags) (cs : List Char) : Option Char :=
  if f.verbose then
    match cs.tail.dropWhile Blank.isBlank with
    | '#' :: rest => (rest.dropWhile Blank.isBlank).head?
    | rest => rest.head?
  else cs.tail.head?

/-- Takes characters of a class, dropping what does not count after each. -/
def takeCounted (f : Flags) (p : Char → Bool) : Nat → List Char → List Char × List Char
  | 0, cs => ([], cs)
  | fuel + 1, cs =>
    match cs with
    | [] => ([], [])
    | c :: _ =>
      if p c then
        let (taken, rest) := takeCounted f p fuel (next f cs)
        (c :: taken, rest)
      else ([], cs)

/-- A decimal number below `2 ^ 32`; blanks may stand around it. -/
def number? (f : Flags) (cs : List Char) : Option Nat × List Char :=
  let (ds, rest) := takeCounted f Char.isDigit cs.length (cs.dropWhile Blank.isBlank)
  ((Decimal.digits? ds).filter (· < 4294967296), (rest.dropWhile Blank.isBlank))

/-- The value of a hexadecimal digit. -/
def hexDigit? (c : Char) : Option Nat :=
  if '0' ≤ c ∧ c ≤ '9' then some (c.toNat - '0'.toNat)
  else if 'a' ≤ c ∧ c ≤ 'f' then some (c.toNat - 'a'.toNat + 10)
  else if 'A' ≤ c ∧ c ≤ 'F' then some (c.toNat - 'A'.toNat + 10)
  else none

/-- The character with the code point that hexadecimal digits spell. -/
def hexChar? (ds : List Char) : Option Char := do
  if ds.isEmpty then none
  let n ← ds.foldlM (fun n d => (hexDigit? d).map (n * 16 + ·)) 0
  if n.isValidChar then some (Char.ofNat n) else none

/-- A hexadecimal escape: digits in braces, or as many as the letter asks for. -/
def hexEscape? (f : Flags) (width : Nat) (cs : List Char) : Option (Char × List Char) :=
  match cs with
  | '\x7b' :: _ =>
    let (ds, rest) := takeCounted f (· != '\x7d') cs.length (next f cs)
    match rest with
    | [] => none
    | _ => (hexChar? ds).map (·, next f rest)
  | _ =>
    let (ds, rest) := takeCounted f (fun c => (hexDigit? c).isSome) width cs
    if ds.length == width then (hexChar? ds).map (·, rest) else none

/-! ### Sets -/

/-- Adds the case variants when case is ignored. -/
def fold (f : Flags) (s : CharSet) : CharSet :=
  if !f.ignoreCase then s else if f.unicode then s.folded else s.asciiFolded

/-- Complements a set when asked to. -/
def negateIf (negated : Bool) (s : CharSet) : CharSet := if negated then s.compl else s

/-- Sets of bytes have to stay in ASCII, or they would split a character. -/
def allowed (f : Flags) (s : CharSet) : Option CharSet :=
  if f.unicode || s.isAscii then some s else none

/-- The members of a class with a POSIX name. -/
def posix? (name : List Char) : Option CharSet :=
  let ranges : Option (List (Char × Char)) :=
    match String.ofList name with
    | "alnum" => some [('0', '9'), ('A', 'Z'), ('a', 'z')]
    | "alpha" => some [('A', 'Z'), ('a', 'z')]
    | "ascii" => some [('\x00', '\x7f')]
    | "blank" => some [('\t', '\t'), (' ', ' ')]
    | "cntrl" => some [('\x00', '\x1f'), ('\x7f', '\x7f')]
    | "digit" => some [('0', '9')]
    | "graph" => some [('!', '~')]
    | "lower" => some [('a', 'z')]
    | "print" => some [(' ', '~')]
    | "punct" => some [('!', '/'), (':', '@'), ('[', '\x60'), ('\x7b', '~')]
    | "space" => some [('\t', '\t'), ('\n', '\n'), ('\x0b', '\x0b'), ('\x0c', '\x0c'), ('\r', '\r'),
        (' ', ' ')]
    | "upper" => some [('A', 'Z')]
    | "word" => some [('0', '9'), ('A', 'Z'), ('_', '_'), ('a', 'z')]
    | "xdigit" => some [('0', '9'), ('A', 'F'), ('a', 'f')]
    | _ => none
  ranges.map fun rs => .ofRanges (rs.map fun (lo, hi) => (lo.toNat, hi.toNat))

/-- The members of the class of a Perl letter, in lower case. -/
def perl? (f : Flags) (letter : Char) : Option CharSet :=
  match letter, f.unicode with
  | 'd', true => some Property.digit
  | 's', true => some Property.space
  | 'w', true => some Property.word
  | 'd', false => posix? "digit".toList
  | 's', false => posix? "space".toList
  | 'w', false => posix? "word".toList
  | _, _ => none

/-- The two parts of a text around the first place where `mark` stands. -/
def splitAtMark (mark : List Char) : List Char → Option (List Char × List Char)
  | [] => none
  | c :: cs =>
    if mark.isPrefixOf (c :: cs) then some ([], (c :: cs).drop mark.length)
    else (splitAtMark mark cs).map fun (before, after) => (c :: before, after)

/-- The set that the text between the braces of a property asks for, and whether it is meant
negatively. -/
def property? (name : List Char) : Option (CharSet × Bool) :=
  match splitAtMark ['!', '='] name with
  | some (p, v) => (Property.valued? p v).map (·, true)
  | none =>
    match (splitAtMark [':'] name).or (splitAtMark ['='] name) with
    | some (p, v) => (Property.valued? p v).map (·, false)
    | none => (Property.named? name).map (·, false)

/-! ### Escapes -/

/-- What one escape or one plain character stands for. -/
inductive Primitive where
  /-- a character; `byte` tells that two hexadecimal digits spelled it -/
  | literal (c : Char) (byte : Bool)
  | set (s : CharSet)
  | look (l : Look)

/-- The signs with a meaning in patterns; an escape takes it away. -/
def isMeta (c : Char) : Bool := "\\.+*?()|[]\x7b\x7d^$#&-~".toList.contains c

/-- An escape takes away nothing from other signs of ASCII either; letters, digits and angle
brackets mean something of their own. -/
def isEscapable (c : Char) : Bool :=
  isMeta c || (c.toNat < 128 && !c.isAlphanum && c != '<' && c != '>')

/-- A word edge, perhaps with its kind in braces.  What follows the brace decides whether it is a
kind or the bounds of a repetition. -/
def edge? (f : Flags) (cs : List Char) : Option (Edge × List Char) :=
  match cs with
  | '\x7b' :: _ =>
    let inner := next f cs
    let isKind := fun c : Char => c.isAlpha || c == '-'
    match inner with
    | [] => none
    | c :: _ =>
      if !isKind c then some (.any, cs)
      else
        let (kind, rest) := takeCounted f isKind cs.length inner
        match rest with
        | '\x7d' :: rest =>
          match String.ofList kind with
          | "start" => some (.starts, rest)
          | "end" => some (.ends, rest)
          | "start-half" => some (.freeBefore, rest)
          | "end-half" => some (.freeAfter, rest)
          | _ => none
        | _ => none
  | _ => some (.any, cs)

/-- A property by name: one letter, or a name in braces. -/
def propertyEscape? (f : Flags) (negated : Bool) (cs : List Char) :
    Option (Primitive × List Char) := do
  if !f.unicode then none
  let (name, rest) ←
    match cs with
    | '\x7b' :: _ =>
      let (name, rest) := takeCounted f (· != '\x7d') cs.length (next f cs)
      match rest with
      | [] => none
      | _ :: rest => some (name, rest)
    | '\\' :: _ => none
    | c :: _ => some ([c], next f cs)
    | [] => none
  let (s, inverse) ← property? name
  return (.set (negateIf (negated != inverse) (fold f s)), rest)

/-- What an escape stands for; `cs` starts after the backslash. -/
def escape? (f : Flags) (cs : List Char) : Option (Primitive × List Char) :=
  match cs with
  | [] => none
  | c :: rest =>
    let special := fun d : Char => some (Primitive.literal d false, rest)
    let place := fun l : Look => some (Primitive.look l, rest)
    let word := fun e : Edge => Look.edge (!f.unicode) e
    match c with
    | 'x' =>
      let digits := next f cs
      (hexEscape? f 2 digits).map fun (d, r) => (.literal d (digits.head? != some '\x7b'), r)
    | 'u' => (hexEscape? f 4 (next f cs)).map fun (d, r) => (.literal d false, r)
    | 'U' => (hexEscape? f 8 (next f cs)).map fun (d, r) => (.literal d false, r)
    | 'p' => propertyEscape? f false (next f cs)
    | 'P' => propertyEscape? f true (next f cs)
    | 'a' => special '\x07'
    | 'f' => special '\x0c'
    | 't' => special '\t'
    | 'n' => special '\n'
    | 'r' => special '\r'
    | 'v' => special '\x0b'
    | 'A' => place .textStart
    | 'z' => place .textEnd
    | 'b' => (edge? f rest).map fun (e, r) => (.look (word e), r)
    | 'B' => place (word .absent)
    | '<' => place (word .starts)
    | '>' => place (word .ends)
    | c =>
      match perl? f c.toLower with
      | some s => (allowed f (negateIf c.isUpper s)).map fun s => (.set s, rest)
      | none => if isEscapable c then special c else none

/-! ### Classes in brackets -/

/-- The operators between sets. -/
inductive Operator where
  | inter
  | minus
  | differ

/-- The set of an operator and its two sides. -/
def Operator.apply (f : Flags) (o : Operator) (a b : CharSet) : CharSet :=
  match o with
  | inter => (fold f a).inter (fold f b)
  | minus => (fold f a).minus (fold f b)
  | differ => (fold f a).differ (fold f b)

/-- Sets that stand next to each other in brackets: their ranges, how many there are, and how deeply
the deepest of them is nested. -/
structure Union where
  ranges : List (Nat × Nat)
  count : Nat
  depth : Nat

namespace Union

/-- Nothing yet. -/
def none : Union := ⟨[], 0, 0⟩

/-- The characters in one of the sets. -/
def set (u : Union) : CharSet := .ofRanges u.ranges

/-- Adds a set of the given depth. -/
def add (u : Union) (s : CharSet) (depth : Nat) : Union :=
  ⟨s.ranges ++ u.ranges, u.count + 1, max u.depth depth⟩

/-- The nesting of the union as a whole: one more than its parts when there are several. -/
def nesting (u : Union) : Nat := if u.count ≤ 1 then u.depth else u.depth + 1

end Union

/-- What waits while a part of a class is read. -/
inductive Pending where
  /-- brackets that are open, and the sets in front of them -/
  | brackets (before : Union) (negated : Bool)
  /-- an operator with its left side, and the nesting of that -/
  | operator (o : Operator) (left : CharSet) (depth : Nat)

/-- Applies a waiting operator to its right side. -/
def applyPending (f : Flags) (pending : List Pending) (right : CharSet) (depth : Nat) :
    List Pending × CharSet × Nat :=
  match pending with
  | .operator o left d :: rest => (rest, o.apply f left right, max d depth + 1)
  | _ => (pending, right, depth)

/-- Opening brackets: a complement sign, hyphens that stand for themselves, and a closing bracket
that does if nothing stands before it. -/
def openBracket? (f : Flags) (cs : List Char) : Option (Bool × Union × List Char) :=
  let inner := next f cs
  let (negated, inner) := if inner.head? == some '^' then (true, next f inner) else (false, inner)
  let (hyphens, inner) := takeCounted f (· == '-') cs.length inner
  let union := hyphens.foldl (fun u c => u.add (.single c) 0) Union.none
  let (union, inner) :=
    if hyphens.isEmpty && inner.head? == some ']' then (union.add (.single ']') 0, next f inner)
    else (union, inner)
  if inner.isEmpty then none else some (negated, union, inner)

/-- A class with a POSIX name; `cs` starts after the bracket that opens it. -/
def posixClass? (f : Flags) (cs : List Char) : Option (CharSet × List Char) :=
  match cs with
  | ':' :: rest =>
    let (negated, rest) := if rest.head? == some '^' then (true, rest.tail) else (false, rest)
    let name := rest.takeWhile (· != ':')
    match rest.dropWhile (· != ':') with
    | ':' :: ']' :: rest => (posix? name).map fun s => (negateIf negated (fold f s), rest)
    | _ => none
  | _ => none

/-- One end of a range, or a set, in brackets. -/
def classItem? (f : Flags) (cs : List Char) : Option (Primitive × List Char) :=
  match cs with
  | [] => none
  | '\\' :: rest => escape? f rest
  | c :: rest => some (.literal c false, rest)

/-- A character may stand in brackets; in a set of bytes only ASCII. -/
def classChar? (f : Flags) : Primitive → Option Char
  | .literal c _ => if f.unicode || c.toNat < 128 then some c else none
  | _ => none

/-- A single character, a range or a set in brackets. -/
def classRange? (f : Flags) (cs : List Char) : Option (CharSet × List Char) := do
  let (first, rest) ← classItem? f cs
  let rest := skip f rest
  if rest.isEmpty then none
  let past := peekPast f rest
  if rest.head? != some '-' || past == some ']' || past == some '-' then
    match first with
    | .set s => return (s, rest)
    | p => return (.single (← classChar? f p), rest)
  else
    let rest := next f rest
    let (last, rest) ← classItem? f rest
    let lo ← classChar? f first
    let hi ← classChar? f last
    if lo ≤ hi then return (.range lo hi, rest) else none

/-- Reads a class in brackets from its opening bracket on: its set, its nesting, and what
follows. -/
def bracket? (f : Flags) : Nat → List Pending → Union → List Char →
    Option (CharSet × Nat × List Char)
  | 0, _, _, _ => none
  | fuel + 1, pending, union, cs =>
    let cs := skip f cs
    match cs with
    | [] => none
    | '[' :: rest =>
      match if pending.isEmpty then none else posixClass? f rest with
      | some (s, rest) =>
        match allowed f s with
        | none => none
        | some s => bracket? f fuel pending (union.add s 0) rest
      | none =>
        match openBracket? f cs with
        | none => none
        | some (negated, inner, rest) =>
          bracket? f fuel (.brackets union negated :: pending) inner rest
    | ']' :: rest =>
      let (pending, s, depth) := applyPending f pending union.set union.nesting
      match pending with
      | .brackets before negated :: pending =>
        match allowed f (negateIf negated (fold f s)) with
        | none => none
        | some s =>
          if pending.isEmpty then some (s, depth + 1, rest)
          else bracket? f fuel pending (before.add s (depth + 1)) rest
      | _ => none
    | '&' :: '&' :: rest =>
      let (pending, s, depth) := applyPending f pending union.set union.nesting
      bracket? f fuel (.operator .inter s depth :: pending) .none rest
    | '-' :: '-' :: rest =>
      let (pending, s, depth) := applyPending f pending union.set union.nesting
      bracket? f fuel (.operator .minus s depth :: pending) .none rest
    | '~' :: '~' :: rest =>
      let (pending, s, depth) := applyPending f pending union.set union.nesting
      bracket? f fuel (.operator .differ s depth :: pending) .none rest
    | _ =>
      match classRange? f cs with
      | none => none
      | some (s, rest) => bracket? f fuel pending (union.add s 0) rest

/-! ### Flags -/

/-- Switches one flag on or off, by its letter. -/
def setFlag (f : Flags) (on : Bool) : Char → Option Flags
  | 'i' => some { f with ignoreCase := on }
  | 'm' => some { f with multiLine := on }
  | 's' => some { f with dotAll := on }
  | 'U' => some { f with swapGreed := on }
  | 'u' => some { f with unicode := on }
  | 'R' => some { f with crlf := on }
  | 'x' => some { f with verbose := on }
  | _ => none

/-- Flags up to the `:` or `)` that ends them.  No letter comes twice, and a minus sign comes once
and before a letter. -/
def flags? (f : Flags) (seen : List Char) : List Char → Option (Flags × List Char)
  | [] => none
  | c :: cs =>
    if c == ':' || c == ')' then
      if seen.head? == some '-' then none else some (f, c :: cs)
    else if seen.contains c then none
    else if c == '-' then flags? f (c :: seen) cs
    else (setFlag f (!seen.contains '-') c).bind fun f => flags? f (c :: seen) cs

/-! ### Items -/

/-- An item of a sequence: an expression, or nothing where flags are set, and its nesting. -/
structure Item where
  body : Option Regex
  depth : Nat

/-- The part of a group that was read: the flags in force, the alternatives that are complete and
the items of the present one, both latest first. -/
structure Level where
  flags : Flags
  branches : List Item
  items : List Item

/-- The sequence of the items of a level. -/
def Level.branch (l : Level) : Item :=
  match l.items with
  | [] => ⟨some .empty, 0⟩
  | [i] => i
  | is =>
    ⟨some (sequence (is.reverse.filterMap Item.body)), (is.map Item.depth).foldl max 0 + 1⟩

/-- The choice between the alternatives of a level. -/
def Level.close (l : Level) : Item :=
  match l.branches with
  | [] => l.branch
  | bs =>
    let all := (l.branch :: bs).reverse
    ⟨some (choice (all.map fun i => i.body.getD .empty)), (all.map Item.depth).foldl max 0 + 1⟩

/-- Adds an item to the present alternative. -/
def Level.push (l : Level) (i : Item) : Level := { l with items := i :: l.items }

/-- A group that is open: its index and name if its text is kept, and the level around it. -/
structure Opened where
  kept : Option (Nat × Option String)
  around : Level

/-- What was read of a pattern. -/
structure State where
  level : Level
  opened : List Opened
  /-- the number of groups so far -/
  count : Nat
  /-- their names -/
  names : List String

/-- The characters of group names. -/
def isNameChar (first : Bool) (c : Char) : Bool :=
  if first then c == '_' || Letter.isAlphabetic c
  else c == '_' || c == '.' || c == '[' || c == ']' || Letter.isAlphanumeric c

/-- The name of a group, up to the bracket that ends it. -/
def groupName? (cs : List Char) : Option (List Char × List Char) :=
  let name := cs.takeWhile (· != '>')
  match name, cs.dropWhile (· != '>') with
  | c :: rest, _ :: after =>
    if isNameChar true c && rest.all (isNameChar false) then some (name, after) else none
  | _, _ => none

/-- Opens a group. -/
def State.openGroup (s : State) (kept : Option (Nat × Option String)) (f : Flags) : State :=
  { s with level := ⟨f, [], []⟩, opened := ⟨kept, s.level⟩ :: s.opened }

/-- An opening parenthesis: a group with or without a name, flags for the rest of the group around
it, or a group with flags of its own.  `cs` starts after the parenthesis. -/
def group? (s : State) (cs : List Char) : Option (State × List Char) := do
  let f := s.level.flags
  let named := fun cs => do
    let (name, rest) ← groupName? cs
    let name := String.ofList name
    if s.names.contains name then none
    let s := { s with count := s.count + 1, names := name :: s.names }
    return (s.openGroup (some (s.count, some name)) f, rest)
  match skip f cs with
  | '?' :: '=' :: _ | '?' :: '!' :: _ | '?' :: '<' :: '=' :: _ | '?' :: '<' :: '!' :: _ => none
  | '?' :: 'P' :: '<' :: rest => named rest
  | '?' :: '<' :: rest => named rest
  | '?' :: rest =>
    let (inner, after) ← flags? f [] rest
    match after with
    | ':' :: after => return (s.openGroup none inner, after)
    | ')' :: after =>
      if rest.head? == some ')' then none
      return ({ s with level := { s.level.push ⟨none, 0⟩ with flags := inner } }, after)
    | _ => none
  | rest =>
    let s := { s with count := s.count + 1 }
    return (s.openGroup (some (s.count, none)) f, rest)

/-- A closing parenthesis. -/
def closeGroup? (s : State) : Option State :=
  match s.opened with
  | [] => none
  | o :: opened =>
    let inner := s.level.close
    let body := inner.body.getD .empty
    let body :=
      match o.kept with
      | some (index, name) => .group index name body
      | none => body
    some { s with level := o.around.push ⟨some body, inner.depth + 1⟩, opened }

/-- Repeats the last item. -/
def repeatLast? (s : State) (least : Nat) (most : Option Nat) (greedy : Bool) : Option State :=
  match s.level.items with
  | ⟨some body, depth⟩ :: items =>
    let r := repetition least most (greedy != s.level.flags.swapGreed) body
    some { s with level := { s.level with items := ⟨some r, depth + 1⟩ :: items } }
  | _ => none

/-- A lazy repetition has a question mark after it. -/
def lazyMark (cs : List Char) : Bool × List Char :=
  match cs with
  | '?' :: rest => (false, rest)
  | _ => (true, cs)

/-- A repetition with bounds in braces; `cs` starts at the opening brace. -/
def bounds? (s : State) (cs : List Char) : Option (State × List Char) := do
  let f := s.level.flags
  let (least, rest) := number? f (next f cs)
  let (most, rest) ←
    match rest with
    | ',' :: _ =>
      let rest := next f rest
      match rest with
      | '\x7d' :: _ => some (none, rest)
      | [] => none
      | _ =>
        let (most, rest) := number? f rest
        most.map (some ·, rest)
    | _ => some (least, rest)
  let least ← least
  match rest with
  | '\x7d' :: _ =>
    let (greedy, rest) := lazyMark (next f rest)
    if most.all (least ≤ ·) then return (← repeatLast? s least most greedy, rest)
    else none
  | _ => none

/-- The expression of a primitive under the flags in force. -/
def primitive? (f : Flags) : Primitive → Option Regex
  | .literal c byte =>
    if f.unicode || c.toNat < 128 || !byte then some (ofSet (fold f (.single c)) (!f.unicode))
    else none
  | .set s => some (ofSet s (!f.unicode))
  | .look l => some (.look l)

/-- A dot: any character, or any but those that end a line.  It is no set of bytes. -/
def dot? (f : Flags) : Option Regex :=
  if !f.unicode then none
  else if f.dotAll then some (ofSet .all false)
  else if f.crlf then some (ofSet ((CharSet.single '\n').union (.single '\r')).compl false)
  else some (ofSet (CharSet.single '\n').compl false)

/-- Reads one item of a pattern: the new state, and the characters that follow. -/
def step (s : State) (c : Char) (rest : List Char) : Option (State × List Char) :=
  let f := s.level.flags
  let item := fun (r : Regex) (depth : Nat) => { s with level := s.level.push ⟨some r, depth⟩ }
  match c with
  | '(' => group? s rest
  | ')' => (closeGroup? s).map (·, rest)
  | '|' =>
    some ({ s with level := ⟨f, s.level.branch :: s.level.branches, []⟩ }, rest)
  | '[' =>
    (bracket? f (rest.length + 2) [] .none (c :: rest)).map fun (set, depth, rest) =>
      (item (ofSet set (!f.unicode)) depth, rest)
  | '?' =>
    let (greedy, rest) := lazyMark rest
    (repeatLast? s 0 (some 1) greedy).map (·, rest)
  | '*' =>
    let (greedy, rest) := lazyMark rest
    (repeatLast? s 0 none greedy).map (·, rest)
  | '+' =>
    let (greedy, rest) := lazyMark rest
    (repeatLast? s 1 none greedy).map (·, rest)
  | '\x7b' => bounds? s (c :: rest)
  | '.' => (dot? f).map fun r => (item r 0, rest)
  | '^' =>
    let l : Look := if !f.multiLine then .textStart else if f.crlf then .crlfStart else .lineStart
    some (item (.look l) 0, rest)
  | '$' =>
    let l : Look := if !f.multiLine then .textEnd else if f.crlf then .crlfEnd else .lineEnd
    some (item (.look l) 0, rest)
  | '\\' => do
    let (p, rest) ← escape? f rest
    return (item (← primitive? f p) 0, rest)
  | c => (primitive? f (.literal c false)).map fun r => (item r 0, rest)

/-- Reads items until the pattern ends. -/
def steps : Nat → State → List Char → Option State
  | 0, _, _ => none
  | fuel + 1, s, cs =>
    match skip s.level.flags cs with
    | [] => some s
    | c :: rest =>
      match step s c rest with
      | some (s, rest) => steps fuel s rest
      | none => none

end Reader

/-- How deeply a pattern may be nested. -/
def nestingLimit : Nat := 250

/-- Reads a pattern under the given flags. -/
def parse? (f : Flags) (pattern : String) : Option Regex := do
  let cs := pattern.toList
  let s ← Reader.steps (cs.length + 1) ⟨⟨f, [], []⟩, [], 0, []⟩ cs
  if !s.opened.isEmpty then none
  let whole := s.level.close
  if whole.depth ≤ nestingLimit then whole.body.getD .empty else none

end LineScript.Regex
