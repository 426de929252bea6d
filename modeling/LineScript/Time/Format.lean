import LineScript.Time.Duration
import LineScript.Time.Moment

/-!
**Time formats.**

A format is text in which a percent sign introduces a field of the calendar or the clock, perhaps
with a sign that says how the field is padded.  A text is checked once, when it is read into a list
of items, and rendered for any moment afterwards.  One field, the lenient offset `%#z`, is read but
has no rendering.

Main definitions:

* `LineScript.TimeFormat.Item` — literal text, or a field with its padding;
* `LineScript.TimeFormat.parse?` — reads a format;
* `LineScript.TimeFormat.render?` — the text of a moment.
-/

set_option autoImplicit false

namespace LineScript.TimeFormat

/-! ### Items -/

/-- How a number is brought to its width. -/
inductive Pad where
  | none
  | blanks
  | zeros
deriving DecidableEq

/-- An item of a format. -/
inductive Item where
  | literal (c : Char)
  /-- a field, by its letter, with the padding asked for -/
  | field (letter : Char) (pad : Option Pad)
  /-- a fraction of a second with a number of digits, or as many groups of three as it takes -/
  | fraction (digits : Option Nat) (point : Bool)
  /-- the offset from universal time, with this many colons -/
  | offset (colons : Nat)
  /-- the offset in any form; it is read only -/
  | lenientOffset
deriving DecidableEq

/-- The letters of fields. -/
def isField (c : Char) : Bool :=
  "abcdefghjklmnpqrstuvwxyzABCDFGHIMPRSTUVWXYZ%+".toList.contains c

/-- The letters of fields whose padding can be changed. -/
def isPaddable (c : Char) : Bool := "defgjklmqsuwyCGHIMSUVWY".toList.contains c

/-- The padding a sign asks for. -/
def padSign? : Char → Option Pad
  | '-' => some .none
  | '_' => some .blanks
  | '0' => some .zeros
  | _ => none

/-- Reads what follows a percent sign. -/
def item? : List Char → Option (Item × List Char)
  | '.' :: 'f' :: rest => some (.fraction none true, rest)
  | '.' :: '3' :: 'f' :: rest => some (.fraction (some 3) true, rest)
  | '.' :: '6' :: 'f' :: rest => some (.fraction (some 6) true, rest)
  | '.' :: '9' :: 'f' :: rest => some (.fraction (some 9) true, rest)
  | '3' :: 'f' :: rest => some (.fraction (some 3) false, rest)
  | '6' :: 'f' :: rest => some (.fraction (some 6) false, rest)
  | '9' :: 'f' :: rest => some (.fraction (some 9) false, rest)
  | ':' :: 'z' :: rest => some (.offset 1, rest)
  | ':' :: ':' :: 'z' :: rest => some (.offset 2, rest)
  | ':' :: ':' :: ':' :: 'z' :: rest => some (.offset 3, rest)
  | '#' :: 'z' :: rest => some (.lenientOffset, rest)
  | c :: rest =>
    match padSign? c with
    | some pad =>
      match rest with
      | d :: rest => if isPaddable d then some (.field d (some pad), rest) else none
      | [] => none
    | none => if isField c then some (.field c none, rest) else none
  | [] => none

/-- Reads a format from the start, with a bound on the number of items. -/
def parseFrom : Nat → List Char → Option (List Item)
  | _, [] => some []
  | 0, _ => none
  | fuel + 1, '%' :: rest =>
    match item? rest with
    | some (i, rest) => (parseFrom fuel rest).map (i :: ·)
    | none => none
  | fuel + 1, c :: rest => (parseFrom fuel rest).map (.literal c :: ·)

/-- Reads a format; every item takes at least one character. -/
def parse? (format : String) : Option (List Item) :=
  parseFrom format.toList.length format.toList

/-! ### Rendering -/

/-- A number brought to a width. -/
def number (pad : Pad) (width : Nat) (n : Nat) : List Char :=
  let digits := Nat.toDigits 10 n
  let fill := width - digits.length
  match pad with
  | .none => digits
  | .blanks => List.replicate fill ' ' ++ digits
  | .zeros => List.replicate fill '0' ++ digits

/-- A year: at least four digits, with a sign outside the years 0 to 9999. -/
def yearText (pad : Pad) (y : Int) : List Char :=
  if y < 0 then '-' :: number pad 4 y.natAbs
  else if y > 9999 then '+' :: number pad 4 y.natAbs
  else number pad 4 y.natAbs

def monthNames : List String :=
  ["January", "February", "March", "April", "May", "June", "July", "August", "September", "October",
    "November", "December"]

def weekdayNames : List String :=
  ["Sunday", "Monday", "Tuesday", "Wednesday", "Thursday", "Friday", "Saturday"]

/-- The offset from universal time: sign and hours, then minutes, and seconds with two colons. -/
def offsetText (colons : Nat) (seconds : Int) : List Char :=
  let n := seconds.natAbs
  let two := number .zeros 2
  let sign := if seconds < 0 then '-' else '+'
  let minutes := two (n / 60 % 60)
  match colons with
  | 0 => sign :: two (n / 3600) ++ minutes
  | 1 => sign :: two (n / 3600) ++ ':' :: minutes
  | 2 => sign :: two (n / 3600) ++ ':' :: minutes ++ ':' :: two (n % 60)
  | _ => sign :: two (n / 3600)

/-- The fraction of a second: nothing if it is zero, else the groups of three digits it takes. -/
def autoFraction (nanos : Nat) : List Char :=
  if nanos == 0 then []
  else if nanos % 1000000 == 0 then '.' :: number .zeros 3 (nanos / 1000000)
  else if nanos % 1000 == 0 then '.' :: number .zeros 6 (nanos / 1000)
  else '.' :: number .zeros 9 nanos

/-- The first digits of the fraction of a second. -/
def fractionDigits (digits nanos : Nat) : List Char :=
  number .zeros digits (nanos / Nat.pow 10 (9 - digits))

/-- A field that is one number or one name. -/
def simpleField (m : Moment) (letter : Char) (pad : Option Pad) : List Char :=
  let zero := pad.getD .zeros
  let blank := pad.getD .blanks
  let name := fun (names : List String) (i : Nat) => (names.getD i "").toList
  let d := m.date
  let hour12 := if m.hour % 12 == 0 then 12 else m.hour % 12
  match letter with
  | 'Y' => yearText zero d.year
  | 'C' => number zero 2 (d.year.fdiv 100).toNat
  | 'y' => number zero 2 (d.year.fmod 100).toNat
  | 'G' => yearText zero m.isoWeek.1
  | 'g' => number zero 2 (m.isoWeek.1.fmod 100).toNat
  | 'q' => number zero 1 ((d.month - 1) / 3 + 1)
  | 'm' => number zero 2 d.month
  | 'b' | 'h' => (name monthNames (d.month - 1)).take 3
  | 'B' => name monthNames (d.month - 1)
  | 'd' => number zero 2 d.day
  | 'e' => number blank 2 d.day
  | 'a' => (name weekdayNames m.weekday).take 3
  | 'A' => name weekdayNames m.weekday
  | 'w' => number zero 1 m.weekday
  | 'u' => number zero 1 (if m.weekday == 0 then 7 else m.weekday)
  | 'U' => number zero 2 (m.weekFrom 0)
  | 'W' => number zero 2 (m.weekFrom 1)
  | 'V' => number zero 2 m.isoWeek.2
  | 'j' => number zero 3 d.dayOfYear
  | 'H' => number zero 2 m.hour
  | 'k' => number blank 2 m.hour
  | 'I' => number zero 2 hour12
  | 'l' => number blank 2 hour12
  | 'P' => if m.hour < 12 then ['a', 'm'] else ['p', 'm']
  | 'p' => if m.hour < 12 then ['A', 'M'] else ['P', 'M']
  | 'M' => number zero 2 m.minute
  | 'S' => number zero 2 m.second
  | 'f' => number zero 9 m.nanos
  | 's' => (toString m.seconds).toList
  | 'Z' => offsetText 1 m.offset
  | 'z' => offsetText 0 m.offset
  | 't' => ['\t']
  | 'n' => ['\n']
  | _ => ['%']

/-- The fields that a letter stands for several of, with the text between them. -/
def expansion (letter : Char) : Option (List Char) :=
  match letter with
  | 'D' | 'x' => some "m/d/y".toList
  | 'F' => some "Y-m-d".toList
  | 'v' => some "e-b-Y".toList
  | 'R' => some "H:M".toList
  | 'T' | 'X' => some "H:M:S".toList
  | 'r' => some "I:M:S p".toList
  | 'c' => some "a b e H:M:S Y".toList
  | _ => none

/-- A field: one number or name, or several of them. -/
def field (m : Moment) (letter : Char) (pad : Option Pad) : List Char :=
  if letter == '+' then
    let f := fun c => simpleField m c none
    f 'Y' ++ '-' :: f 'm' ++ '-' :: f 'd' ++ 'T' :: f 'H' ++ ':' :: f 'M' ++ ':' :: f 'S'
      ++ autoFraction m.nanos ++ offsetText 1 m.offset
  else
    match expansion letter with
    | some parts => parts.flatMap fun c => if c.isAlpha then simpleField m c none else [c]
    | none => simpleField m letter pad

/-- The text of an item at a moment. -/
def Item.render? (m : Moment) : Item → Option (List Char)
  | literal c => some [c]
  | field letter pad => some (TimeFormat.field m letter pad)
  | fraction none _ => some (autoFraction m.nanos)
  | fraction (some digits) point =>
    some ((if point then ['.'] else []) ++ fractionDigits digits m.nanos)
  | offset colons => some (offsetText colons m.offset)
  | lenientOffset => none

/-- The text of a moment; there is none if an item has no rendering. -/
def render? (items : List Item) (m : Moment) : Option String :=
  (items.mapM (Item.render? m)).map fun parts => .ofList parts.flatten

end LineScript.TimeFormat
