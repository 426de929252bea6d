import LineScript.Text.Letter

/-!
**Names.**

A value has a *scoped name*: a sigil for its scope, `$` for what the host supplies, `?` for the
arguments of the invocation, `!` for the variables of the script, and then letters, digits and
dots.  A trailing `*` makes the name a wildcard, which covers every key that begins with the rest
of it.  Labels carry the sigil `@`, and list names with the sigil `#` are reserved for the host.

Main definitions:

* `LineScript.Scope` — the three scopes and their sigils;
* `LineScript.ScopedName` — scope, base name and wildcard mark;
* `LineScript.ScopedName.parse?` — splits a word by its sigil, without looking at the characters;
* `LineScript.Name.isPlain`, `LineScript.Name.isScoped`, `LineScript.Name.isVariable`,
  `LineScript.Name.isLabel`, `LineScript.Name.isCommand` — which words are well-formed names.

Main result:

* `LineScript.ScopedName.parse?_display` — **a displayed name parses back**, unless its base ends in
  the wildcard mark itself.
-/

set_option autoImplicit false

namespace LineScript

/-! ### Scopes -/

/-- Where a value comes from. -/
inductive Scope where
  /-- supplied by the host -/
  | host
  /-- bound from the arguments of the invocation -/
  | argument
  /-- set by the script: its variables -/
  | script
deriving DecidableEq

namespace Scope

/-- The sign a name of the scope begins with. -/
def sigil : Scope → Char
  | host => '$'
  | argument => '?'
  | script => '!'

/-- The scope of a sign. -/
def ofSigil? : Char → Option Scope
  | '$' => some host
  | '?' => some argument
  | '!' => some script
  | _ => none

theorem ofSigil?_sigil (s : Scope) : ofSigil? s.sigil = some s := by
  cases s <;> rfl

end Scope

/-! ### Scoped names -/

/-- A scoped name, such as `!data.id`, or a wildcard, such as `!data.*`. -/
structure ScopedName where
  scope : Scope
  base : String
  wildcard : Bool
deriving DecidableEq

namespace ScopedName

/-- The name of a single value. -/
def plain (scope : Scope) (base : String) : ScopedName := ⟨scope, base, false⟩

/-- The key the value is kept under: the sigil and the base name. -/
def key (n : ScopedName) : String := .ofList (n.scope.sigil :: n.base.toList)

/-- The key of the member of a wildcard that has the given rest. -/
def member (n : ScopedName) (rest : String) : String := n.key ++ rest

/-- The name as it is written in a script. -/
def display (n : ScopedName) : String := if n.wildcard then n.key ++ "*" else n.key

/-- Drops one wildcard mark at the end, and says whether there was one. -/
def dropMark (cs : List Char) : List Char × Bool :=
  if cs.getLast? = some '*' then (cs.dropLast, true) else (cs, false)

/-- Splits a word into scope, base name and wildcard mark.  Only the sigil is looked at. -/
def parse? (word : String) : Option ScopedName :=
  match word.toList with
  | [] => none
  | c :: rest =>
    (Scope.ofSigil? c).map fun scope =>
      let (base, wildcard) := dropMark rest
      ⟨scope, .ofList base, wildcard⟩

/-- **A displayed name parses back.**  A plain name whose base ends in the wildcard mark is the
one exception, and no well-formed name is of that kind. -/
theorem parse?_display {n : ScopedName} (h : n.wildcard = true ∨ n.base.toList.getLast? ≠ some '*') :
    parse? n.display = some n := by
  obtain ⟨scope, base, wildcard⟩ := n
  cases wildcard with
  | true => simp [parse?, display, key, Scope.ofSigil?_sigil, dropMark]
  | false =>
    have hb : base.toList.getLast? ≠ some '*' := by simpa using h
    simp [parse?, display, key, Scope.ofSigil?_sigil, dropMark, hb]

end ScopedName

/-! ### Well-formed words -/

namespace Name

/-- The sign a label begins with. -/
def labelSigil : Char := '@'

/-- Non-empty, and letters, digits and dots only. -/
def isPlainChars (cs : List Char) : Bool :=
  !cs.isEmpty && cs.all fun c => Letter.isAlphanumeric c || c == '.'

/-- A plain name: non-empty, and letters, digits and dots only. -/
def isPlain (word : String) : Bool := isPlainChars word.toList

/-- A sigil that passes the test, and a plain name.  A wildcard mark is accepted only when
allowed, and never without a name in front of it. -/
def isScopedBy (sigilOk : Char → Bool) (wild : Bool) (word : String) : Bool :=
  match word.toList with
  | [] => false
  | c :: rest =>
    let (base, wildcard) := ScopedName.dropMark rest
    sigilOk c && (wild || !wildcard) && isPlainChars base

/-- A well-formed scoped name. -/
def isScoped (word : String) (wild : Bool) : Bool :=
  isScopedBy (fun c => (Scope.ofSigil? c).isSome) wild word

/-- A well-formed name of a variable. -/
def isVariable (word : String) (wild : Bool) : Bool :=
  isScopedBy (fun c => c == Scope.script.sigil) wild word

/-- A well-formed label: its sigil and a plain name. -/
def isLabel (word : String) : Bool :=
  match word.toList with
  | [] => false
  | c :: rest => c == labelSigil && isPlainChars rest

/-- A well-formed command word: non-empty, and letters and digits only. -/
def isCommand (word : String) : Bool :=
  !word.isEmpty && word.toList.all Letter.isAlphanumeric

/-- A list name that only the host may supply. -/
def isReserved (word : String) : Bool := word.toList.head? == some '#'

end Name

end LineScript
