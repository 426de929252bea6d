/-!
**Blank characters, words and lines.**

Script text is cut at *blank* characters, those with the Unicode property `White_Space`.  This
module supplies that class and the few ways in which the language cuts text with it: trimming,
splitting into words, cutting at the first blank, and splitting into lines.  Each cut is defined on
lists of characters, where it is a structural recursion, and restated on strings.

Main definitions:

* `LineScript.Blank.isBlank` — the class of blank characters;
* `LineScript.Blank.pieces`, `LineScript.Blank.words` — the text between blanks, with and without
  the empty pieces;
* `LineScript.Blank.cut` — the text before and after the first blank;
* `LineScript.Blank.lines` — the lines of a text;
* `LineScript.Text.trim`, `LineScript.Text.words`, `LineScript.Text.cut`, `LineScript.Text.lines` —
  the same on strings.

Main results:

* `LineScript.Blank.cut_eq_append` — a cut loses nothing but the blank it cuts at;
* `LineScript.Blank.mem_words` — **every word is non-empty and blank-free**.
-/

set_option autoImplicit false

namespace LineScript.Blank

/-! ### The class -/

/-- The characters with the property `White_Space`. -/
def isBlank (c : Char) : Bool :=
  let n := c.toNat
  (0x09 ≤ n && n ≤ 0x0D) || n == 0x20 || n == 0x85 || n == 0xA0 || n == 0x1680
    || (0x2000 ≤ n && n ≤ 0x200A) || n == 0x2028 || n == 0x2029 || n == 0x202F || n == 0x205F
    || n == 0x3000

/-- The blanks of ASCII: space, tab, line feed, form feed and carriage return.  The vertical tab
is blank without being one of them. -/
def isAsciiBlank (c : Char) : Bool :=
  c == ' ' || c == '\t' || c == '\n' || c == '\x0c' || c == '\r'

/-! ### Trimming -/

/-- Drops the blanks at the front. -/
def trimStart (cs : List Char) : List Char :=
  cs.dropWhile isBlank

/-- Drops the blanks at the back. -/
def trimEnd (cs : List Char) : List Char :=
  (cs.reverse.dropWhile isBlank).reverse

/-- Drops the blanks at both ends. -/
def trim (cs : List Char) : List Char :=
  trimEnd (trimStart cs)

/-! ### Words -/

/-- The text between blanks; two neighbouring blanks have an empty piece between them. -/
def pieces : List Char → List (List Char)
  | [] => [[]]
  | c :: cs =>
    if isBlank c then [] :: pieces cs
    else
      match pieces cs with
      | [] => [[c]]
      | p :: ps => (c :: p) :: ps

/-- The words of a text: its maximal non-empty blank-free pieces, in order. -/
def words (cs : List Char) : List (List Char) :=
  (pieces cs).filter fun p => !p.isEmpty

theorem mem_pieces {cs p : List Char} (h : p ∈ pieces cs) : ∀ c ∈ p, isBlank c = false := by
  induction cs generalizing p with
  | nil => simp_all [pieces]
  | cons c cs ih =>
    by_cases hc : isBlank c
    · simp only [pieces, hc, if_true, List.mem_cons] at h
      rcases h with rfl | h
      · simp
      · exact ih h
    · simp only [pieces, hc] at h
      cases hp : pieces cs with
      | nil => simp_all
      | cons q qs =>
        simp only [hp, Bool.false_eq_true, if_false, List.mem_cons] at h
        rcases h with rfl | h
        · intro d hd
          rcases List.mem_cons.1 hd with rfl | hd
          · simpa using hc
          · exact ih (by simp [hp]) d hd
        · exact ih (by simp [hp, h])

/-- **Every word is non-empty and blank-free.** -/
theorem mem_words {cs w : List Char} (h : w ∈ words cs) : w ≠ [] ∧ ∀ c ∈ w, isBlank c = false := by
  simp only [words, List.mem_filter] at h
  exact ⟨by simpa using h.2, mem_pieces h.1⟩

/-! ### Cutting at the first blank -/

/-- The text before and after the first blank, if there is one. -/
def cut : List Char → Option (List Char × List Char)
  | [] => none
  | c :: cs =>
    if isBlank c then some ([], cs)
    else (cut cs).map fun (before, after) => (c :: before, after)

/-- A cut loses nothing but the blank it cuts at, and the part before it is blank-free. -/
theorem cut_eq_append {cs before after : List Char} (h : cut cs = some (before, after)) :
    ∃ b, isBlank b = true ∧ cs = before ++ b :: after ∧ ∀ c ∈ before, isBlank c = false := by
  induction cs generalizing before with
  | nil => simp [cut] at h
  | cons c cs ih =>
    by_cases hc : isBlank c
    · simp only [cut, hc, if_true, Option.some.injEq, Prod.mk.injEq] at h
      exact ⟨c, hc, by simp [← h.1, ← h.2], by simp [← h.1]⟩
    · simp only [cut, hc] at h
      obtain ⟨⟨b, a⟩, hcut, hba⟩ := Option.map_eq_some_iff.1 h
      simp only [Prod.mk.injEq] at hba
      obtain ⟨rfl, rfl⟩ := hba
      obtain ⟨x, hx, rfl, hb⟩ := ih hcut
      refine ⟨x, hx, by simp, ?_⟩
      intro d hd
      rcases List.mem_cons.1 hd with rfl | hd
      · simpa using hc
      · exact hb d hd

/-- A text without a cut is blank-free. -/
theorem cut_eq_none {cs : List Char} : cut cs = none ↔ ∀ c ∈ cs, isBlank c = false := by
  induction cs with
  | nil => simp [cut]
  | cons c cs ih => by_cases hc : isBlank c <;> simp [cut, hc, ih]

/-! ### Lines -/

/-- The lines ended by a line feed, and the text after the last one. -/
def feeds : List Char → List (List Char) × List Char
  | [] => ([], [])
  | c :: cs =>
    let (ended, rest) := feeds cs
    if c = '\n' then ([] :: ended, rest)
    else
      match ended with
      | [] => ([], c :: rest)
      | l :: ls => ((c :: l) :: ls, rest)

/-- Drops one carriage return at the end. -/
def dropReturn (cs : List Char) : List Char :=
  if cs.getLast? = some '\r' then cs.dropLast else cs

/-- The lines of a text.  A carriage return right before a line feed belongs to the line end; a
last line without a line feed keeps its own, and an empty last line is no line. -/
def lines (cs : List Char) : List (List Char) :=
  let (ended, rest) := feeds cs
  ended.map dropReturn ++ if rest.isEmpty then [] else [rest]

end LineScript.Blank

namespace LineScript.Text

/-- Drops the blanks at the front. -/
def trimStart (s : String) : String := .ofList (Blank.trimStart s.toList)

/-- Drops the blanks at the back. -/
def trimEnd (s : String) : String := .ofList (Blank.trimEnd s.toList)

/-- Drops the blanks at both ends. -/
def trim (s : String) : String := .ofList (Blank.trim s.toList)

/-- The words of a text. -/
def words (s : String) : List String := (Blank.words s.toList).map .ofList

/-- The text before and after the first blank, if there is one. -/
def cut (s : String) : Option (String × String) :=
  (Blank.cut s.toList).map fun (before, after) => (.ofList before, .ofList after)

/-- The first word and what follows its blank; without a blank, the whole text and nothing. -/
def cutOrAll (s : String) : String × String := (cut s).getD (s, "")

/-- The lines of a text. -/
def lines (s : String) : List String := (Blank.lines s.toList).map .ofList

/-- No character of the text is other than blank. -/
def isBlank (s : String) : Bool := s.toList.all Blank.isBlank

end LineScript.Text
