import LineScript.Pattern

/-!
**When a pattern heeds case.**

A pattern ignores case unless an upper-case letter in it counts, and a letter counts unless it follows a
backslash or stands in brackets.  The scan that decides this knows no more of patterns than that.  The letters
that it skips are no letters to be matched: they name a class, or are the ends of a range.  But the sign by which
a group is named, `(?P<`, has an upper-case letter too, which is just as little to be matched, and that one counts.
So a pattern with a group that is named in this way heeds case, whatever else is in it.  The other sign for the
same, `(?<`, makes no difference.

Main definitions:

* `LineScript.Pattern.Whole` — a text ends outside of brackets and not after a backslash;
* `LineScript.Pattern.Counts` — **an upper-case letter of the pattern counts**;
* `LineScript.Pattern.SmallName` — a name that the scan passes over.

Main results:

* `LineScript.Pattern.Whole.heedsCaseFrom_append` — what follows whole parts is scanned by itself;
* `LineScript.Pattern.heedsCase_iff` — a pattern heeds case just if a letter counts;
* `LineScript.Pattern.naming_heeds_iff` — **what naming a group does to a pattern**.
-/

set_option autoImplicit false

namespace LineScript.Pattern

/-! ### What is scanned -/

section Scan

variable {escaped inBrackets : Bool} {c : Char} {cs before rest : List Char}

theorem heedsCaseFrom_escaped : heedsCaseFrom true inBrackets (c :: cs) = heedsCaseFrom false inBrackets cs := by
  simp [heedsCaseFrom]

theorem heedsCaseFrom_backslash :
    heedsCaseFrom false inBrackets ('\\' :: cs) = heedsCaseFrom true inBrackets cs := by
  simp [heedsCaseFrom]

theorem heedsCaseFrom_inside (sign : c ≠ '\\') :
    heedsCaseFrom false true (c :: cs) = heedsCaseFrom false (c != ']') cs := by
  simp [heedsCaseFrom, sign]

theorem heedsCaseFrom_bracket : heedsCaseFrom false false ('[' :: cs) = heedsCaseFrom false true cs := by
  simp [heedsCaseFrom]

theorem heedsCaseFrom_plain (sign : c ≠ '\\') (bracket : c ≠ '[') :
    heedsCaseFrom false false (c :: cs) = (Case.isUpper c || heedsCaseFrom false false cs) := by
  simp [heedsCaseFrom, sign, bracket]

/-- **The text ends outside of brackets and not after a backslash**, read from after a backslash or not, and from
within brackets or not. -/
inductive Whole : Bool → Bool → List Char → Prop
  | nil : Whole false false []
  | plain {c : Char} {cs : List Char} (sign : c ≠ '\\') (bracket : c ≠ '[') (rest : Whole false false cs) :
      Whole false false (c :: cs)
  | opens {cs : List Char} (rest : Whole false true cs) : Whole false false ('[' :: cs)
  | inside {c : Char} {cs : List Char} (sign : c ≠ '\\') (bracket : c ≠ ']') (rest : Whole false true cs) :
      Whole false true (c :: cs)
  | closes {cs : List Char} (rest : Whole false false cs) : Whole false true (']' :: cs)
  | backslash {inBrackets : Bool} {cs : List Char} (rest : Whole true inBrackets cs) :
      Whole false inBrackets ('\\' :: cs)
  | escaped {inBrackets : Bool} {c : Char} {cs : List Char} (rest : Whole false inBrackets cs) :
      Whole true inBrackets (c :: cs)

/-- **What follows whole parts is scanned by itself.** -/
theorem Whole.heedsCaseFrom_append (whole : Whole escaped inBrackets before) (rest : List Char) :
    heedsCaseFrom escaped inBrackets (before ++ rest) =
      (heedsCaseFrom escaped inBrackets before || heedsCaseFrom false false rest) := by
  induction whole with
  | nil => simp [heedsCaseFrom]
  | plain sign bracket _ ih =>
      rw [List.cons_append, heedsCaseFrom_plain sign bracket, heedsCaseFrom_plain sign bracket, ih, Bool.or_assoc]
  | opens _ ih => rw [List.cons_append, heedsCaseFrom_bracket, heedsCaseFrom_bracket, ih]
  | inside sign bracket _ ih =>
      have still : ∀ {c : Char}, c ≠ ']' → (c != ']') = true := by simp
      rw [List.cons_append, heedsCaseFrom_inside sign, heedsCaseFrom_inside sign, still bracket, ih]
  | closes _ ih =>
      rw [List.cons_append, heedsCaseFrom_inside (by decide), heedsCaseFrom_inside (by decide)]
      exact ih
  | backslash _ ih => rw [List.cons_append, heedsCaseFrom_backslash, heedsCaseFrom_backslash, ih]
  | escaped _ ih => rw [List.cons_append, heedsCaseFrom_escaped, heedsCaseFrom_escaped, ih]

theorem Whole.append (whole : Whole escaped inBrackets before) (next : Whole false false rest) :
    Whole escaped inBrackets (before ++ rest) := by
  induction whole with
  | nil => exact next
  | plain sign bracket _ ih => exact .plain sign bracket ih
  | opens _ ih => exact .opens ih
  | inside sign bracket _ ih => exact .inside sign bracket ih
  | closes _ ih => exact .closes ih
  | backslash _ ih => exact .backslash ih
  | escaped _ ih => exact .escaped ih

/-- A letter that is found stands after whole parts. -/
theorem exists_counts (found : heedsCaseFrom escaped inBrackets cs = true) :
    ∃ before c after, cs = before ++ c :: after ∧ Whole escaped inBrackets before ∧ Case.isUpper c = true := by
  induction cs generalizing escaped inBrackets with
  | nil => cases found
  | cons d cs ih =>
      -- what comes after the first sign is found from the state that the sign leads to
      have later : ∀ {escaped' inBrackets' : Bool}, heedsCaseFrom escaped' inBrackets' cs = true →
          (∀ {before}, Whole escaped' inBrackets' before → Whole escaped inBrackets (d :: before)) →
          ∃ before c after, d :: cs = before ++ c :: after ∧ Whole escaped inBrackets before ∧
            Case.isUpper c = true := by
        intro escaped' inBrackets' found leads
        obtain ⟨before, c, after, rfl, whole, upper⟩ := ih found
        exact ⟨d :: before, c, after, rfl, leads whole, upper⟩
      cases escaped with
      | true =>
          rw [heedsCaseFrom_escaped] at found
          exact later found .escaped
      | false =>
          by_cases sign : d = '\\'
          · subst sign
            rw [heedsCaseFrom_backslash] at found
            exact later found .backslash
          · cases inBrackets with
            | true =>
                rw [heedsCaseFrom_inside sign] at found
                by_cases close : d = ']'
                · subst close
                  exact later found .closes
                · rw [bne_iff_ne.2 close] at found
                  exact later found (.inside sign close)
            | false =>
                by_cases bracket : d = '['
                · subst bracket
                  rw [heedsCaseFrom_bracket] at found
                  exact later found .opens
                · rw [heedsCaseFrom_plain sign bracket, Bool.or_eq_true] at found
                  rcases found with upper | found
                  · exact ⟨[], d, cs, rfl, .nil, upper⟩
                  · exact later found (.plain sign bracket)

/-- No sign that the scan looks for is an upper-case letter. -/
theorem plain_of_isUpper (upper : Case.isUpper c = true) : c ≠ '\\' ∧ c ≠ '[' := by
  constructor
  · rintro rfl
    exact absurd upper (by decide +kernel)
  · rintro rfl
    exact absurd upper (by decide +kernel)

end Scan

/-- **An upper-case letter of the pattern counts**: it stands after whole parts, and so neither in brackets nor
after a backslash. -/
def Counts (source : String) : Prop :=
  ∃ before c after, source.toList = before ++ c :: after ∧ Whole false false before ∧ Case.isUpper c = true

/-- **A pattern heeds case just if a letter counts.** -/
theorem heedsCase_iff (source : String) : heedsCase source = true ↔ Counts source := by
  constructor
  · exact exists_counts
  · rintro ⟨before, c, after, chars, whole, upper⟩
    obtain ⟨sign, bracket⟩ := plain_of_isUpper upper
    rw [heedsCase, chars, whole.heedsCaseFrom_append, heedsCaseFrom_plain sign bracket, upper]
    simp

/-! ### Named groups -/

section Naming

variable {front name : String}

/-- **A name that the scan passes over**: it has no upper-case letter, no backslash and no opening bracket. -/
def SmallName (name : String) : Prop := ∀ c ∈ name.toList, Case.isUpper c = false ∧ c ≠ '\\' ∧ c ≠ '['

theorem smallName_of_all (all : (name.toList.all fun c => !Case.isUpper c && c != '\\' && c != '[') = true) :
    SmallName name := by
  simpa [SmallName, and_assoc] using all

theorem SmallName.append {other : String} (small : SmallName name) (also : SmallName other) :
    SmallName (name ++ other) := by
  intro c mem
  rw [String.toList_append, List.mem_append] at mem
  exact mem.elim (small c) (also c)

/-- Signs that the scan passes over are whole parts, and none of them counts. -/
theorem whole_of_small {cs : List Char} (small : ∀ c ∈ cs, Case.isUpper c = false ∧ c ≠ '\\' ∧ c ≠ '[') :
    Whole false false cs ∧ heedsCaseFrom false false cs = false := by
  induction cs with
  | nil => exact ⟨.nil, rfl⟩
  | cons c cs ih =>
      obtain ⟨lower, sign, bracket⟩ := small c List.mem_cons_self
      obtain ⟨whole, hnone⟩ := ih fun d mem => small d (List.mem_cons_of_mem c mem)
      refine ⟨.plain sign bracket whole, ?_⟩
      rw [heedsCaseFrom_plain sign bracket, lower, hnone]
      rfl

/-- What the scan passes over makes no difference between whole parts and what follows. -/
theorem heedsCase_pass (whole : Whole false false front.toList) {small : String} (pass : SmallName small)
    (rest : String) : heedsCase (front ++ small ++ rest) = heedsCase (front ++ rest) := by
  obtain ⟨passed, hnone⟩ := whole_of_small pass
  simp only [heedsCase, String.toList_append, List.append_assoc]
  rw [whole.heedsCaseFrom_append, passed.heedsCaseFrom_append, whole.heedsCaseFrom_append, hnone, Bool.false_or]

/-- The letter in the sign for a named group counts. -/
theorem counts_mark (whole : Whole false false front.toList) (rest : String) : Counts (front ++ "(?P<" ++ rest) := by
  have sign : Whole false false ['(', '?'] := .plain (by decide) (by decide) (.plain (by decide) (by decide) .nil)
  refine ⟨front.toList ++ ['(', '?'], 'P', '<' :: rest.toList, by simp, whole.append sign, by decide +kernel⟩

/-- **What naming a group does to a pattern.**  Whatever stands in front of a group, in it and after it, the pattern
heeds case once the group is named by `(?P<`; so naming it makes no difference just if a letter of the pattern
counted before.  It makes none if the group is named by `(?<`. -/
theorem naming_heeds_iff {front : String} (whole : Whole false false front.toList) (name body rest : String) :
    let plain := front ++ "(" ++ body ++ ")" ++ rest
    let named := front ++ "(?P<" ++ name ++ ">" ++ body ++ ")" ++ rest
    let unmarked := front ++ "(?<" ++ name ++ ">" ++ body ++ ")" ++ rest
    (heedsCase named = true ∧ flags named = { flags plain with ignoreCase := false }) ∧
      (heedsCase named = heedsCase plain ↔ Counts plain) ∧
      ((flags plain).ignoreCase = true ↔ ¬ Counts plain) ∧
      (SmallName name → heedsCase unmarked = heedsCase plain ∧ flags unmarked = flags plain) := by
  intro plain named unmarked
  have heeds : heedsCase named = true := by
    have counts := counts_mark whole (name ++ ">" ++ body ++ ")" ++ rest)
    simp only [← String.append_assoc] at counts
    exact (heedsCase_iff named).2 counts
  refine ⟨⟨heeds, ?_⟩, ?_, ?_, fun small => ?_⟩
  · simp [flags, heeds]
  · rw [heeds, ← heedsCase_iff, eq_comm]
  · rw [← heedsCase_iff]
    simp [flags]
  · have same : heedsCase unmarked = heedsCase plain := by
      -- both openings are passed over, and what is left of the two patterns is the same
      have opening : SmallName "(" := smallName_of_all (by decide +kernel)
      have mark : SmallName "(?<" := smallName_of_all (by decide +kernel)
      have close : SmallName ">" := smallName_of_all (by decide +kernel)
      have sign : SmallName ("(?<" ++ name ++ ">") := (mark.append small).append close
      have left := heedsCase_pass whole sign (body ++ ")" ++ rest)
      have right := heedsCase_pass whole opening (body ++ ")" ++ rest)
      simp only [← String.append_assoc] at left right
      exact left.trans right.symm
    exact ⟨same, by simp only [flags, same]⟩

/-- A pattern in small letters with two groups, the second of which is named: without the name, and with the other
sign for it, the pattern ignores case. -/
theorem naming_heeds_iff_dice :
    Whole false false "roll (\\d+)d".toList ∧ SmallName "sides" ∧
      heedsCase ("roll (\\d+)d" ++ "(?P<" ++ "sides" ++ ">" ++ "\\d+" ++ ")" ++ "") = true ∧
      (flags ("roll (\\d+)d" ++ "(" ++ "\\d+" ++ ")" ++ "")).ignoreCase = true ∧
      (flags ("roll (\\d+)d" ++ "(?<" ++ "sides" ++ ">" ++ "\\d+" ++ ")" ++ "")).ignoreCase = true := by
  have whole : Whole false false "roll (\\d+)d".toList := by
    have before : SmallName "roll (" := smallName_of_all (by decide +kernel)
    have after : SmallName "+)d" := smallName_of_all (by decide +kernel)
    have digit : Whole false false ['\\', 'd'] := .backslash (.escaped .nil)
    simpa using (whole_of_small before).1.append (digit.append (whole_of_small after).1)
  have small : SmallName "sides" := smallName_of_all (by decide +kernel)
  obtain ⟨⟨heeds, -⟩, -, ignores, other⟩ := naming_heeds_iff whole "sides" "\\d+" ""
  have hnone : ¬ Counts ("roll (\\d+)d" ++ "(" ++ "\\d+" ++ ")" ++ "") := by
    rw [← heedsCase_iff]
    decide +kernel
  refine ⟨whole, small, heeds, ignores.2 hnone, ?_⟩
  rw [(other small).2]
  exact ignores.2 hnone

/-- **Naming a group makes the pattern heed case**: in small letters it ignores case, until its group has a name; then
it no longer matches its own text in capitals. -/
theorem naming_heeds_case :
    SmallName "who" ∧ heedsCase "(tea)" = false ∧ heedsCase "(?P<who>tea)" = true ∧
      ∃ p, ofSource "(?P<who>tea)" = .ok p ∧ p.isMatch "tea" = true ∧ p.isMatch "TEA" = false := by
  -- the expression is named first, so that neither reading nor matching is evaluated within the other
  let r : Regex := .group 1 (some "who") (.text ['t', 'e', 'a'])
  have parsed : Regex.parse? (flags "(?P<who>tea)") "(?P<who>tea)" = some r := by decide +kernel
  have light : r.weight ≤ Regex.heaviest := by decide +kernel
  have read : ofSource "(?P<who>tea)" = .ok ⟨"(?P<who>tea)", r.compile⟩ := by
    rw [ofSource, if_neg (by decide), parsed]
    exact if_pos light
  exact ⟨smallName_of_all (by decide +kernel), by decide +kernel, by decide +kernel, _, read, by decide +kernel,
    by decide +kernel⟩

end Naming

end LineScript.Pattern
