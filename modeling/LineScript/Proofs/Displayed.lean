import LineScript.Proofs.Readers

/-!
**Operands as they are displayed.**

An operand is displayed as it would be written in a script: a name as a name, a number as a number, any other
text after a double quote.  To be read back, the text of a constant has to be the one that is made from it when
it is read.  For a text that is no number it is, since the quote is put back.  A text that is a number loses its
quote, and is then read as a number, which is written in one way only: so what was spelt in another way, with a
plus sign or with zeros in front, comes back as another text.

Main definitions:

* `LineScript.Decimal.Respelt` — a number is spelt otherwise than it is written;
* `LineScript.Operand.QuotesRespelt` — the word is such a number after a double quote.

Main results:

* `LineScript.Decimal.toDigits_ofDigitChars` — digits are those of their number, but for zeros in front;
* `LineScript.Decimal.eq_write_iff` — a number is spelt as it is written just if it is not respelt;
* `LineScript.ScopedName.display_of_parse?` — a name is displayed as it was written;
* `LineScript.Operand.display_reads_back_iff` — **an operand is read back from its display just if it was not
  written as a quoted number in another spelling**.
-/

set_option autoImplicit false

namespace LineScript

/-! ### Spellings of numbers -/

namespace Decimal

variable {cs rest : List Char} {c : Char} {n : Int64}

theorem toDigits_of_digit (digit : c.isDigit = true) : Nat.toDigits 10 (c.toNat - '0'.toNat) = [c] := by
  obtain ⟨low, high⟩ : 48 ≤ c.toNat ∧ c.toNat ≤ 57 := Char.isDigit_iff_toNat.1 digit
  have table : ∀ d < 10, Nat.digitChar d = Char.ofNat (48 + d) := by decide
  change Nat.toDigits 10 (c.toNat - 48) = [c]
  rw [Nat.toDigits_of_lt_base (by omega), table _ (by omega), Nat.add_sub_cancel' low, Char.ofNat_toNat]

/-- Digits after a positive number are the digits that are written after it. -/
theorem toDigits_ofDigitChars (digits : ∀ c ∈ cs, c.isDigit = true) {init : Nat} (pos : 0 < init) :
    Nat.toDigits 10 (Nat.ofDigitChars 10 cs init) = Nat.toDigits 10 init ++ cs := by
  induction cs generalizing init with
  | nil => simp
  | cons c cs ih =>
      have digit : c.isDigit = true := digits c List.mem_cons_self
      have bound : c.toNat - '0'.toNat < 10 := by
        obtain ⟨_, high⟩ : 48 ≤ c.toNat ∧ c.toNat ≤ 57 := Char.isDigit_iff_toNat.1 digit
        change c.toNat - 48 < 10
        omega
      rw [Nat.ofDigitChars_cons, ih (fun d mem => digits d (List.mem_cons_of_mem c mem)) (by omega),
        ← Nat.toDigits_append_toDigits (by decide) pos bound, toDigits_of_digit digit, List.append_assoc,
        List.singleton_append]

/-- No positive number is written with a zero in front. -/
theorem head?_toDigits {m : Nat} (pos : 0 < m) : (Nat.toDigits 10 m).head? ≠ some '0' := by
  induction m using Nat.strongRecOn with
  | ind m ih =>
      by_cases small : m < 10
      · have table : ∀ d < 10, 0 < d → Nat.digitChar d ≠ '0' := by decide
        rw [Nat.toDigits_of_lt_base small]
        simpa using table m small pos
      · rw [Nat.toDigits_of_base_le (by decide) (by omega), List.head?_append]
        have first := ih (m / 10) (by omega) (by omega)
        cases shape : (Nat.toDigits 10 (m / 10)).head? with
        | none => exact absurd (List.head?_eq_none_iff.1 shape) Nat.toDigits_ne_nil
        | some d => simpa [shape] using first

theorem digits?_eq_some_iff {m : Nat} :
    digits? cs = some m ↔ cs ≠ [] ∧ (∀ c ∈ cs, c.isDigit = true) ∧ Nat.ofDigitChars 10 cs 0 = m := by
  simp [digits?, and_assoc]

/-- **Digits are those that their number is written with**, unless there is a zero in front of others. -/
theorem eq_toDigits_iff {m : Nat} (read : digits? cs = some m) :
    cs = Nat.toDigits 10 m ↔ ∀ c rest, cs ≠ '0' :: c :: rest := by
  obtain ⟨hne, digits, rfl⟩ := digits?_eq_some_iff.1 read
  constructor
  · rintro same c rest rfl
    -- a zero in front of others is the first digit of no number
    rcases Nat.eq_zero_or_pos (Nat.ofDigitChars 10 ('0' :: c :: rest) 0) with zero | pos
    · rw [zero] at same
      cases same
    · exact head?_toDigits pos (by rw [← same]; rfl)
  · intro bare
    obtain ⟨d, ds, rfl⟩ := List.exists_cons_of_ne_nil hne
    have digit : d.isDigit = true := digits d List.mem_cons_self
    rw [Nat.ofDigitChars_cons, Nat.mul_zero, Nat.zero_add]
    by_cases zero : d = '0'
    · subst zero
      cases ds with
      | nil => rfl
      | cons c rest => exact absurd rfl (bare c rest)
    · have pos : 0 < d.toNat - '0'.toNat := by
        obtain ⟨low, _⟩ : 48 ≤ d.toNat ∧ d.toNat ≤ 57 := Char.isDigit_iff_toNat.1 digit
        have other : d.toNat ≠ 48 := fun same => zero (Char.toNat_inj.1 same)
        change 0 < d.toNat - 48
        omega
      rw [toDigits_ofDigitChars (fun c mem => digits c (List.mem_cons_of_mem d mem)) pos,
        toDigits_of_digit digit, List.singleton_append]

/-- **A number is spelt otherwise than it is written**: with a plus sign, with a zero in front of other digits, or
with a zero after a minus sign. -/
def Respelt (cs : List Char) : Prop :=
  ∃ rest, cs = '+' :: rest ∨ cs = '-' :: '0' :: rest ∨ ∃ c, cs = '0' :: c :: rest

theorem write_of_int64? (read : int64? cs = some n) : ∃ k : Int, int? cs = some k ∧ write n = writeInt k := by
  unfold int64? at read
  obtain ⟨k, number, fits⟩ := Option.bind_eq_some_iff.1 read
  split at fits
  · rename_i range
    cases fits
    refine ⟨k, number, ?_⟩
    rw [write, Int64.toInt_ofInt_of_le range.1 (by omega)]
  · cases fits

/-- Digits have a zero in front just if they are not those that a positive number is written with. -/
theorem zero_in_front_iff {m : Nat} (read : digits? cs = some m) :
    (∃ rest, cs = '0' :: rest) ↔ ¬ (0 < m ∧ cs = Nat.toDigits 10 m) := by
  constructor
  · rintro ⟨rest, rfl⟩ ⟨pos, same⟩
    exact head?_toDigits pos (by rw [← same]; rfl)
  · intro other
    rcases Nat.eq_zero_or_pos m with rfl | pos
    · by_cases bare : ∀ c rest, cs ≠ '0' :: c :: rest
      · exact ⟨[], (eq_toDigits_iff read).2 bare⟩
      · obtain ⟨c, rest, rfl⟩ : ∃ c rest, cs = '0' :: c :: rest := by simpa using bare
        exact ⟨c :: rest, rfl⟩
    · have spelt : ¬ ∀ c rest, cs ≠ '0' :: c :: rest := fun bare => other ⟨pos, (eq_toDigits_iff read).2 bare⟩
      obtain ⟨c, rest, rfl⟩ : ∃ c rest, cs = '0' :: c :: rest := by simpa using spelt
      exact ⟨c :: rest, rfl⟩

/-- **A number is spelt as it is written just if it is not respelt.** -/
theorem eq_write_iff (read : int64? cs = some n) : cs = write n ↔ ¬ Respelt cs := by
  obtain ⟨k, number, written⟩ := write_of_int64? read
  rw [written]
  unfold int? at number
  split at number
  · rename_i rest
    obtain ⟨m, _, rfl⟩ := Option.map_eq_some_iff.1 number
    -- no number is written with a plus sign
    refine iff_of_false (fun same => ?_) (not_not_intro ⟨rest, .inl rfl⟩)
    have mem : '+' ∈ Nat.toDigits 10 m := by
      change '+' :: rest = Nat.toDigits 10 m at same
      exact same ▸ List.mem_cons_self
    have digit : Char.isDigit '+' = true := Nat.isDigit_of_mem_toDigits (by decide) (by decide) mem
    cases digit
  · rename_i rest
    obtain ⟨m, digits, rfl⟩ := Option.map_eq_some_iff.1 number
    have spelt : Respelt ('-' :: rest) ↔ ∃ r, rest = '0' :: r := by simp [Respelt]
    rw [spelt, zero_in_front_iff digits, Classical.not_not]
    cases m with
    | zero => exact iff_of_false (by simp [writeInt]) (by simp)
    | succ m =>
        have negative : writeInt (-Int.ofNat (m + 1)) = '-' :: Nat.toDigits 10 (m + 1) := rfl
        rw [negative, List.cons_inj_right]
        exact (and_iff_right (Nat.succ_pos m)).symm
  · rename_i noPlus noMinus
    obtain ⟨m, digits, rfl⟩ := Option.map_eq_some_iff.1 number
    rw [writeInt, eq_toDigits_iff digits]
    constructor
    · rintro bare ⟨rest, plus | minus | ⟨c, zero⟩⟩
      · exact noPlus _ plus
      · exact noMinus _ minus
      · exact bare c rest zero
    · rintro plain c rest rfl
      exact plain ⟨rest, .inr (.inr ⟨c, rfl⟩)⟩

end Decimal

/-- The text of a number is a number. -/
theorem Value.isNumeric_ofNumber (n : Int64) : (ofNumber n).isNumeric = true := by
  have written : (ofNumber n).text.toList = Decimal.write n := String.toList_ofList
  rw [isNumeric, written, trim_eq_self fun c mem => isBlank_of_mem_write mem, Decimal.int64?_write]
  rfl

/-! ### Names -/

theorem Scope.sigil_of_ofSigil? {c : Char} {scope : Scope} (known : Scope.ofSigil? c = some scope) :
    scope.sigil = c := by
  unfold Scope.ofSigil? at known
  split at known
  · cases known
    rfl
  · cases known
    rfl
  · cases known
    rfl
  · cases known

namespace ScopedName

/-- The mark that is dropped stood at the end. -/
theorem dropMark_append (cs : List Char) :
    (dropMark cs).1 ++ (if (dropMark cs).2 then ['*'] else []) = cs := by
  unfold dropMark
  split
  · rename_i marked
    obtain ⟨front, rfl⟩ := List.getLast?_eq_some_iff.1 marked
    simp
  · simp

/-- **A name is displayed as it was written.** -/
theorem display_of_parse? {word : String} {name : ScopedName} (parsed : parse? word = some name) :
    name.display = word := by
  unfold parse? at parsed
  split at parsed
  · cases parsed
  · rename_i c rest chars
    obtain ⟨scope, known, rfl⟩ := Option.map_eq_some_iff.1 parsed
    refine String.toList_inj.1 ?_
    have whole := dropMark_append rest
    rw [chars, ← Scope.sigil_of_ofSigil? known]
    generalize dropMark rest = parts at whole ⊢
    obtain ⟨base, mark⟩ := parts
    rw [← whole]
    cases mark with
    | true => simp [display, key]
    | false => simp [display, key]

end ScopedName

/-! ### Operands -/

namespace Operand

variable {word : String} {wild : Bool} {o : Operand} {before after : List Finding} {text : List Char} {n : Int64}

theorem read_of_int64? (number : Decimal.int64? word.toList = some n) :
    Operand.read word wild = pure (.constant (.ofNumber n)) := by
  unfold Operand.read
  split
  · rename_i text chars
    rw [chars] at number
    cases number
  · rw [number]

theorem read_of_quote (quoted : word.toList = '"' :: text) (hne : text ≠ []) :
    Operand.read word wild = pure (.constant (.ofText (.ofList text))) := by
  unfold Operand.read
  rw [quoted]
  simp [hne]

open Reading in
/-- A word that is neither quoted nor a number is read as a name if it is one, unless a fault was found before;
anything else is refused. -/
theorem outcome_read_name (noQuote : ∀ text, word.toList ≠ '"' :: text)
    (noNumber : Decimal.int64? word.toList = none) (wild : Bool) (before : List Finding) :
    (Operand.read word wild).outcome before =
      if Name.isScoped word wild then
        (if sound before then (ScopedName.parse? word).map named else none, before)
      else (none, before ++ [.fault (.badValueName word wild)]) := by
  have name : Operand.read word wild = do return .named (← scopedName word wild) := by
    unfold Operand.read
    split
    · rename_i text chars
      exact absurd chars (noQuote text)
    · rw [noNumber]
  rw [name, outcome_bind, scopedName, outcome_bind, valueName, require]
  cases Name.isScoped word wild with
  | false =>
      have wrong : sound (before ++ [.fault (.badValueName word wild)]) = false := by
        simp [sound, Finding.isFault]
      simp [outcome_record, outcome_bind, outcome_check, wrong]
  | true =>
      simp only [if_true, outcome_pure, outcome_bind, outcome_check]
      cases sound before with
      | false => simp
      | true => cases ScopedName.parse? word <;> rfl

/-- **All that an accepted word can be**: text after a double quote, a number, or a name; and nothing is found of
it. -/
theorem read_cases (accepted : (Operand.read word wild).outcome before = (some o, after)) :
    after = before ∧
      ((∃ text, word.toList = '"' :: text ∧ text ≠ [] ∧ o = .constant (.ofText (.ofList text))) ∨
        (∃ n, Decimal.int64? word.toList = some n ∧ o = .constant (.ofNumber n)) ∨
        ∃ name, o = .named name ∧ name.display = word ∧ sound before = true ∧
          ∀ again, sound again = true → (Operand.read word wild).outcome again = (some o, again)) := by
  by_cases quoted : ∃ text, word.toList = '"' :: text
  · obtain ⟨text, chars⟩ := quoted
    by_cases empty : text = []
    · subst empty
      unfold Operand.read at accepted
      rw [chars] at accepted
      cases accepted
    · rw [read_of_quote chars empty] at accepted
      cases accepted
      exact ⟨rfl, .inl ⟨text, chars, empty, rfl⟩⟩
  · have noQuote : ∀ text, word.toList ≠ '"' :: text := fun text chars => quoted ⟨text, chars⟩
    cases number : Decimal.int64? word.toList with
    | some n =>
        rw [read_of_int64? number] at accepted
        cases accepted
        exact ⟨rfl, .inr (.inl ⟨n, rfl, rfl⟩)⟩
    | none =>
        have outcome := outcome_read_name noQuote number wild
        rw [outcome] at accepted
        simp only [outcome]
        split at accepted
        · rename_i wellFormed
          cases faultless : sound before with
          | false => simp [faultless] at accepted
          | true =>
              simp only [faultless, if_true, Prod.mk.injEq, Option.map_eq_some_iff] at accepted
              obtain ⟨⟨name, parsed, rfl⟩, rfl⟩ := accepted
              refine ⟨rfl, .inr (.inr ⟨name, rfl, ScopedName.display_of_parse? parsed, rfl, ?_⟩)⟩
              intro again faultless
              simp [wellFormed, faultless, parsed]
        · cases accepted

/-! ### Reading back -/

/-- **The word is a number after a double quote, spelt otherwise than it is written.** -/
def QuotesRespelt (word : String) : Prop :=
  ∃ text, word.toList = '"' :: text ∧ (Decimal.int64? text).isSome = true ∧ Decimal.Respelt text

theorem display_ofNumber (n : Int64) : display (.constant (.ofNumber n)) = Text.ofInt64 n := by
  rw [display, if_pos (Value.isNumeric_ofNumber n)]
  rfl

/-- The quote is put back unless the text is a number. -/
theorem display_ofText (solid : ∀ c ∈ text, Blank.isBlank c = false) :
    (display (.constant (.ofText (.ofList text)))).toList =
      if (Decimal.int64? text).isSome then text else '"' :: text := by
  simp only [display, Value.isNumeric, Value.text_ofText, String.toList_ofList, Value.trim_eq_self solid]
  split <;> simp

/-- A text that is a number is the same constant without its quote just if it is spelt as it is written. -/
theorem constant_ofText_eq_iff (number : Decimal.int64? text = some n) :
    constant (.ofText (.ofList text)) = constant (.ofNumber n) ↔ ¬ Decimal.Respelt text := by
  rw [← Decimal.eq_write_iff number, constant.injEq]
  constructor
  · intro same
    exact String.ofList_injective (congrArg Value.text same)
  · rintro rfl
    exact Value.ext_text rfl

/-- A quoted number is displayed without its quote, and so is read as the number. -/
theorem read_display_of_number (solid : ∀ c ∈ text, Blank.isBlank c = false)
    (number : Decimal.int64? text = some n) (wild : Bool) :
    Operand.read (display (constant (.ofText (.ofList text)))) wild = pure (constant (.ofNumber n)) := by
  have shown := display_ofText solid
  rw [number, Option.isSome_some, if_pos rfl] at shown
  exact read_of_int64? (by rw [shown, number])

/-- **All but a quoted number is read back.** -/
theorem read_back (solid : ∀ c ∈ word.toList, Blank.isBlank c = false)
    (accepted : (Operand.read word wild).outcome before = (some o, after))
    (other : ∀ text, word.toList = '"' :: text → Decimal.int64? text = none) {again : List Finding}
    (faultless : sound before = true → sound again = true) :
    (Operand.read o.display wild).outcome again = (some o, again) := by
  obtain ⟨_, ⟨text, chars, filled, rfl⟩ | ⟨n, _, rfl⟩ | ⟨name, rfl, shown, hsound, back⟩⟩ := read_cases accepted
  · have solid' : ∀ c ∈ text, Blank.isBlank c = false := fun c mem => solid c (chars ▸ List.mem_cons_of_mem _ mem)
    have shown := display_ofText solid'
    rw [other text chars, Option.isSome_none, if_neg Bool.false_ne_true] at shown
    rw [read_of_quote shown filled]
    rfl
  · have number : Decimal.int64? (display (constant (.ofNumber n))).toList = some n := by
      rw [display_ofNumber, Text.ofInt64, String.toList_ofList, Decimal.int64?_write]
    rw [read_of_int64? number]
    rfl
  · rw [show display (named name) = word from shown]
    exact back again (faultless hsound)

/-- **An operand is read back from its display just if it was not written as a quoted number in another
spelling.**  Whatever word without blanks is accepted, nothing is found of it, and its display is accepted as the
same operand by every reading that found no fault where the first one found none.  A quoted number that is
respelt comes back as a constant with the same number and another text. -/
theorem display_reads_back_iff {word : String} {wild : Bool} {before after : List Finding} {o : Operand}
    (solid : ∀ c ∈ word.toList, Blank.isBlank c = false)
    (accepted : (Operand.read word wild).outcome before = (some o, after)) :
    after = before ∧
      ((∀ again, (sound before = true → sound again = true) →
          (Operand.read o.display wild).outcome again = (some o, again)) ↔ ¬ QuotesRespelt word) ∧
      (QuotesRespelt word → ∃ v w : Value, o = constant v ∧ v.number = w.number ∧ v.text ≠ w.text ∧
        ∀ again, (Operand.read o.display wild).outcome again = (some (constant w), again)) := by
  refine ⟨(read_cases accepted).1, ?_⟩
  by_cases quoted : ∃ text n, word.toList = '"' :: text ∧ Decimal.int64? text = some n
  · obtain ⟨text, n, chars, number⟩ := quoted
    have solid' : ∀ c ∈ text, Blank.isBlank c = false := fun c mem => solid c (chars ▸ List.mem_cons_of_mem _ mem)
    have filled : text ≠ [] := by
      rintro rfl
      cases number
    obtain rfl : o = constant (.ofText (.ofList text)) := by
      rw [read_of_quote chars filled] at accepted
      cases accepted
      rfl
    have respelt : QuotesRespelt word ↔ Decimal.Respelt text := by
      simp [QuotesRespelt, chars, number]
    rw [respelt, read_display_of_number solid' number wild]
    refine ⟨?_, fun spelt => ⟨.ofText (.ofList text), .ofNumber n, rfl, ?_, fun same => ?_, fun again => rfl⟩⟩
    · rw [← constant_ofText_eq_iff number]
      constructor
      · intro back
        have found : some (constant (.ofNumber n)) = some (constant (.ofText (.ofList text))) :=
          congrArg Prod.fst (back before id)
        exact (Option.some.inj found).symm
      · intro same again _
        rw [same]
        rfl
    · simp [Value.ofText, numberOf, Value.trim_eq_self solid', number]
    · exact (constant_ofText_eq_iff number).1 (congrArg constant (Value.ext_text same)) spelt
  · have other : ∀ text, word.toList = '"' :: text → Decimal.int64? text = none := by
      intro text chars
      cases number : Decimal.int64? text with
      | none => rfl
      | some n => exact absurd ⟨text, n, chars, number⟩ quoted
    have plain : ¬ QuotesRespelt word := by
      rintro ⟨text, chars, isNumber, _⟩
      rw [other text chars] at isNumber
      cases isNumber
    refine ⟨iff_of_true (fun again faultless => ?_) plain, fun respelt => absurd respelt plain⟩
    exact read_back solid accepted other faultless

/-- A quoted word is read back.  A negative zero comes back without its sign. -/
theorem display_reads_back_iff_quoted :
    let tea : Operand := constant (.ofText "tea")
    let zero : Operand := constant (.ofText "-0")
    ((Operand.read "\"tea" false).outcome [] = (some tea, []) ∧
        (Operand.read tea.display false).outcome [] = (some tea, [])) ∧
      (Operand.read "\"-0" false).outcome [] = (some zero, []) ∧
      ∃ w, (Operand.read zero.display false).outcome [] = (some (constant w), []) ∧ w.number = 0 ∧ w.text ≠ "-0" := by
  intro tea zero
  have first : (Operand.read "\"tea" false).outcome [] = (some tea, []) := by decide +kernel
  have second : (Operand.read "\"-0" false).outcome [] = (some zero, []) := by decide +kernel
  have solid : "\"tea".toList.all (fun c => !Blank.isBlank c) = true := by decide +kernel
  have solid' : "\"-0".toList.all (fun c => !Blank.isBlank c) = true := by decide +kernel
  have plain : ¬ QuotesRespelt "\"tea" := by
    rintro ⟨text, chars, isNumber, _⟩
    obtain rfl : ['t', 'e', 'a'] = text := by simpa using chars
    cases isNumber
  obtain ⟨_, back, _⟩ := display_reads_back_iff (by simpa using solid) first
  obtain ⟨_, _, respelt⟩ := display_reads_back_iff (by simpa using solid') second
  obtain ⟨v, w, same, number, text, outcome⟩ := respelt ⟨['-', '0'], by simp, rfl, [], .inr (.inl rfl)⟩
  obtain rfl : Value.ofText "-0" = v := constant.inj same
  refine ⟨⟨first, back.2 plain [] id⟩, second, w, outcome [], ?_, Ne.symm text⟩
  rw [← number]
  decide +kernel

/-- **A constant that is not read back**: `007` after a double quote is displayed as a number, and read as 7. -/
theorem display_respells :
    (Operand.read "\"007" false).outcome [] = (some (.constant (.ofText "007")), []) ∧
      display (.constant (.ofText "007")) = "007" ∧
      (Operand.read "007" false).outcome [] = (some (.constant (.ofNumber 7)), []) ∧
      constant (.ofText "007") ≠ constant (.ofNumber 7) := by
  decide +kernel

end Operand

end LineScript
