import LineScript.Proofs.Commands
import LineScript.Proofs.StableSort

/-!
**Command words in lower case.**

A command is declared with a word of letters and digits and kept in lower case, and it is kept only once.
Lower-casing makes letters and digits of letters and digits, with one exception: `İ` goes to an `i` and a dot
that is set above it, and the dot by itself is neither a letter nor a digit.  So the commands of a script are
words of letters and digits just if no line declares a word with an `İ`.

That there is only one exception is a fact about two tables of characters.  The table of lower-case forms moves
intervals of code points, so that it is enough to look at the two ends of every interval after the move.

Main definitions:

* `LineScript.CodeRuns.coversFrom` — an interval of code points lies in a set;
* `LineScript.Case.Shift.lands` — the lower-case forms of an interval are letters or digits.

Main results:

* `LineScript.Case.isAlphanumeric_of_mem_lower` — letters and digits but `İ` stay letters and digits;
* `LineScript.Name.isCommand_lowercase_iff` — **a command word in lower case is one just if it had no `İ`**;
* `LineScript.Line.exists_declaresCommand` — every command was declared with a word of letters and digits;
* `LineScript.nodup_commands` — no command is kept twice;
* `LineScript.commands_wellFormed_iff` — all of it together, for every script that compiles.
-/

set_option autoImplicit false

namespace LineScript

/-! ### Intervals of code points -/

namespace CodeRuns

/-- The code points from `lo` to `hi`, counted from the start of the runs, lie in one run of the set. -/
def coversFrom : CodeRuns → Nat → Nat → Bool
  | outside :: inside :: rest, lo, hi =>
    if hi < outside + inside then outside ≤ lo
    else outside + inside ≤ lo && coversFrom rest (lo - (outside + inside)) (hi - (outside + inside))
  | _, _, _ => false

theorem containsFrom_of_coversFrom {runs : CodeRuns} {lo hi n : Nat} (covers : runs.coversFrom lo hi = true)
    (least : lo ≤ n) (most : n ≤ hi) : runs.containsFrom n = true := by
  fun_induction coversFrom runs lo hi generalizing n with
  | case1 outside inside rest lo hi within =>
      have above : outside ≤ lo := by simpa using covers
      rw [containsFrom, if_neg (by omega), if_pos (by omega)]
  | case2 outside inside rest lo hi beyond ih =>
      simp only [Bool.and_eq_true, decide_eq_true_eq] at covers
      rw [containsFrom, if_neg (by omega), if_neg (by omega)]
      exact ih covers.2 (by omega) (by omega)
  | case3 => cases covers

end CodeRuns

/-! ### Lower case of letters and digits -/

namespace Case

/-- All that the shift moves goes to letters and digits, and to none of the surrogates, which are no
characters. -/
def Shift.lands (s : Shift) : Bool :=
  let lo := (s.first + s.shift).toNat
  let hi := (s.last + s.shift).toNat
  Letter.alphanumeric.coversFrom lo hi && (hi < 0xD800 || (0xDFFF < lo && hi < 0x110000))

theorem shifts_land : shifts.all Shift.lands = true := by decide +kernel

theorem toNat_ofNat {n : Nat} (valid : n.isValidChar) : (Char.ofNat n).toNat = n := by
  rw [Char.ofNat, dif_pos valid]
  rfl

theorem Shift.isAlphanumeric_of_lands {s : Shift} (lands : s.lands = true) {c : Char}
    (covers : s.covers c.toNat = true) :
    Letter.isAlphanumeric (Char.ofNat (c.toNat + s.shift).toNat) = true := by
  simp only [Shift.lands, Bool.and_eq_true, Bool.or_eq_true, decide_eq_true_eq] at lands
  simp only [Shift.covers, Bool.and_eq_true, decide_eq_true_eq, beq_iff_eq] at covers
  obtain ⟨inside, valid⟩ := lands
  obtain ⟨⟨least, most⟩, _⟩ := covers
  have lo : (s.first + s.shift).toNat ≤ (c.toNat + s.shift).toNat := by omega
  have hi : (c.toNat + s.shift).toNat ≤ (s.last + s.shift).toNat := by omega
  have code : (Char.ofNat (c.toNat + s.shift).toNat).toNat = (c.toNat + s.shift).toNat := by
    refine toNat_ofNat ?_
    rcases valid with low | ⟨high, below⟩
    · exact .inl (by omega)
    · exact .inr ⟨by omega, by omega⟩
  rw [Letter.isAlphanumeric, CodeRuns.contains, code]
  exact CodeRuns.containsFrom_of_coversFrom inside lo hi

/-- **Letters and digits but `İ` stay letters and digits.** -/
theorem isAlphanumeric_of_mem_lower {c d : Char} (letter : Letter.isAlphanumeric c = true)
    (other : c ≠ 'İ') (mem : d ∈ lower c) : Letter.isAlphanumeric d = true := by
  rw [lower, if_neg other] at mem
  cases found : shifts.find? (·.covers c.toNat) with
  | none =>
      simp only [found, List.mem_singleton] at mem
      rwa [mem]
  | some s =>
      simp only [found, List.mem_singleton] at mem
      have lands : s.lands = true := List.all_eq_true.1 shifts_land s (List.mem_of_find?_eq_some found)
      rw [mem]
      have covers : s.covers c.toNat = true := by simpa using List.find?_some found
      exact Shift.isAlphanumeric_of_lands lands covers

/-- The dot that `İ` leaves above its `i`. -/
theorem isAlphanumeric_dot : Letter.isAlphanumeric '\u0307' = false := by decide +kernel

/-- **A text of letters and digits stays one just if it has no `İ`**, whatever stands in front of it. -/
theorem all_lowercaseFrom_iff (before : List Char) {cs : List Char}
    (letters : ∀ c ∈ cs, Letter.isAlphanumeric c = true) :
    (∀ d ∈ lowercaseFrom before cs, Letter.isAlphanumeric d = true) ↔ 'İ' ∉ cs := by
  induction cs generalizing before with
  | nil => simp [lowercaseFrom]
  | cons c cs ih =>
      have rest := ih (c :: before) fun d mem => letters d (List.mem_cons_of_mem c mem)
      rw [lowercaseFrom, List.forall_mem_append, rest, List.mem_cons, not_or]
      refine and_congr_left fun _ => ?_
      by_cases sigma : c = 'Σ'
      · -- both forms of the small sigma are letters
        have forms : Letter.isAlphanumeric 'ς' = true ∧ Letter.isAlphanumeric 'σ' = true := by decide +kernel
        rw [if_pos sigma, List.forall_mem_singleton, sigma]
        exact iff_of_true (by split; exacts [forms.1, forms.2]) (by decide)
      · rw [if_neg sigma]
        by_cases dotted : 'İ' = c
        · refine iff_of_false (fun all => ?_) (not_not_intro dotted)
          have dot := all '\u0307' (by rw [← dotted]; decide)
          rw [isAlphanumeric_dot] at dot
          cases dot
        · refine iff_of_true (fun d mem => ?_) dotted
          exact isAlphanumeric_of_mem_lower (letters c List.mem_cons_self) (Ne.symm dotted) mem

end Case

theorem Name.isCommand_iff {word : String} :
    Name.isCommand word = true ↔ word ≠ "" ∧ ∀ c ∈ word.toList, Letter.isAlphanumeric c = true := by
  simp [isCommand]

/-- **A command word in lower case is a command word just if it had no `İ`.** -/
theorem Name.isCommand_lowercase_iff {word : String} (valid : Name.isCommand word = true) :
    Name.isCommand (Case.lowercase word) = true ↔ 'İ' ∉ word.toList := by
  obtain ⟨hne, letters⟩ := Name.isCommand_iff.1 valid
  rw [Name.isCommand_iff, and_iff_right (Case.lowercase_ne_empty hne), Case.lowercase, String.toList_ofList]
  exact Case.all_lowercaseFrom_iff [] letters

/-! ### Where commands come from -/

/-- A line that brings in a declaration is a keyword and a tail that is read as it. -/
theorem Item.ofText_eq_declaration {line : String} {d : Declaration} (h : ofText line = declaration d) :
    ∃ keyword tail, Line.ofText line = .instruction keyword tail ∧
      Instruction.read? keyword tail = some (.declare d) := by
  unfold ofText at h
  cases parts : Line.ofText line with
  | nothing => simp [parts] at h
  | label l =>
      simp only [parts] at h
      split at h <;> cases h
  | instruction keyword tail =>
      refine ⟨keyword, tail, rfl, ?_⟩
      simp only [parts] at h
      cases read : Instruction.read? keyword tail with
      | none => simp [read, ofInstruction] at h
      | some i =>
          cases i with
          | execute s => simp [read, ofInstruction] at h
          | declare other =>
              rw [read] at h
              cases h
              rfl

/-- **A command was declared with a word of letters and digits**, by a line with the keyword `command`. -/
theorem Line.exists_declaresCommand {line command : String}
    (h : Item.ofText line = .declaration (.command command)) :
    ∃ word, Line.DeclaresCommand line word ∧ Name.isCommand word = true ∧
      command = Case.lowercase word := by
  obtain ⟨keyword, tail, parts, compiles⟩ := Item.ofText_eq_declaration h
  obtain ⟨read, known, yields⟩ := Instruction.read?_eq_some compiles
  -- no other keyword declares a command
  have is : Case.asciiLowercase keyword = "command" :=
    ((Instruction.settles_reader known tail).only yields).same.symm
  obtain ⟨word, first, valid, eq⟩ := Instruction.read?_command is compiles
  cases eq
  exact ⟨word, ⟨keyword, tail, parts, is, first⟩, valid, rfl⟩

theorem Script.nodup_declared_commands (ds : List Declaration) {s : Script}
    (distinct : s.triggers.commands.Nodup) : (s.declared ds).triggers.commands.Nodup := by
  induction ds generalizing s with
  | nil => exact distinct
  | cons d ds ih =>
      refine ih (s := (d.apply s).1) ?_
      rcases d.apply_commands s with ⟨new, rfl, fresh, added⟩ | ⟨_, kept⟩
      · rw [added, List.nodup_append]
        refine ⟨distinct, by simp, fun old mem other is => ?_⟩
        rw [List.mem_singleton.1 is]
        rintro rfl
        exact fresh mem
      · rwa [kept]

/-! ### Compiled scripts -/

section Compiled

variable {text name : String} {script : Script}

/-- No command is kept twice. -/
theorem nodup_commands (compiled : (compile text name).result = .ok script) :
    script.triggers.commands.Nodup := by
  rw [(readsOff_of_compile compiled).triggers]
  exact Script.nodup_declared_commands _ List.nodup_nil

/-- A command was declared by a line of the text. -/
theorem exists_line_of_command (compiled : (compile text name).result = .ok script) {command : String}
    (mem : command ∈ script.triggers.commands) :
    ∃ line ∈ Text.lines text, ∃ word, Line.DeclaresCommand line word ∧ Name.isCommand word = true ∧
      command = Case.lowercase word := by
  obtain ⟨line, among, is⟩ := List.mem_map.1 ((mem_commands_iff compiled command).1 mem)
  exact ⟨line, among, Line.exists_declaresCommand is⟩

/-- **The commands of a script are distinct, and words of letters and digits just if no line declares a word
with an `İ`.**  Each was declared with a word of letters and digits, has at least one character, and is itself
such a word just if the declared one has no `İ`. -/
theorem commands_wellFormed_iff (compiled : (compile text name).result = .ok script) :
    script.triggers.commands.Nodup ∧
      (∀ command ∈ script.triggers.commands, command ≠ "" ∧
        ∃ line ∈ Text.lines text, ∃ word, Line.DeclaresCommand line word ∧ Name.isCommand word = true ∧
          command = Case.lowercase word ∧ (Name.isCommand command = true ↔ 'İ' ∉ word.toList)) ∧
      ((∀ command ∈ script.triggers.commands, Name.isCommand command = true) ↔
        ∀ line ∈ Text.lines text, ∀ word, Line.DeclaresCommand line word → 'İ' ∉ word.toList) := by
  refine ⟨nodup_commands compiled, fun command mem => ?_, ?_, ?_⟩
  · obtain ⟨line, among, word, declares, valid, rfl⟩ := exists_line_of_command compiled mem
    exact ⟨Case.lowercase_ne_empty (Name.isCommand_iff.1 valid).1, line, among, word, declares, valid, rfl,
      Name.isCommand_lowercase_iff valid⟩
  · intro all line among word declares
    have valid := (declares.item compiled among).1
    exact (Name.isCommand_lowercase_iff valid).1 (all _ (declares.mem_commands compiled among))
  · intro plain command mem
    obtain ⟨line, among, word, declares, valid, rfl⟩ := exists_line_of_command compiled mem
    exact (Name.isCommand_lowercase_iff valid).2 (plain line among word declares)

end Compiled

/-- A script with a command that is declared twice, in capitals and small, and one with an `İ`. -/
def harbour : String := "command TEA\ncommand İzmir\ncommand tea"

/-- The first is kept once, and the second is no word of letters and digits any more. -/
theorem commands_wellFormed_iff_harbour :
    ∃ script, (compile harbour "h").result = .ok script ∧ script.triggers.commands.Nodup ∧
      ¬ ∀ command ∈ script.triggers.commands, Name.isCommand command = true := by
  obtain ⟨script, compiled⟩ := (@compile_eq_ok_iff harbour "h").2 (by decide +kernel)
  have solid : "İzmir".toList.all (fun c => !Blank.isBlank c) = true := by decide
  have declares : Line.DeclaresCommand ("command " ++ "İzmir") "İzmir" :=
    Line.declaresCommand_word (by simp) (by simpa using solid)
  have among : "command " ++ "İzmir" ∈ Text.lines harbour := by decide +kernel
  obtain ⟨distinct, _, wellFormed⟩ := commands_wellFormed_iff compiled
  refine ⟨script, compiled, distinct, fun all => ?_⟩
  exact wellFormed.1 all _ among _ declares (by simp)

/-- **A script with a command that is no word of letters and digits**: the dot of `İ` is left over. -/
theorem commands_not_wellFormed :
    ∃ script, (compile "command İ" "d").result = .ok script ∧ script.triggers.commands = ["i\u0307"] ∧
      Name.isCommand "i\u0307" = false := by
  obtain ⟨script, compiled⟩ := (@compile_eq_ok_iff "command İ" "d").2 (by decide +kernel)
  refine ⟨script, compiled, ?_, by decide +kernel⟩
  rw [← (compile_eq_ok.1 compiled).2]
  decide +kernel

end LineScript
