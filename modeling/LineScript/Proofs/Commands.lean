import LineScript.Proofs.Binding
import LineScript.Proofs.Editing

/-!
**A declared command is recognised however it is called.**

A command is declared with one word, which is kept in lower case.  A message is taken for a command by its
first word: the sign for commands, and a word that is one of the commands in lower case.  Both ways the word
is found by the same cut at the first blank and brought to lower case on its own, so that neither the sign
before it nor the text after it has an influence on its letters.  What follows the word loses the blanks in
front, and it would lose them anyway when it is bound to parameters.

Main definitions:

* `LineScript.Triggers.Calls` — what a message that calls a command is made of;
* `LineScript.Line.DeclaresCommand` — a line declares a word as a command.

Main results:

* `LineScript.Triggers.commandTail?_eq` — the tail of a message, from its parts;
* `LineScript.Triggers.commandTail?_eq_some_iff` — **a message is recognised just if it calls a command**;
* `LineScript.mem_commands_iff` — the commands of a script are those that its lines declare;
* `LineScript.commands_recognised` — all of it together, for every script that compiles.
-/

set_option autoImplicit false

namespace LineScript

/-! ### Messages -/

/-- Where a text stops or goes on with a blank, dropping the first character drops a blank. -/
theorem Blank.trimStart_tail {rest : List Char} (stops : ∀ c ∈ rest.head?, Blank.isBlank c = true) :
    Blank.trimStart rest.tail = Blank.trimStart rest := by
  cases rest with
  | nil => rfl
  | cons c rest => simp [Blank.trimStart, stops c rfl]

/-- Every text starts with a word, which may be empty, up to its end or a blank. -/
theorem Blank.exists_word (cs : List Char) :
    ∃ word rest, cs = word ++ rest ∧ (∀ c ∈ word, Blank.isBlank c = false) ∧
      ∀ c ∈ rest.head?, Blank.isBlank c = true := by
  refine ⟨cs.takeWhile fun c => !Blank.isBlank c, cs.dropWhile fun c => !Blank.isBlank c,
    List.takeWhile_append_dropWhile.symm, ?_, ?_⟩
  · intro c mem
    simpa using List.mem_takeWhile_imp mem
  · intro c first
    have stopped := List.head?_dropWhile_not (fun c => !Blank.isBlank c) cs
    rw [Option.mem_def.1 first] at stopped
    simpa using stopped

namespace Triggers

/-- **A message calls a command.**  After the blanks in front it is the sign, a word without a blank that is
a command in lower case, and a rest that is empty or starts with a blank; the tail is the rest without the
blanks in front. -/
structure Calls (t : Triggers) (sign : Char) (message word rest tail : String) : Prop where
  parts : Text.trimStart message = String.singleton sign ++ word ++ rest
  solid : ∀ c ∈ word.toList, Blank.isBlank c = false
  stops : ∀ c ∈ rest.toList.head?, Blank.isBlank c = true
  command : Case.lowercase word ∈ t.commands
  tail : tail = Text.trimStart rest

/-- **The tail of a message**, from its parts. -/
theorem commandTail?_eq (t : Triggers) {sign : Char} {message word rest : String}
    (parts : Text.trimStart message = String.singleton sign ++ word ++ rest)
    (solid : ∀ c ∈ word.toList, Blank.isBlank c = false)
    (stops : ∀ c ∈ rest.toList.head?, Blank.isBlank c = true) :
    t.commandTail? sign message =
      if Case.lowercase word ∈ t.commands then some (Text.trimStart rest) else none := by
  have chars : (Text.trimStart message).toList = sign :: (word.toList ++ rest.toList) := by simp [parts]
  have cut := Text.cutOrAll_ofList (word.toList ++ rest.toList)
  rw [Blank.cut_append solid stops, String.ofList_toList] at cut
  have tail : Text.trimStart (.ofList rest.toList.tail) = Text.trimStart rest := by
    rw [Text.trimStart, String.toList_ofList, Blank.trimStart_tail stops, Text.trimStart]
  simp only [commandTail?, chars, cut, if_true, tail]

/-- **A message is recognised just if it calls a command.** -/
theorem commandTail?_eq_some_iff (t : Triggers) (sign : Char) (message tail : String) :
    t.commandTail? sign message = some tail ↔ ∃ word rest, t.Calls sign message word rest tail := by
  constructor
  · intro recognised
    cases chars : (Text.trimStart message).toList with
    | nil => simp [commandTail?, chars] at recognised
    | cons c cs =>
        obtain rfl : c = sign := by
          by_contra other
          simp [commandTail?, chars, other] at recognised
        obtain ⟨word, rest, rfl, solid, stops⟩ := Blank.exists_word cs
        have parts : Text.trimStart message = String.singleton c ++ .ofList word ++ .ofList rest := by
          rw [← String.toList_inj, chars]
          simp
        have solid' : ∀ c ∈ (String.ofList word).toList, Blank.isBlank c = false := by simpa using solid
        have stops' : ∀ c ∈ (String.ofList rest).toList.head?, Blank.isBlank c = true := by simpa using stops
        rw [commandTail?_eq t parts solid' stops'] at recognised
        split at recognised
        · rename_i command
          exact ⟨.ofList word, .ofList rest, parts, solid', stops', command, (Option.some.inj recognised).symm⟩
        · cases recognised
  · rintro ⟨word, rest, calls⟩
    rw [commandTail?_eq t calls.parts calls.solid calls.stops, if_pos calls.command, calls.tail]

end Triggers

/-! ### Declarations -/

/-- **A line with the keyword `command` that compiles declares its first word**, in lower case.  The word is
made of letters and digits. -/
theorem Instruction.read?_command {keyword tail : String} {i : Instruction}
    (command : Case.asciiLowercase keyword = "command") (compiles : read? keyword tail = some i) :
    ∃ word, (Text.words tail).head? = some word ∧ Name.isCommand word = true ∧
      i = .declare (.command (Case.lowercase word)) := by
  obtain ⟨read, known, yields⟩ := read?_eq_some compiles
  have reader : reader? keyword = some fun tail => declare <$> Grammar.command tail := by
    rw [reader?, command]
    rfl
  obtain rfl : read = fun tail => declare <$> Grammar.command tail :=
    Option.some.inj (known.symm.trans reader)
  have instruction : (declare <$> Grammar.command tail).Settles fun i =>
      ∃ word, (Text.words tail).head? = some word ∧ Name.isCommand word = true ∧
        i = .declare (.command (Case.lowercase word)) :=
    (Grammar.settles_command tail).map fun _ ⟨word, first, valid, eq⟩ =>
      ⟨word, first, valid, congrArg declare eq⟩
  exact instruction.only yields

/-- **What a declaration does to the commands**: a new command goes to the end, and all else leaves them as
they are. -/
theorem Declaration.apply_commands (d : Declaration) (s : Script) :
    (∃ new, d = .command new ∧ new ∉ s.triggers.commands ∧
        (d.apply s).1.triggers.commands = s.triggers.commands ++ [new]) ∨
      ((∀ new, d = .command new → new ∈ s.triggers.commands) ∧
        (d.apply s).1.triggers.commands = s.triggers.commands) := by
  have refined : ∀ (keyword : String) (f : Parameter → Parameter),
      (Declaration.refine s keyword f).1.triggers = s.triggers := by
    intro keyword f
    unfold Declaration.refine
    split <;> rfl
  cases d with
  | command new =>
      by_cases known : new ∈ s.triggers.commands
      · exact .inr ⟨by rintro _ ⟨⟩; exact known, by simp [apply, known]⟩
      · exact .inl ⟨new, rfl, known, by simp [apply, known]⟩
  | description text =>
      refine .inr ⟨by simp, ?_⟩
      simp only [apply]
      split <;> rfl
  | parameter new required seeds =>
      refine .inr ⟨by simp, ?_⟩
      simp only [apply]
      split <;> rfl
  | type t => exact .inr ⟨by simp, by simp [apply, refined]⟩
  | standIn text => exact .inr ⟨by simp, by simp [apply, refined]⟩
  | name new => exact .inr ⟨by simp, rfl⟩
  | pattern p => exact .inr ⟨by simp, rfl⟩
  | interval seconds => exact .inr ⟨by simp, rfl⟩
  | special t => exact .inr ⟨by simp, rfl⟩

/-- A declaration adds the command that it declares, and takes none away. -/
theorem Declaration.mem_apply_commands (d : Declaration) (s : Script) (word : String) :
    word ∈ (d.apply s).1.triggers.commands ↔ word ∈ s.triggers.commands ∨ d = .command word := by
  rcases d.apply_commands s with ⟨new, rfl, _, added⟩ | ⟨known, kept⟩
  · simp [added, eq_comm]
  · rw [kept]
    exact ⟨.inl, fun mem => mem.elim id (known word)⟩

theorem Script.mem_declared_commands (ds : List Declaration) (s : Script) (word : String) :
    word ∈ (s.declared ds).triggers.commands ↔ word ∈ s.triggers.commands ∨ .command word ∈ ds := by
  induction ds generalizing s with
  | nil => simp [Script.declared]
  | cons d ds ih =>
      have step : s.declared (d :: ds) = (d.apply s).1.declared ds := rfl
      rw [step, ih, Declaration.mem_apply_commands, List.mem_cons, or_assoc, @eq_comm _ d]

/-! ### Compiled scripts -/

variable {text name : String} {script : Script}

/-- **The commands of a script are those that its lines declare.** -/
theorem mem_commands_iff (compiled : (compile text name).result = .ok script) (word : String) :
    word ∈ script.triggers.commands ↔ .declaration (.command word) ∈ Text.items text := by
  rw [(readsOff_of_compile compiled).triggers, Item.declared, Script.mem_declared_commands]
  have hnone : word ∉ ({} : Script).triggers.commands := by simp
  rw [or_iff_right hnone, Item.declarations, List.mem_filterMap]
  constructor
  · rintro ⟨item, mem, is⟩
    rwa [Item.declaration?_eq_some is] at mem
  · intro mem
    exact ⟨_, mem, rfl⟩

/-- **A line declares a word as a command**: its keyword is `command`, in any case, and the word comes first
after it. -/
def Line.DeclaresCommand (line word : String) : Prop :=
  ∃ keyword tail, Line.ofText line = .instruction keyword tail ∧ Case.asciiLowercase keyword = "command" ∧
    (Text.words tail).head? = some word

/-- What a line of a script declares as a command is a word of letters and digits, and the line brings in that
word in lower case. -/
theorem Line.DeclaresCommand.item {line word : String} (declares : Line.DeclaresCommand line word)
    (compiled : (compile text name).result = .ok script) (mem : line ∈ Text.lines text) :
    Name.isCommand word = true ∧ Item.ofText line = .declaration (.command (Case.lowercase word)) := by
  obtain ⟨keyword, tail, parts, command, first⟩ := declares
  have accepted := Draft.faults_eq_nil_iff_accepted.1 (compile_eq_ok.1 compiled).1
  have item : Item.ofText line ∈ Text.items text := List.mem_map_of_mem mem
  have read : Item.ofText line = Item.ofInstruction (Instruction.read? keyword tail) := by
    simp only [Item.ofText, parts]
  cases instruction : Instruction.read? keyword tail with
  | none =>
      rw [read, instruction] at item
      exact absurd item accepted.read
  | some i =>
      obtain ⟨declared, found, valid, rfl⟩ := Instruction.read?_command command instruction
      obtain rfl : word = declared := Option.some.inj (first.symm.trans found)
      rw [read, instruction]
      exact ⟨valid, rfl⟩

/-- What a line of a script declares as a command is one, in lower case. -/
theorem Line.DeclaresCommand.mem_commands {line word : String} (declares : Line.DeclaresCommand line word)
    (compiled : (compile text name).result = .ok script) (mem : line ∈ Text.lines text) :
    Case.lowercase word ∈ script.triggers.commands := by
  rw [mem_commands_iff compiled, ← (declares.item compiled mem).2]
  exact List.mem_map_of_mem mem

/-- The blanks in front of a text are not bound to anything. -/
theorem Parameter.bind_trimStart (ps : List Parameter) (arguments : String) (values : ValueMap) :
    bind ps (Text.trimStart arguments) values = bind ps arguments values := by
  unfold bind
  rw [Text.trimmed_trimStart]

theorem Invocation.start_trimStart (script : Script) (inputs : Inputs) (arguments : String) (h : Host) :
    start script inputs (Text.trimStart arguments) h = start script inputs arguments h := by
  unfold start
  simp only [Parameter.bind_trimStart]

/-- **A declared command is recognised however it is called.**  A message is recognised, for a sign that is
not blank, just if it calls a command of the script, and the tail is what follows.  Whatever word a line of
the text declares, the sign, the word, a blank and any arguments make a message that is recognised; and to
bind its tail, or to start the script with it, is to do so with the arguments. -/
theorem commands_recognised (compiled : (compile text name).result = .ok script) {sign : Char}
    (seen : Blank.isBlank sign = false) :
    (∀ message tail, script.triggers.commandTail? sign message = some tail ↔
        ∃ word rest, script.triggers.Calls sign message word rest tail) ∧
      ∀ line ∈ Text.lines text, ∀ word, Line.DeclaresCommand line word → ∀ arguments,
        ∃ tail, script.triggers.commandTail? sign (String.singleton sign ++ word ++ " " ++ arguments) = some tail ∧
          (∀ values, Parameter.bind script.parameters tail values =
            Parameter.bind script.parameters arguments values) ∧
          ∀ inputs h, Invocation.start script inputs tail h = Invocation.start script inputs arguments h := by
  refine ⟨script.triggers.commandTail?_eq_some_iff sign, ?_⟩
  intro line mem word declares arguments
  have command := declares.mem_commands compiled mem
  have solid : ∀ c ∈ word.toList, Blank.isBlank c = false := by
    obtain ⟨_, tail, _, _, first⟩ := declares
    obtain ⟨chars, among, rfl⟩ := List.mem_map.1 (List.mem_of_head? first)
    simpa using (Blank.mem_words among).2
  have parts : Text.trimStart (String.singleton sign ++ word ++ " " ++ arguments) =
      String.singleton sign ++ word ++ (" " ++ arguments) := by
    simp [Text.trimStart, Blank.trimStart, seen, ← String.toList_inj]
  have stops : ∀ c ∈ (" " ++ arguments).toList.head?, Blank.isBlank c = true := by simp [Blank.isBlank]
  have tail : Text.trimStart (" " ++ arguments) = Text.trimStart arguments := by
    simp [Text.trimStart, Blank.trimStart, Blank.isBlank]
  refine ⟨Text.trimStart arguments, ?_, fun values => Parameter.bind_trimStart _ arguments values,
    fun inputs h => Invocation.start_trimStart script inputs arguments h⟩
  rw [Triggers.commandTail?_eq script.triggers parts solid stops, if_pos command, tail]

/-- A line of the keyword, a blank and a word declares the word. -/
theorem Line.declaresCommand_word {word : String} (hne : word ≠ "")
    (solid : ∀ c ∈ word.toList, Blank.isBlank c = false) :
    Line.DeclaresCommand ("command " ++ word) word := by
  have all : "command".toList.all (fun c => !Blank.isBlank c) = true := by decide
  have keyword : IsKeyword "command".toList :=
    ⟨'c', "ommand".toList, rfl, by decide, by decide, by simpa using all⟩
  have parts : "command " ++ word = "command" ++ " " ++ word := by simp
  have whole : Blank.pieces word.toList = [word.toList] :=
    Blank.pieces_of_cut_none (Blank.cut_eq_none.2 solid)
  rw [parts]
  refine ⟨"command", word, Line.ofText_keyword keyword word, by decide, ?_⟩
  simp [Text.words, Blank.words, whole, hne]

/-- A script with a command that ends in a letter with two lower-case forms. -/
def road : String := "command ΟΔΟΣ\noptional way\ntype tail"

/-- The command is recognised after the same letter as a sign, and the blanks in front of the arguments do
not matter. -/
theorem commands_recognised_road :
    ∃ script, (compile road "r").result = .ok script ∧
      ∃ tail, script.triggers.commandTail? 'Σ' "ΣΟΔΟΣ \t home " = some tail ∧
        ∀ values, Parameter.bind script.parameters tail values =
          Parameter.bind script.parameters "\t home " values := by
  obtain ⟨script, compiled⟩ := (@compile_eq_ok_iff road "r").2 (by decide +kernel)
  have solid : "ΟΔΟΣ".toList.all (fun c => !Blank.isBlank c) = true := by decide
  have declares : Line.DeclaresCommand ("command " ++ "ΟΔΟΣ") "ΟΔΟΣ" :=
    Line.declaresCommand_word (by simp) (by simpa using solid)
  have mem : "command " ++ "ΟΔΟΣ" ∈ Text.lines road := by decide +kernel
  have seen : Blank.isBlank 'Σ' = false := by decide
  obtain ⟨_, called⟩ := commands_recognised compiled seen
  obtain ⟨tail, recognised, bound, _⟩ := called _ mem _ declares "\t home "
  exact ⟨script, compiled, tail, recognised, bound⟩

end LineScript
