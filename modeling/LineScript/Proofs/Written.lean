import LineScript.Proofs.Editing
import LineScript.Proofs.Output

/-!
**What is written comes out.**

A script whose lines write some texts is cut into lines, each line is cut at its first blank, the tail is
kept with all its blanks, an `end` is put behind if there is none, the texts meet in the buffer, and the
buffer is broadcast at the end.  None of this loses or adds a character, whatever sign a text starts with.

Main definitions:

* `LineScript.Text.ofLines` — the text of some lines, with either line end;
* `LineScript.Line.Reads` — a line is read as a statement and nothing is found about it;
* `LineScript.Writable`, `LineScript.writingLines` — texts that can be written, and the lines that do it.

Main results:

* `LineScript.Text.lines_ofLines` — the lines of a text are those that it is made of;
* `LineScript.compile_of_reads` — a text of statements compiles to them;
* `LineScript.Invocation.run_writes` — a run that only writes broadcasts all at once;
* `LineScript.write_round_trip` — **the texts come out as one, to the character**.
-/

set_option autoImplicit false

namespace LineScript

/-! ### Lines put together -/

namespace Blank

variable {line : List Char}

theorem feeds_of_oneLine (oneLine : '\n' ∉ line) : feeds line = ([], line) := by
  induction line with
  | nil => rfl
  | cons c cs ih =>
      obtain ⟨here, later⟩ : '\n' ≠ c ∧ '\n' ∉ cs := by simpa using oneLine
      simp [feeds, ih later, here.symm]

theorem feeds_append (oneLine : '\n' ∉ line) (rest : List Char) :
    feeds (line ++ '\n' :: rest) = (line :: (feeds rest).1, (feeds rest).2) := by
  induction line with
  | nil => simp [feeds]
  | cons c cs ih =>
      obtain ⟨here, later⟩ : '\n' ≠ c ∧ '\n' ∉ cs := by simpa using oneLine
      simp [feeds, ih later, here.symm]

theorem lines_of_oneLine (oneLine : '\n' ∉ line) (hne : line ≠ []) : lines line = [line] := by
  simp [lines, feeds_of_oneLine oneLine, hne]

/-- A line that ends in a line feed comes before the lines of what follows. -/
theorem lines_append (oneLine : '\n' ∉ line) (rest : List Char) :
    lines (line ++ '\n' :: rest) = dropReturn line :: lines rest := by
  simp [lines, feeds_append oneLine]

theorem dropReturn_append (line : List Char) : dropReturn (line ++ ['\r']) = line := by
  simp [dropReturn]

theorem dropReturn_of_not_mem (bare : '\r' ∉ line) : dropReturn line = line := by
  rw [dropReturn, if_neg]
  exact fun last => bare (List.mem_of_getLast? last)

end Blank

namespace Text

/-- How a line ends. -/
inductive LineEnd where
  | feed
  /-- a carriage return before the line feed -/
  | returnFeed
deriving DecidableEq

/-- The characters at the end of a line. -/
def LineEnd.text : LineEnd → String
  | feed => "\n"
  | returnFeed => "\r\n"

/-- **The text of some lines.**  The last line has an end of its own only if it is closed. -/
def ofLines (mark : LineEnd) (closed : Bool) : List String → String
  | [] => ""
  | [line] => if closed then line ++ mark.text else line
  | line :: next :: rest => line ++ (mark.text ++ ofLines mark closed (next :: rest))

variable {line : String}

theorem lines_append (mark : LineEnd) (oneLine : '\n' ∉ line.toList) (bare : '\r' ∉ line.toList)
    (rest : String) : lines (line ++ (mark.text ++ rest)) = line :: lines rest := by
  cases mark with
  | feed =>
      simp [lines, LineEnd.text, Blank.lines_append oneLine, Blank.dropReturn_of_not_mem bare]
  | returnFeed =>
      have oneLine' : '\n' ∉ line.toList ++ ['\r'] := by simpa using oneLine
      have chars : (line ++ ("\r\n" ++ rest)).toList = (line.toList ++ ['\r']) ++ '\n' :: rest.toList := by
        simp
      rw [lines, LineEnd.text, chars, Blank.lines_append oneLine', Blank.dropReturn_append]
      simp [lines]

/-- **The lines of a text are those that it is made of**, if none of them is empty or has a line end in it. -/
theorem lines_ofLines (mark : LineEnd) (closed : Bool) {texts : List String}
    (plain : ∀ line ∈ texts, line ≠ "" ∧ '\n' ∉ line.toList ∧ '\r' ∉ line.toList) :
    lines (ofLines mark closed texts) = texts := by
  fun_induction ofLines mark closed texts with
  | case1 => rfl
  | case2 line closed =>
      obtain ⟨_, oneLine, bare⟩ := plain line (by simp)
      have ended := lines_append mark oneLine bare ""
      rwa [String.append_empty] at ended
  | case3 line closed =>
      obtain ⟨hne, oneLine, bare⟩ := plain line (by simp)
      simp [lines, Blank.lines_of_oneLine oneLine (by simpa using hne)]
  | case4 line next rest ih =>
      obtain ⟨_, oneLine, bare⟩ := plain line (by simp)
      rw [lines_append mark oneLine bare, ih fun line mem => plain line (by simp [mem])]

end Text

/-! ### A script that writes -/

/-- **The line is read as a statement**, and nothing is found about it. -/
def Line.Reads (text : String) (st : Statement) : Prop :=
  ∀ (d : Draft) (n : Nat), d.addLine n text = d.addInstruction n (.execute st)

theorem Line.ofText_write (text : String) : Line.ofText ("write " ++ text) = .instruction "write" text := by
  have solid : "write".toList.all (fun c => !Blank.isBlank c) = true := by decide
  have keyword : IsKeyword "write".toList :=
    ⟨'w', "rite".toList, rfl, by decide, by decide, by simpa using solid⟩
  have parts : "write " ++ text = "write" ++ " " ++ text := by simp
  rw [parts, Line.ofText_keyword keyword]

theorem Line.reads_write {text : String} (spoken : Text.isBlank text = false) :
    Line.Reads ("write " ++ text) (.write text) := by
  intro d n
  have reader : Instruction.reader? "write" = some fun tail => .execute <$> Grammar.write tail := rfl
  have outcome : (Instruction.execute <$> Grammar.write text).outcome [] =
      (some (.execute (.write text)), []) := by
    rw [Grammar.write, spoken]
    rfl
  simp only [Draft.addLine, Line.ofText_write, Draft.addKeyword, reader, outcome]
  simp [sound, Draft.note]

theorem Line.reads_end : Line.Reads "end" .finish := by
  intro d n
  have line : Line.ofText "end" = .instruction "end" "" := by decide +kernel
  have reader : Instruction.reader? "end" = some fun tail => .execute <$> Grammar.bare .finish tail := rfl
  have outcome : (Instruction.execute <$> Grammar.bare .finish "").outcome [] =
      (some (.execute .finish), []) := rfl
  simp only [Draft.addLine, line, Draft.addKeyword, reader, outcome]
  simp [sound, Draft.note]

/-- Lines that are read as statements add them in order. -/
theorem Draft.addLines_of_reads {texts : List String} {sts : List Statement}
    (reads : List.Forall₂ Line.Reads texts sts) (d : Draft) (n : Nat) :
    d.addLines n texts = { d with statements := d.statements ++ sts.toArray } := by
  induction reads generalizing d n with
  | nil => simp [addLines]
  | cons read _ ih => simp [addLines, read d n, ih, addInstruction]

/-- **A text of statements compiles to them**, with an `end` behind if there is none, and nothing is said. -/
theorem compile_of_reads {text : String} {sts : List Statement}
    (reads : List.Forall₂ Line.Reads (Text.lines text) sts) (name : String) :
    compile text name = ⟨.ok { name, statements := Script.closed sts.toArray }, []⟩ := by
  have draft : Draft.ofText text = { statements := sts.toArray } := by
    rw [Draft.ofText, Draft.addLines_of_reads reads]
    simp
  unfold compile
  simp only [draft]
  rfl

/-! ### How it runs -/

namespace Invocation

variable {i : Invocation} {h : Host}

/-- Without a budget the statement at the cursor is ready. -/
theorem ready?_of_statements {before after : List Statement} {st : Statement}
    (statements : i.script.statements.toList = before ++ st :: after) (cursor : i.cursor = before.length)
    (unbudgeted : i.context.settings.stepBudget = none) : i.ready? = some st := by
  refine ready?_eq_some.2 ⟨by simp [spentBudget?, unbudgeted], ?_⟩
  rw [← Array.getElem?_toList, statements, cursor]
  simp

theorem step_write {text : String} (ready : i.ready? = some (.write text)) (h : Host) :
    i.step h = (.goesOn (i.continueAt (i.cursor + 1) ((i.session h).write text)), h) :=
  step_of_ready ready h

theorem step_finish (ready : i.ready? = some .finish) (unlocked : i.context.lock = none)
    (spoken : Text.isBlank i.context.buffer = false) (h : Host) :
    i.step h = (.stops (.completed .ended i.context.values),
      h.emit (.broadcast ⟨.flush, i.context.script, i.context.buffer⟩)) := by
  rw [step_of_ready ready]
  simp [Session.exec, follow, finish, Session.flush, spoken, Session.releaseLock, unlocked,
    Session.broadcast, Session.emit, Session.clearBuffer, Session.values, session]

/-- **A run that only writes** comes to its `end`, and broadcasts all at once. -/
theorem run_writes (texts : List String) {before : List Statement}
    (statements : i.script.statements.toList = before ++ texts.map .write ++ [.finish])
    (cursor : i.cursor = before.length) (unbudgeted : i.context.settings.stepBudget = none)
    (unlocked : i.context.lock = none)
    (spoken : Text.isBlank (i.context.buffer ++ String.join texts) = false) {fuel : Nat}
    (enough : texts.length < fuel) (h : Host) :
    i.run fuel h = (.completed .ended i.context.values,
      h.emit (.broadcast ⟨.flush, i.context.script, i.context.buffer ++ String.join texts⟩)) := by
  induction texts generalizing i before fuel with
  | nil =>
      obtain ⟨fuel, rfl⟩ := Nat.exists_eq_add_one_of_ne_zero (Nat.ne_zero_of_lt enough)
      have here : i.script.statements.toList = before ++ [.finish] := by simpa using statements
      have ready : i.ready? = some .finish := ready?_of_statements here cursor unbudgeted
      have text : i.context.buffer ++ String.join [] = i.context.buffer := by simp
      rw [text] at spoken ⊢
      exact run_of_stops (step_finish ready unlocked spoken h) fuel
  | cons t texts ih =>
      obtain ⟨fuel, rfl⟩ := Nat.exists_eq_add_one_of_ne_zero (Nat.ne_zero_of_lt enough)
      have here : i.script.statements.toList =
          before ++ .write t :: (texts.map .write ++ [.finish]) := by simpa using statements
      have ready : i.ready? = some (.write t) := ready?_of_statements here cursor unbudgeted
      have text : i.context.buffer ++ String.join (t :: texts) =
          i.context.buffer ++ t ++ String.join texts := by
        simp [String.append_assoc]
      rw [text] at spoken ⊢
      -- the statement now belongs to what comes before, and its text to the buffer
      let next := i.continueAt (i.cursor + 1) ((i.session h).write t)
      have statements' : next.script.statements.toList =
          before ++ [.write t] ++ texts.map .write ++ [.finish] := by
        simpa [next, continueAt] using here
      have cursor' : next.cursor = (before ++ [Statement.write t]).length := by
        simp [next, continueAt, cursor]
      rw [run_of_goesOn (step_write ready h)]
      exact ih statements' cursor' unbudgeted unlocked spoken (Nat.lt_of_succ_lt_succ enough)

/-- A script without parameters takes any arguments; the words are remarked on. -/
theorem start_of_no_parameters {script : Script} (bare : script.parameters = []) (inputs : Inputs)
    (arguments : String) (h : Host) :
    ∃ new g, start script inputs arguments h =
        (.ok { script, context := Context.ofInputs script.name inputs }, g) ∧
      g.emitted = h.emitted ++ new ∧ Emission.outputs new = [] := by
  have bound : ∀ values, Parameter.bind script.parameters arguments values =
      (.ok (Text.words (Text.trimStart arguments)), values) := by
    intro values
    rw [bare]
    rfl
  unfold start
  simp only [bound]
  cases Text.words (Text.trimStart arguments) with
  | nil => exact ⟨[], h, rfl, by simp, rfl⟩
  | cons word words => exact ⟨_, _, rfl, rfl, rfl⟩

end Invocation

/-! ### The round trip -/

/-- **A text that can be written**: it is not blank, and has no line end in it. -/
structure Writable (text : String) : Prop where
  spoken : ∃ c ∈ text.toList, Blank.isBlank c = false
  oneLine : '\n' ∉ text.toList
  bare : '\r' ∉ text.toList

theorem Writable.not_isBlank {text : String} (writable : Writable text) : Text.isBlank text = false := by
  obtain ⟨c, mem, solid⟩ := writable.spoken
  simp only [Text.isBlank, List.all_eq_false]
  exact ⟨c, mem, by simp [solid]⟩

theorem Text.isBlank_append (a b : String) : isBlank (a ++ b) = (isBlank a && isBlank b) := by
  simp [isBlank]

/-- The lines that write some texts, with an `end` or without. -/
def writingLines (texts : List String) (ends : Bool) : List String :=
  texts.map ("write " ++ ·) ++ if ends then ["end"] else []

/-- The lines of such a text are read as its statements. -/
theorem reads_writingLines {texts : List String} (writable : ∀ t ∈ texts, Writable t) (ends : Bool) :
    List.Forall₂ Line.Reads (writingLines texts ends)
      (texts.map .write ++ if ends then [.finish] else []) := by
  induction texts with
  | nil =>
      cases ends with
      | false => exact .nil
      | true => exact .cons Line.reads_end .nil
  | cons t texts ih =>
      have read : Line.Reads ("write " ++ t) (.write t) := Line.reads_write (writable t (by simp)).not_isBlank
      exact .cons read (ih fun t mem => writable t (by simp [mem]))

theorem lines_writing {texts : List String} (writable : ∀ t ∈ texts, Writable t) (mark : Text.LineEnd)
    (closed ends : Bool) :
    Text.lines (Text.ofLines mark closed (writingLines texts ends)) = writingLines texts ends := by
  refine Text.lines_ofLines mark closed fun line mem => ?_
  rcases List.mem_append.1 mem with mem | mem
  · obtain ⟨t, inside, rfl⟩ := List.mem_map.1 mem
    obtain ⟨_, oneLine, bare⟩ := writable t inside
    simp [oneLine, bare]
  · cases ends with
    | false => simp at mem
    | true =>
        obtain rfl : line = "end" := by simpa using mem
        decide

/-- The script that writes some texts. -/
def Script.writing (name : String) (texts : List String) : Script :=
  { name, statements := (texts.map Statement.write ++ [Statement.finish]).toArray }

/-- Such a text compiles, and nothing is said about it. -/
theorem compile_writing {texts : List String} (hne : texts ≠ []) (writable : ∀ t ∈ texts, Writable t)
    (mark : Text.LineEnd) (closed ends : Bool) (name : String) :
    compile (Text.ofLines mark closed (writingLines texts ends)) name = ⟨.ok (.writing name texts), []⟩ := by
  have lines := lines_writing writable mark closed ends
  rw [compile_of_reads (lines ▸ reads_writingLines writable ends), Script.writing]
  cases ends with
  | true =>
      have ended : Script.closed (texts.map Statement.write ++ [Statement.finish]).toArray =
          (texts.map Statement.write ++ [Statement.finish]).toArray := Script.closed_of_closed (by simp)
      simp only [if_true, ended]
  | false =>
      have last : (texts.map Statement.write).toArray.back? = Option.some (.write (texts.getLast hne)) := by
        simp [List.getLast?_eq_some_getLast hne]
      simp [Script.closed_of_open last (by simp)]

theorem Text.not_isBlank_join {texts : List String} (hne : texts ≠ []) (writable : ∀ t ∈ texts, Writable t) :
    isBlank (String.join texts) = false := by
  cases texts with
  | nil => exact absurd rfl hne
  | cons t texts => simp [isBlank_append, (writable t (by simp)).not_isBlank]

/-- **What is written comes out.**  The lines that write some texts compile without a word, with or without
an `end` and whatever ends the lines.  However the script is called, it comes to its `end`, and the one thing
it broadcasts as output is the texts put together. -/
theorem write_round_trip {texts : List String} (hne : texts ≠ []) (writable : ∀ t ∈ texts, Writable t)
    (mark : Text.LineEnd) (closed ends : Bool) (name : String) :
    ∃ script, compile (Text.ofLines mark closed (writingLines texts ends)) name = ⟨.ok script, []⟩ ∧
      ∀ (inputs : Inputs) (arguments : String) (h : Host), inputs.settings.stepBudget = none →
        ∃ i g new, Invocation.start script inputs arguments h = (.ok i, g) ∧
          (∀ fuel, texts.length < fuel → ∃ values g', i.run fuel g = (.completed .ended values, g') ∧
            g'.emitted = h.emitted ++ new) ∧
          Emission.outputs new = [⟨.flush, name, String.join texts⟩] := by
  refine ⟨_, compile_writing hne writable mark closed ends name, fun inputs arguments h unbudgeted => ?_⟩
  let script := Script.writing name texts
  obtain ⟨said, g, starts, emitted, quiet⟩ :=
    Invocation.start_of_no_parameters (rfl : script.parameters = []) inputs arguments h
  let output : Emission := .broadcast ⟨.flush, name, String.join texts⟩
  refine ⟨_, g, said ++ [output], starts, fun fuel enough => ?_, ?_⟩
  · refine ⟨(Context.ofInputs name inputs).values, g.emit output, ?_, by simp [Host.emit, emitted]⟩
    have spoken : Text.isBlank ("" ++ String.join texts) = false := by
      simpa using Text.not_isBlank_join hne writable
    have statements : script.statements.toList = [] ++ texts.map .write ++ [.finish] := by
      simp [script, Script.writing]
    have run := Invocation.run_writes texts (i := ⟨script, .ofInputs name inputs, 0, 0⟩) statements rfl
      unbudgeted rfl spoken enough g
    rwa [show (Context.ofInputs name inputs).buffer = "" from rfl, String.empty_append] at run
  · rw [Emission.outputs_append, quiet]
    rfl

/-- Texts that start with a blank, a comment sign and a label sign, and one that ends in a blank. -/
def signs : List String := [" tea", "# milk ", "@end"]

/-- They come out as they are, from lines of either ending and whatever the arguments. -/
theorem write_round_trip_signs :
    (∀ t ∈ signs, Writable t) ∧
      Text.ofLines .returnFeed false (writingLines signs false) =
        "write  tea\r\nwrite # milk \r\nwrite @end" ∧
      ∃ script, compile "write  tea\r\nwrite # milk \r\nwrite @end" "w" = ⟨.ok script, []⟩ ∧
        ∃ i g new values g', Invocation.start script {} "two words" {} = (.ok i, g) ∧
          i.run 4 g = (.completed .ended values, g') ∧ g'.emitted = new ∧
          Emission.outputs new = [⟨.flush, "w", " tea# milk @end"⟩] := by
  have writable : ∀ t ∈ signs, Writable t := by
    intro t mem
    simp only [signs, List.mem_cons, List.not_mem_nil, or_false] at mem
    rcases mem with rfl | rfl | rfl
    · exact ⟨⟨'t', by decide, by decide⟩, by decide, by decide⟩
    · exact ⟨⟨'#', by decide, by decide⟩, by decide, by decide⟩
    · exact ⟨⟨'@', by decide, by decide⟩, by decide, by decide⟩
  have source : Text.ofLines .returnFeed false (writingLines signs false) =
      "write  tea\r\nwrite # milk \r\nwrite @end" := by decide +kernel
  obtain ⟨script, compiles, runs⟩ := write_round_trip (by simp [signs]) writable .returnFeed false false "w"
  obtain ⟨i, g, new, starts, completes, outputs⟩ := runs {} "two words" {} rfl
  obtain ⟨values, g', run, emitted⟩ := completes 4 (by decide)
  exact ⟨writable, source, script, source ▸ compiles, i, g, new, values, g', starts, run, emitted, outputs⟩

end LineScript
