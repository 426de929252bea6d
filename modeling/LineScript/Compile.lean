import LineScript.Instruction

/-!
**From a text to a script.**

A text is read line by line.  A line that is blank or starts with `#` says nothing; one that starts
with `@` sets a label before the statement that comes next; any other is a keyword and its tail.  A
line that is wrong does not stop the reading, so that all faults are found at once; a text with any
fault has no script.

Main definitions:

* `LineScript.Line` — what a line is;
* `LineScript.Draft` — what has been read so far;
* `LineScript.CompileError` — why there is no script;
* `LineScript.compile` — **the script of a text, or the faults, and all that is said about it**.
-/

set_option autoImplicit false

namespace LineScript

/-! ### Lines -/

/-- What a line is. -/
inductive Line where
  | nothing
  | label (label : String)
  | instruction (keyword tail : String)
deriving DecidableEq

/-- What a line is, by its first sign after the blanks. -/
def Line.ofText (text : String) : Line :=
  let text := Text.trimStart text
  match text.toList with
  | [] => .nothing
  | c :: _ =>
    if c = '#' then .nothing
    else if c = Name.labelSigil then .label (Text.trimEnd text)
    else
      let (keyword, tail) := Text.cutOrAll text
      .instruction keyword tail

/-- What was found about a line, by its number. -/
structure LineFinding where
  line : Nat
  finding : Finding
deriving DecidableEq

/-- The finding as a message; it comes from the line of the named text. -/
def LineFinding.broadcast (name : String) (f : LineFinding) : Broadcast :=
  f.finding.broadcast s!"{name}:{f.line}"

/-- A fault of a line. -/
structure LineFault where
  line : Nat
  fault : Fault
deriving DecidableEq

/-- What is said about a fault of a line. -/
def LineFault.message (f : LineFault) : String := s!"line {f.line}: {f.fault.message}"

/-- The fault, if a finding is one. -/
def LineFinding.fault? (f : LineFinding) : Option LineFault :=
  match f.finding with
  | .fault fault => some ⟨f.line, fault⟩
  | .caution _ => none

/-! ### Drafts -/

/-- What has been read so far. -/
structure Draft where
  statements : Array Statement := #[]
  labels : KeyMap Nat := .empty
  /-- declarations with the lines they stand on -/
  declarations : Array (Nat × Declaration) := #[]
  findings : Array LineFinding := #[]

namespace Draft

/-- Keeps what was found about a line. -/
def note (d : Draft) (line : Nat) (fs : List Finding) : Draft :=
  { d with findings := d.findings ++ (fs.map (LineFinding.mk line)).toArray }

/-- Sets a label before the next statement, unless it is not one or is set already. -/
def addLabel (d : Draft) (line : Nat) (label : String) : Draft :=
  if !Name.isLabel label then d.note line [.fault (.badLabel label)]
  else if d.labels.contains label then d.note line [.fault (.labelTwice label)]
  else { d with labels := d.labels.insert label d.statements.size }

/-- Adds an instruction that was read without a fault. -/
def addInstruction (d : Draft) (line : Nat) : Instruction → Draft
  | .declare declaration => { d with declarations := d.declarations.push (line, declaration) }
  | .execute statement => { d with statements := d.statements.push statement }

/-- Reads a keyword and its tail.  A line that is refused has at least one fault. -/
def addKeyword (d : Draft) (line : Nat) (keyword tail : String) : Draft :=
  match Instruction.reader? keyword with
  | none => d.note line [.fault (.unknownKeyword keyword)]
  | some read =>
    match (read tail).outcome [] with
    | (some i, found) =>
      if sound found then (d.addInstruction line i).note line found else d.note line found
    | (none, found) =>
      d.note line (if sound found then found ++ [.fault (.badArguments keyword)] else found)

/-- Reads a line. -/
def addLine (d : Draft) (line : Nat) (text : String) : Draft :=
  match Line.ofText text with
  | .nothing => d
  | .label label => d.addLabel line label
  | .instruction keyword tail => d.addKeyword line keyword tail

/-- Reads lines that are numbered from `n` on. -/
def addLines (d : Draft) (n : Nat) : List String → Draft
  | [] => d
  | text :: texts => (d.addLine n text).addLines (n + 1) texts

/-- The draft of a text. -/
def ofText (text : String) : Draft := ({} : Draft).addLines 1 (Text.lines text)

/-- The statements of the draft: a label after the last one gets an `end` to stand before, and the
last statement is an `end`. -/
def finishedStatements (d : Draft) : Array Statement :=
  let landed :=
    if d.labels.entries.any fun e => e.2 == d.statements.size then d.statements.push .finish
    else d.statements
  Script.closed landed

/-- The script before any declaration took effect. -/
def undeclared (d : Draft) : Script :=
  { statements := d.finishedStatements, labels := d.labels }

end Draft

/-! ### Declarations in order -/

/-- A script under declaration: the lines its parameters were declared on, and what was found. -/
structure Declaring where
  script : Script
  parameterLines : Array Nat := #[]
  findings : Array LineFinding := #[]

namespace Declaring

/-- Lets a declaration take effect. -/
def add (d : Declaring) (line : Nat) (declaration : Declaration) : Declaring :=
  let (script, found) := declaration.apply d.script
  { script
    parameterLines :=
      if d.script.parameters.length < script.parameters.length then d.parameterLines.push line
      else d.parameterLines
    findings := d.findings ++ (found.map (LineFinding.mk line)).toArray }

/-- Lets declarations take effect one after the other. -/
def addAll (d : Declaring) (ds : List (Nat × Declaration)) : Declaring :=
  ds.foldl (fun d (line, declaration) => d.add line declaration) d

/-- What is wrong with the parameters as a whole, each by the line it was declared on. -/
def parameterFindings (d : Declaring) : List LineFinding :=
  (Parameter.faults d.script.parameters).map fun (i, fault) =>
    ⟨d.parameterLines.getD i 0, .fault fault⟩

end Declaring

/-! ### Compilation -/

/-- Why there is no script. -/
inductive CompileError where
  /-- the file cannot be read -/
  | unreadable (path reason : String)
  /-- lines have faults -/
  | invalid (name : String) (faults : List LineFault)
deriving DecidableEq

namespace CompileError

/-- What is said when there is no script. -/
def message : CompileError → String
  | unreadable path reason => s!"cannot read {path}: {reason}"
  | invalid name faults =>
    let first := (faults.head?.map LineFault.message).getD ""
    s!"{name}: {faults.length} error(s), first at {first}"

/-- What the failure is about. -/
def origin : CompileError → String
  | unreadable path _ => path
  | invalid name _ => name

/-- The failure in one message. -/
def broadcast (e : CompileError) : Broadcast := ⟨.error, e.origin, e.message⟩

end CompileError

/-- What compiling a text gives: a script or not, and what is said about the text. -/
structure Compilation where
  result : Except CompileError Script
  broadcasts : List Broadcast

/-- The name of a script that has none and no file to take it from. -/
def unnamed : String := "unnamed"

/-- **The script of a text, or all its faults by line.**  The name stands in for one that is not
declared.  What is found is said in the order in which it is found: first about the lines, then about
the declarations, then about the parameters as a whole. -/
def compile (text name : String) : Compilation :=
  let draft := Draft.ofText text
  let declaring := ({ script := draft.undeclared } : Declaring).addAll draft.declarations.toList
  let findings :=
    draft.findings.toList ++ declaring.findings.toList ++ declaring.parameterFindings
  let faults := findings.filterMap LineFinding.fault?
  let script := declaring.script
  { result :=
      if faults.isEmpty then
        .ok { script with name := if script.name.isEmpty then name else script.name }
      else .error (.invalid name (faults.mergeSort fun a b => a.line ≤ b.line))
    broadcasts := findings.map (LineFinding.broadcast name) }

end LineScript
