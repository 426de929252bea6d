import LineScript.CommandLine
import LineScript.Compile
import LineScript.Files
import LineScript.Scheduler

/-!
**Running scripts from the command line.**

All scripts of a command line are compiled.  Unless only that was asked for, the first one is then
invoked, and what sleeps or is run at intervals goes on as it becomes due, until nothing is left.
Output goes to the first channel of the console, everything else to the second.  If a run or the
schedule breaks down, so does the batch, and it has an exit code of its own.

Main definitions:

* `LineScript.ConsoleLine` — a line on one of the two channels;
* `LineScript.Batch` — a batch of scripts at work;
* `LineScript.Batch.begin`, `LineScript.Batch.advance` — starts it, and lets it go on;
* `LineScript.Batch.report` — **the whole of a batch: exit code and console**.
-/

set_option autoImplicit false

namespace LineScript

/-! ### The console -/

/-- A line on the console. -/
inductive ConsoleLine where
  /-- output -/
  | out (text : String)
  /-- everything else -/
  | err (text : String)
deriving DecidableEq

/-- The word for a level in the log. -/
def Level.tag : Level → String
  | info => "INFO"
  | warning => "WARN"
  | error => "ERROR"
  | flush => "INFO"

namespace ConsoleLine

/-- One character of a message in the log.  Those that a terminal takes for commands are shown by
their code. -/
def sanitized (c : Char) : List Char :=
  match c with
  | '\x1b' => "\\x1b".toList
  | '\x07' => "\\x07".toList
  | '\x08' => "\\x08".toList
  | '\x0c' => "\\x0c".toList
  | '\x7f' => "\\x7f".toList
  | c => if 0x80 ≤ c.toNat ∧ c.toNat ≤ 0x9f then Quoted.codeEscape c else [c]

/-- A line of the log. -/
def log (level : Level) (message field value : String) : ConsoleLine :=
  let shown := String.ofList (message.toList.flatMap sanitized)
  .err s!"{level.tag} {shown} {field}={value}"

/-- A message on the console. -/
def ofBroadcast (b : Broadcast) : ConsoleLine :=
  match b.level with
  | .flush => .out b.message
  | level => log level b.message "context" b.origin

/-- What was emitted, on the console. -/
def ofEmission : Emission → ConsoleLine
  | .broadcast b => ofBroadcast b
  | .payload origin values =>
    let fields := " ".intercalate (values.entries.map fun (name, v) => s!"{name}={v.text}")
    .err s!"hurl {origin}: {fields}"

end ConsoleLine

/-! ### Preparation -/

/-- A way to read files. -/
abbrev FileReader := String → Except FileError String

/-- The name of the program. -/
def programName : String := "tea"

/-- The settings file of a user, from the user's own directory. -/
def userSettingsPath : String := s!".config/{programName}script/engine.conf"

/-- The settings of a file, and what is said about them. -/
def Settings.ofFile (path : String) : Except FileError String → Settings × List ConsoleLine
  | .ok text =>
    let (settings, faults) := Settings.ofText text
    (settings, faults.map fun f => .log .warning f.message "file" path)
  | .error e => ({}, [.log .warning s!"can't read settings: {e.message}" "file" path])

/-- The settings from where they are to come. -/
def SettingsSource.load (read : FileReader) : SettingsSource → Settings × List ConsoleLine
  | .skip => ({}, [])
  | .file path => Settings.ofFile path (read path)
  | .search =>
    match read userSettingsPath with
    | .error .notFound | .error .notDirectory => ({}, [])
    | result => Settings.ofFile userSettingsPath result

/-- The script of a file, and what is said about it. -/
def compileFile (read : FileReader) (path : String) : Compilation :=
  let c : Compilation :=
    match read path with
    | .error e => ⟨.error (.unreadable path e.message), []⟩
    | .ok text => compile text ((Path.stem? path).getD unnamed)
  match c.result with
  | .ok _ => c
  | .error e => { c with broadcasts := c.broadcasts ++ [e.broadcast] }

/-- The scripts of all compilations, if none failed. -/
def allScripts? (cs : List Compilation) : Option (List Script) :=
  cs.mapM fun c => c.result.toOption

/-! ### Batches -/

/-- A batch of scripts at work. -/
structure Batch where
  host : Host
  scheduler : Scheduler := .empty

namespace Batch

/-- Shows what was emitted since the last time. -/
def drain (h : Host) : List ConsoleLine × Host :=
  (h.emitted.map ConsoleLine.ofEmission, { h with emitted := [] })

/-- Adds the scripts that are run at intervals, unless that breaks down. -/
def addPeriodics (scheduler : Scheduler) (scripts : List Script) (inputs : Inputs) (now : Instant) :
    Option Scheduler :=
  scripts.foldlM (fun c script =>
    match c.addPeriodic script inputs now with
    | (.brokeDown, _) => none
    | (_, c) => some c) scheduler

/-- What the host supplies for the scripts of a command line. -/
def inputs (c : CommandLine) (settings : Settings) : Inputs :=
  let inputs := Inputs.ofSettings settings
  { inputs with
    sender := c.sender.getD inputs.sender
    channel := c.channel.getD inputs.channel }

/-- The exit code of a batch that broke down. -/
def brokenCode : Nat := 101

/-- Runs the first script.  What is left to do is scheduled, unless something breaks down. -/
def proceed (fuel : Nat) (periodic : Bool) (inputs : Inputs) (scripts : List Script) (now : Instant)
    (first : Invocation) (h : Host) : Option Scheduler × Host :=
  let periodics (s : Scheduler) : Option Scheduler :=
    if periodic then addPeriodics s scripts inputs now else some s
  match first.run fuel h with
  | (.suspended s, h) =>
    match Scheduler.empty.addSuspension s now with
    | (some _, scheduler) => (periodics scheduler, h)
    | (none, _) => (none, s.cancel h)
  | (o, h) => (if o.isBreakdown then none else periodics .empty, h)

/-- Invokes the first script: what is left to do, or the exit code if the arguments cannot be bound or
something breaks down. -/
def launch (fuel : Nat) (c : CommandLine) (inputs : Inputs) (scripts : List Script) (now : Instant)
    (h : Host) : Except Nat Scheduler × Host :=
  match scripts with
  | [] => (.ok .empty, h)
  | first :: _ =>
    match Invocation.start first inputs c.arguments h with
    | (.error _, h) => (.error 1, h)
    | (.ok i, h) =>
      let (left, h) := proceed fuel c.periodic inputs scripts now (i.setLockWait .zero) h
      (left.elim (.error brokenCode) .ok, h)

/-- Starts a batch at a time: what is shown, and then the batch, or the exit code if there is nothing
more to do. -/
def begin (fuel : Nat) (words : List String) (read : FileReader) (now : Instant) (h : Host) :
    List ConsoleLine × Except Nat Batch :=
  match CommandLine.parse words with
  | .error e => ([.err s!"{programName}: {e.message}", .err CommandLine.usage], .error 2)
  | .ok c =>
    let (settings, settingLines) := c.settings.load read
    let compilations := c.scripts.map (compileFile read)
    let said := compilations.flatMap fun c => c.broadcasts.map ConsoleLine.ofBroadcast
    let shown := settingLines ++ said
    match allScripts? compilations with
    | none => (shown, .error 1)
    | some scripts =>
      if c.check then
        let oks := scripts.map fun s =>
          .out s!"{s.name}: ok ({s.statements.size} statements)"
        (shown ++ oks, .error 0)
      else
        let (result, h) := launch fuel c (inputs c settings) scripts now h
        let (lines, h) := drain h
        (shown ++ lines, result.map fun scheduler => ⟨h, scheduler⟩)

/-- Lets a batch go on at a time: what is shown, and then the batch, unless it broke down. -/
def advance (fuel : Nat) (b : Batch) (now : Instant) : List ConsoleLine × Option Batch :=
  let (done, scheduler, host) := b.scheduler.runReady fuel b.host now
  let (lines, host) := drain host
  (lines, done.map fun _ => ⟨host, scheduler⟩)

/-- What a batch comes to. -/
structure Report where
  code : Nat
  lines : List ConsoleLine

/-- Lets a batch go on, each time as soon as something is due, until nothing is left, it breaks down
or it was let go on so many times. -/
def drive (fuel : Nat) : Nat → Batch → Report
  | 0, _ => ⟨0, []⟩
  | rounds + 1, b =>
    match b.scheduler.nextDue? with
    | none => ⟨0, []⟩
    | some now =>
      match b.advance fuel now with
      | (lines, none) => ⟨brokenCode, lines⟩
      | (lines, some b) =>
        let rest := drive fuel rounds b
        { rest with lines := lines ++ rest.lines }

/-- **The whole of a batch that is started at a time: exit code and console.** -/
def report (fuel rounds : Nat) (words : List String) (read : FileReader) (now : Instant) (h : Host) :
    Report :=
  match begin fuel words read now h with
  | (lines, .error code) => ⟨code, lines⟩
  | (lines, .ok b) =>
    let rest := b.drive fuel rounds
    { rest with lines := lines ++ rest.lines }

namespace Report

/-- The output, each line with its end. -/
def output (r : Report) : String :=
  String.join (r.lines.filterMap fun
    | .out text => some (text ++ "\n")
    | .err _ => none)

/-- The lines on the second channel.  What is shown there may take several of them. -/
def messages (r : Report) : List String :=
  Text.lines (String.join (r.lines.filterMap fun
    | .out _ => none
    | .err text => some (text ++ "\n")))

end Report

end Batch

end LineScript
