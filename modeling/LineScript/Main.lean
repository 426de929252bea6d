import LineScript.Batch
import Std.Time.DateTime.Timestamp

/-!
**The program.**

Reads the files a command line names, runs the batch, and waits until what sleeps is due.  All
decisions are made by `LineScript.Batch`; this module only connects it to the console, the files, the
clock and chance.
-/

set_option autoImplicit false

open LineScript

/-- More statements than any run gets to. -/
def runLimit : Nat := 4611686018427387904

/-- How many random numbers are drawn in advance. -/
def drawsAhead : Nat := 4096

/-- Shows lines on the console. -/
def showLines (lines : List ConsoleLine) : IO Unit := do
  for line in lines do
    match line with
    | .out text => IO.println text
    | .err text => IO.eprintln text
  (← IO.getStdout).flush

/-- Reads a file, if it can be read. -/
def tryRead (path : String) : IO (Except FileError String) := do
  match ← (IO.FS.readFile path).toBaseIO with
  | .ok text => return .ok text
  | .error (.noFileOrDirectory _ _ _) => return .error .notFound
  | .error (.inappropriateType _ _ _) => return .error .isDirectory
  | .error e => return .error (.other (toString e))

/-- Reads all files that a command line may need. -/
def readAll (words : List String) : IO FileReader := do
  match CommandLine.parse words with
  | .error _ => return fun _ => .error .notFound
  | .ok c =>
    let settings := match c.settings with
      | .file path => [path]
      | _ => []
    let named ← (settings ++ c.scripts).mapM fun path => do return (path, ← tryRead path)
    let home := (← IO.getEnv "HOME").getD ""
    let own ← tryRead (home ++ "/" ++ userSettingsPath)
    let found := (userSettingsPath, own) :: named
    return fun path => (found.lookup path).getD (.error .notFound)

/-- Random numbers of 64 bits. -/
def randomDraws : IO Draws := do
  let supply ← (List.range drawsAhead).mapM fun _ => do
    let high ← IO.rand 0 4294967295
    let low ← IO.rand 0 4294967295
    return (high * 4294967296 + low).toUInt64
  return ⟨supply, 0⟩

/-- The present time. -/
def presentMoment : IO Moment := do
  let now ← Std.Time.Timestamp.now
  let nanos := now.toNanosecondsSinceUnixEpoch.val
  return ⟨nanos.fdiv 1000000000, (nanos.fmod 1000000000).toNat, 0⟩

/-- The host as it is now. -/
def refreshed (h : Host) : IO Host := do
  return { h with draws := ← randomDraws, clock := ← presentMoment }

/-- What the clock shows. -/
def clockTime : IO Instant := do
  return .ofDuration ⟨← IO.monoNanosNow⟩

/-- Lets a batch go on as it becomes due, until nothing is left or it breaks down; the exit code. -/
partial def waitOut (b : Batch) : IO Nat := do
  match b.scheduler.nextDue? with
  | none => return 0
  | some due =>
    let now ← clockTime
    if now < due then
      IO.sleep (min ((due.nanos - now.nanos) / 1000000 + 1) 4294967295).toUInt32
      waitOut b
    else
      let (lines, b) := { b with host := ← refreshed b.host }.advance runLimit now
      showLines lines
      match b with
      | some b => waitOut b
      | none => return Batch.brokenCode

/-- Runs the scripts of a command line; the exit code. -/
def main (words : List String) : IO UInt32 := do
  let host ← refreshed { storage := some .empty, catalogue := some .empty }
  let (lines, result) := Batch.begin runLimit words (← readAll words) (← clockTime) host
  showLines lines
  match result with
  | .error code => return code.toUInt32
  | .ok b => return (← waitOut b).toUInt32
