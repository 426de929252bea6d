/-!
**The command line.**

The command line names scripts and has flags, which may be joined into clusters such as `-kd`.  A
flag with a value takes the rest of its cluster or else the next word.

Main definitions:

* `LineScript.CommandLine` — what was asked for;
* `LineScript.CommandLineError` — why a command line is refused;
* `LineScript.CommandLine.parse` — **reads a command line**.
-/

set_option autoImplicit false

namespace LineScript

/-- Where the settings come from. -/
inductive SettingsSource where
  /-- the file of the user, if there is one -/
  | search
  /-- nowhere: the defaults hold -/
  | skip
  | file (path : String)
deriving DecidableEq

/-- What was asked for. -/
structure CommandLine where
  settings : SettingsSource := .search
  sender : Option String := none
  channel : Option String := none
  /-- the text the arguments of the first script are taken from -/
  arguments : String := ""
  /-- only compile -/
  check : Bool := false
  /-- go on with scripts that are run at intervals -/
  periodic : Bool := false
  debug : Bool := false
  scripts : List String := []
deriving DecidableEq

/-- Why a command line is refused. -/
inductive CommandLineError where
  | missingValue (flag : Char)
  | unknownOption (flag : Char)
  | noScripts
deriving DecidableEq

/-- What is said when a command line is refused. -/
def CommandLineError.message : CommandLineError → String
  | missingValue flag => s!"-{flag} requires an argument"
  | unknownOption flag => s!"unknown option: -{flag}"
  | noScripts => "no script files given"

namespace CommandLine

/-- How the program is called. -/
def usage : String :=
  "Usage: tea [-f[<file>]] [-s<sender>] [-c<channel>] [-a<args>] [-kpd] <script>..."

/-- A flag that takes a value. -/
inductive ValueFlag where
  | sender
  | channel
  | arguments
deriving DecidableEq

/-- The letter of a flag. -/
def ValueFlag.letter : ValueFlag → Char
  | sender => 's'
  | channel => 'c'
  | arguments => 'a'

/-- What the next word may belong to. -/
inductive Pending where
  | nothing
  /-- it is the value of a flag -/
  | value (flag : ValueFlag)
  /-- it may be a settings file -/
  | settings
deriving DecidableEq

/-- Gives a flag its value. -/
def setValue (c : CommandLine) (flag : ValueFlag) (value : String) : CommandLine :=
  match flag with
  | .sender => { c with sender := some value }
  | .channel => { c with channel := some value }
  | .arguments => { c with arguments := value }

/-- Reads the flag of a value, which is the rest of the cluster unless that is empty. -/
def readValue (c : CommandLine) (flag : ValueFlag) (rest : List Char) : CommandLine × Pending :=
  if rest.isEmpty then (c, .value flag) else (c.setValue flag (.ofList rest), .nothing)

/-- Reads a cluster of flags.  Without a file after it, the flag for settings means none, until a
settings file follows. -/
def readCluster (c : CommandLine) : List Char → Except CommandLineError (CommandLine × Pending)
  | [] => .ok (c, .nothing)
  | 'd' :: rest => { c with debug := true }.readCluster rest
  | 'k' :: rest => { c with check := true }.readCluster rest
  | 'p' :: rest => { c with periodic := true }.readCluster rest
  | 'f' :: rest =>
    if rest.isEmpty then .ok ({ c with settings := .skip }, .settings)
    else .ok ({ c with settings := .file (.ofList rest) }, .nothing)
  | 's' :: rest => .ok (c.readValue .sender rest)
  | 'c' :: rest => .ok (c.readValue .channel rest)
  | 'a' :: rest => .ok (c.readValue .arguments rest)
  | flag :: _ => .error (.unknownOption flag)

/-- The word is taken for a settings file. -/
def isSettingsFile (word : String) : Bool :=
  word.toList.head? != some '-' && ".conf".toList.isSuffixOf word.toList

/-- Reads words, of which the first may belong to a flag before it. -/
def readWords (c : CommandLine) (pending : Pending) :
    List String → Except CommandLineError CommandLine
  | [] =>
    match pending with
    | .value flag => .error (.missingValue flag.letter)
    | _ => .ok c
  | word :: words =>
    match pending with
    | .value flag => (c.setValue flag word).readWords .nothing words
    | _ =>
      if pending = .settings ∧ isSettingsFile word then
        { c with settings := .file word }.readWords .nothing words
      else if word = "--" then .ok { c with scripts := c.scripts ++ words }
      else
        match word.toList with
        | '-' :: flag :: flags =>
          match c.readCluster (flag :: flags) with
          | .ok (c, pending) => c.readWords pending words
          | .error e => .error e
        | _ => { c with scripts := c.scripts ++ [word] }.readWords .nothing words

/-- **Reads a command line.**  There has to be a script. -/
def parse (words : List String) : Except CommandLineError CommandLine := do
  let c ← ({} : CommandLine).readWords .nothing words
  if c.scripts.isEmpty then throw .noScripts
  return c

end CommandLine

end LineScript
