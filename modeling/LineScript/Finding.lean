import LineScript.Broadcast
import LineScript.Parameter
import LineScript.Pattern
import LineScript.Text.Quoted

/-!
**What is found wrong with a line.**

Reading a line of a script records *findings*: faults, which make the script unusable, and cautions,
which do not.  A reading goes on after a fault where it can, so that one pass finds as much as
possible, but once a fault was found nothing that needs a well-formed line is built from it.

Main definitions:

* `LineScript.Fault`, `LineScript.Caution`, `LineScript.Finding` — the findings and their texts;
* `LineScript.Reading` — a computation that records findings and may refuse a line;
* `LineScript.Reading.require`, `LineScript.Reading.check` — records a fault unless a condition
  holds, and refuses the line once there is one;
* `LineScript.Reading.every` — reads several items, going on after those that are refused.
-/

set_option autoImplicit false

namespace LineScript

/-! ### Findings -/

/-- What makes a line unusable. -/
inductive Fault where
  | badName (name : String)
  | badValueName (name : String) (wild : Bool)
  | badVariable (name : String)
  | badLabel (name : String)
  | badCommand (name : String)
  | tooFew (least found : Nat)
  | emptyConstant
  /-- something is missing -/
  | expected (what : String)
  /-- a word is none of two -/
  | neither (first second found : String)
  | notSeconds (word : String)
  | badTimeFormat (format : String)
  | badPattern (e : PatternError)
  | unknownType (word : String)
  | unknownSpecial (word : String)
  | hostParameter (word : String)
  | parameterTwice (name : String)
  | noParameter (keyword : String)
  | labelTwice (label : String)
  | unknownKeyword (keyword : String)
  /-- a line is refused although nothing was recorded against it -/
  | badArguments (keyword : String)
  | tailNotLast (name : String)
  | requiredAfterOptional (required optional : String)
  | badDefault (e : BindError)
  /-- a fault in the words of whoever found it -/
  | other (message : String)
deriving DecidableEq

/-- What is said about a fault. -/
def Fault.message : Fault → String
  | badName name => s!"invalid name '{name}': expected letters, digits or '.'"
  | badValueName name false => s!"invalid value name '{name}': expected $, ? or ! prefix"
  | badValueName name true =>
    s!"invalid value name '{name}': expected $, ? or ! prefix, optional trailing *"
  | badVariable name => s!"invalid variable name '{name}': expected ! prefix"
  | badLabel name => s!"invalid label '{name}': expected @ prefix"
  | badCommand name => s!"invalid command '{name}': expected letters and digits only"
  | tooFew least found => s!"expected at least {least} argument(s), found {found}"
  | emptyConstant => "empty string constant"
  | expected what => s!"expected {what}"
  | neither first second found => s!"expected '{first}' or '{second}', found '{found}'"
  | notSeconds word => s!"expected a number of seconds, found '{word}'"
  | badTimeFormat format => s!"invalid timestamp format '{format}'"
  | badPattern e => e.message
  | unknownType word =>
    s!"unknown parameter type {Text.quoted word} (expected string, number, user or tail)"
  | unknownSpecial word => s!"unknown special trigger {Text.quoted word}"
  | hostParameter word => s!"parameter '{word}' cannot be a context value"
  | parameterTwice name => s!"parameter '{name}' declared twice"
  | noParameter keyword => s!"'{keyword}' must follow a required or optional parameter"
  | labelTwice label => s!"label '{label}' declared twice"
  | unknownKeyword keyword => s!"unknown instruction '{keyword}'"
  | badArguments keyword => s!"invalid arguments for '{keyword}'"
  | tailNotLast name => s!"parameter '{name}' has type tail but is not the last parameter"
  | requiredAfterOptional required optional =>
    s!"required parameter '{required}' follows optional '{optional}'"
  | badDefault e => s!"bad default: {e.message}"
  | other message => message

/-- What is worth a warning. -/
inductive Caution where
  | extras (expected found : Nat)
  | renamed (old new : String)
  | commandTwice (command : String)
  | patternTwice
  /-- a warning in the words of whoever gives it -/
  | other (message : String)
deriving DecidableEq

/-- What is said as a warning. -/
def Caution.message : Caution → String
  | extras expected found => s!"expected {expected} argument(s), found {found}; extras ignored"
  | renamed old new => s!"script renamed from '{old}' to '{new}'"
  | commandTwice command => s!"command '{command}' declared twice"
  | patternTwice => "regex declared twice; the last one wins"
  | other message => message

/-- A fault or a caution. -/
inductive Finding where
  | fault (f : Fault)
  | caution (c : Caution)
deriving DecidableEq

namespace Finding

/-- The finding makes the line unusable. -/
def isFault : Finding → Bool
  | fault _ => true
  | caution _ => false

/-- What is said about a finding. -/
def message : Finding → String
  | fault f => f.message
  | caution c => c.message

/-- The level at which a finding is broadcast. -/
def level : Finding → Level
  | fault _ => .error
  | caution _ => .warning

/-- A finding as a message. -/
def broadcast (origin : String) (f : Finding) : Broadcast := ⟨f.level, origin, f.message⟩

end Finding

/-- No fault is among the findings. -/
def sound (fs : List Finding) : Bool := fs.all fun f => !f.isFault

/-! ### Readings -/

/-- A computation that records findings in order and either yields a result or refuses the line. -/
abbrev Reading := OptionT (StateM (List Finding))

namespace Reading

variable {α β : Type}

/-- The result, if the line was not refused, and all findings, those there were before among
them. -/
def outcome (r : Reading α) (before : List Finding) : Option α × List Finding :=
  r.run.run before

/-- Records a finding. -/
def record (f : Finding) : Reading Unit := modify (· ++ [f])

/-- Records a caution. -/
def warn (c : Caution) : Reading Unit := record (.caution c)

/-- Records a fault and refuses the line. -/
def refuse (f : Fault) : Reading α := do
  record (.fault f)
  failure

/-- Records a fault unless the condition holds, and goes on either way. -/
def require (ok : Bool) (f : Fault) : Reading Unit :=
  if ok then pure () else record (.fault f)

/-- Refuses the line if any fault was recorded. -/
def check : Reading Unit := do
  if sound (← get) then pure () else failure

/-- The result, or none where the line would be refused; the reading goes on. -/
def attempt (r : Reading α) : Reading (Option α) :=
  OptionT.mk (some <$> r.run)

/-- Reads every item.  One that is refused does not keep the others from being read, but the line is
refused in the end. -/
def every (read : α → Reading β) : List α → Reading (List β)
  | [] => pure []
  | a :: as => do
    let b ← attempt (read a)
    let bs ← attempt (every read as)
    match b, bs with
    | some b, some bs => pure (b :: bs)
    | _, _ => failure

/-! ### Checks on names and counts -/

/-- The word is a plain name. -/
def plainName (word : String) : Reading Unit := require (Name.isPlain word) (.badName word)

/-- The word is a scoped name. -/
def valueName (word : String) (wild : Bool) : Reading Unit :=
  require (Name.isScoped word wild) (.badValueName word wild)

/-- The word is the name of a variable. -/
def variableName (word : String) (wild : Bool) : Reading Unit :=
  require (Name.isVariable word wild) (.badVariable word)

/-- The word is a label. -/
def labelName (word : String) : Reading Unit := require (Name.isLabel word) (.badLabel word)

/-- The word is a command. -/
def commandName (word : String) : Reading Unit := require (Name.isCommand word) (.badCommand word)

/-- There are at least `least` arguments; more than `expected` are worth a warning unless `more`
may come. -/
def argCount (count least expected : Nat) (more : Bool) : Reading Unit :=
  if count < least then record (.fault (.tooFew least count))
  else if count > expected && !more then warn (.extras expected count)
  else pure ()

end Reading

end LineScript
