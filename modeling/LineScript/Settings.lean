import LineScript.Text.Blank
import LineScript.Text.Case
import LineScript.Text.Decimal
import LineScript.Time.Duration

/-!
**Settings.**

The host has a few settings that hold for all scripts.  They can be read from a text with lines of
the form `set name=value` or `set name value`; a line that is wrong is reported and changes nothing.

Main definitions:

* `LineScript.Settings` — the settings and their defaults;
* `LineScript.SettingError` — why a setting cannot be changed;
* `LineScript.Settings.apply` — **changes one setting by name**;
* `LineScript.Settings.ofText` — the settings of a text, and what is wrong with its lines.
-/

set_option autoImplicit false

namespace LineScript

/-- What holds for all scripts. -/
structure Settings where
  /-- how many statements an invocation may execute -/
  stepBudget : Option Nat := none
  /-- how long an invocation waits for the lock of the storage -/
  lockTimeout : Duration := .ofSeconds 5
  /-- the longest sleep -/
  maxSleep : Duration := .ofSeconds 3600
  /-- the sign that commands begin with -/
  commandSign : Char := '!'
  /-- the name of the host itself -/
  selfName : String := "tea"
  channel : String := ""
deriving DecidableEq

instance : Inhabited Settings := ⟨{}⟩

/-- Why a setting cannot be changed. -/
inductive SettingError where
  | unknownDirective (word : String)
  | noArgument
  | noValue (name : String)
  | emptyName
  | notCount (value : String)
  | notDuration (value : String)
  | unknownUnit (unit value : String)
  | notOneSign (value : String)
  | unknownSetting (name : String)
deriving DecidableEq

/-- What is said when a setting cannot be changed. -/
def SettingError.message : SettingError → String
  | unknownDirective word => s!"unknown directive '{word}'"
  | noArgument => "set: requires an argument"
  | noValue name => s!"set: missing value for '{name}'"
  | emptyName => "set: setting name cannot be empty"
  | notCount value => s!"step_budget: not a count: '{value}'"
  | notDuration value => s!"not a duration: '{value}'"
  | unknownUnit unit value => s!"unknown duration unit '{unit}' in '{value}'"
  | notOneSign value => s!"command_prefix: expected one character, got '{value}'"
  | unknownSetting name => s!"unknown setting '{name}'"

namespace Settings

/-! ### Values -/

/-- The largest number of seconds of a duration. -/
def mostSeconds : Nat := 18446744073709551615

/-- A duration: a count, and a unit that may be left out for seconds.  More than the largest number
of seconds counts as that. -/
def duration (text : String) : Except SettingError Duration :=
  let text := Text.trim text
  let digits := text.toList.takeWhile Char.isDigit
  let unit : String := .ofList (text.toList.dropWhile Char.isDigit)
  match Decimal.count? digits with
  | none => .error (.notDuration text)
  | some n =>
    match unit with
    | "" | "s" => .ok (.ofSeconds n)
    | "ms" => .ok (.ofMillis n)
    | "m" => .ok (.ofSeconds (min (n * 60) mostSeconds))
    | "h" => .ok (.ofSeconds (min (n * 3600) mostSeconds))
    | _ => .error (.unknownUnit unit text)

/-- A number of statements, or none for `none` and `0`. -/
def budget (value : String) : Except SettingError (Option Nat) :=
  match Case.asciiLowercase value with
  | "none" | "0" => .ok none
  | text =>
    match Text.count? text with
    | some n => .ok (some n)
    | none => .error (.notCount value)

/-- A single sign that is no blank. -/
def sign (value : String) : Except SettingError Char :=
  match value.toList with
  | [c] => if Blank.isBlank c then .error (.notOneSign value) else .ok c
  | _ => .error (.notOneSign value)

/-- **Changes one setting by name**, which may be written in any case. -/
def apply (s : Settings) (name value : String) : Except SettingError Settings :=
  match Case.asciiLowercase name with
  | "step_budget" => do return { s with stepBudget := ← budget value }
  | "lock_timeout" => do return { s with lockTimeout := ← duration value }
  | "max_sleep" => do return { s with maxSleep := ← duration value }
  | "command_prefix" => do return { s with commandSign := ← sign value }
  | "self_name" => .ok { s with selfName := value }
  | "channel" => .ok { s with channel := value }
  | _ => .error (.unknownSetting name)

/-! ### Lines -/

/-- The items of a line: words, or text in double quotes, in which a backslash makes the next
character stand for itself.  `inside` says whether a quote is open, `quoted` whether the item has
had one, and `item` holds its characters so far, the last one first. -/
def itemsFrom (inside quoted : Bool) (item : List Char) : List Char → List String
  | [] => if item.isEmpty && !quoted then [] else [.ofList item.reverse]
  | c :: cs =>
    if c = '"' then itemsFrom (!inside) true item cs
    else if inside then
      if c = '\\' then
        match cs with
        | [] => itemsFrom inside quoted item []
        | e :: cs => itemsFrom inside quoted (e :: item) cs
      else itemsFrom inside quoted (c :: item) cs
    else if Blank.isAsciiBlank c then
      if item.isEmpty && !quoted then itemsFrom false false [] cs
      else .ofList item.reverse :: itemsFrom false false [] cs
    else itemsFrom inside quoted (c :: item) cs

/-- The items of a line. -/
def items (line : String) : List String := itemsFrom false false [] line.toList

/-- Splits an item at its first equals sign. -/
def splitAtEquals (item : String) : Option (String × String) :=
  let (name, rest) := item.toList.span (· != '=')
  match rest with
  | [] => none
  | _ :: value => some (.ofList name, .ofList value)

/-- The name and the value of a setting, from the items of a line. -/
def assignment : List String → Except SettingError (String × String)
  | [] => .error .noArgument
  | first :: rest =>
    match splitAtEquals first with
    | some (name, value) => named name (" ".intercalate (value :: rest))
    | none =>
      match rest with
      | [] => .error (.noValue first)
      | _ => named first (" ".intercalate rest)
where
  /-- The name may not be empty. -/
  named (name value : String) : Except SettingError (String × String) :=
    if name.isEmpty then .error .emptyName else .ok (name, value)

/-- Splits a line at its first blank. -/
def splitAtBlank (line : String) : String × String :=
  let (word, rest) := line.toList.span fun c => !Blank.isAsciiBlank c
  (.ofList word, .ofList rest.tail)

/-- Lets a line take effect. -/
def applyLine (s : Settings) (line : String) : Except SettingError Settings :=
  let line := Text.trim line
  match line.toList.head? with
  | none | some '#' | some ';' => .ok s
  | some _ =>
    let (word, rest) := splitAtBlank line
    if Case.asciiLowercase word = "set" then do
      let (name, value) ← assignment (items (Text.trim rest))
      s.apply name value
    else .error (.unknownDirective word)

end Settings

/-- What is wrong with a line of settings. -/
structure SettingFault where
  line : Nat
  error : SettingError
deriving DecidableEq

/-- What is said about a line of settings. -/
def SettingFault.message (f : SettingFault) : String := s!"line {f.line}: {f.error.message}"

namespace Settings

/-- Lets lines take effect that are numbered from `n` on. -/
def applyLines (s : Settings) (n : Nat) : List String → Settings × List SettingFault
  | [] => (s, [])
  | line :: lines =>
    match s.applyLine line with
    | .ok s => s.applyLines (n + 1) lines
    | .error e =>
      let (s, faults) := s.applyLines (n + 1) lines
      (s, ⟨n, e⟩ :: faults)

/-- **The settings of a text**, and what is wrong with its lines. -/
def ofText (text : String) : Settings × List SettingFault :=
  ({} : Settings).applyLines 1 (Text.lines text)

end Settings

end LineScript
