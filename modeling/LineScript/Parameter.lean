import LineScript.ValueMap

/-!
**Parameters and their arguments.**

A script declares what it wants to be called with: a list of parameters, each with a name, a type
and perhaps a default.  The text of a call is bound to them from left to right, one word each; a
parameter of type `tail` takes all that is left.  The value of a parameter is kept under `?` and its
name, and for one that was declared with `!` under that as well.

Main definitions:

* `LineScript.ParameterType`, `LineScript.Parameter` — parameters;
* `LineScript.BindError` — why a text cannot be bound;
* `LineScript.Parameter.convert` — the value of a text as an argument of a parameter;
* `LineScript.Parameter.bind` — **binds a text to a list of parameters**.
-/

set_option autoImplicit false

namespace LineScript

/-- How the text of an argument is understood. -/
inductive ParameterType where
  | string
  /-- a whole number -/
  | number
  /-- the name of a user, with or without `@` in front -/
  | user
  /-- all that is left of the text -/
  | tail
deriving DecidableEq

namespace ParameterType

/-- All types. -/
def all : List ParameterType := [string, number, user, tail]

/-- The word for a type. -/
def name : ParameterType → String
  | string => "string"
  | number => "number"
  | user => "user"
  | tail => "tail"

/-- The type a word stands for, in any case. -/
def ofName? (word : String) : Option ParameterType :=
  all.find? fun t => t.name == Case.asciiLowercase word

end ParameterType

/-- A parameter of a script. -/
structure Parameter where
  name : String
  required : Bool
  description : String := ""
  type : ParameterType := .string
  /-- the text that stands in for a missing argument -/
  standIn : Option String := none
  /-- the variable of the same name gets the value too -/
  seeds : Bool := false
deriving DecidableEq

/-- Why a text cannot be bound. -/
inductive BindError where
  | missing (name : String)
  | notNumber (name value : String)
  | badUser (name value : String)
deriving DecidableEq

/-- What is said about a text that cannot be bound. -/
def BindError.message : BindError → String
  | missing name => s!"missing required argument '{name}'"
  | notNumber name value => s!"argument '{name}' must be a whole number, got '{value}'"
  | badUser name value => s!"argument '{name}' is not a valid user name: '{value}'"

namespace Parameter

/-- The parameter in a line on usage: in angle brackets if it is required, in square ones if not. -/
def usage (p : Parameter) : String :=
  let dots := if p.type = .tail then "…" else ""
  if p.required then s!"<{p.name}{dots}>" else s!"[{p.name}{dots}]"

/-! ### Conversion -/

/-- The characters of user names. -/
def isUserChar (c : Char) : Bool := ('a' ≤ c && c ≤ 'z') || c.isDigit || c == '_'

/-- The name of a user: one `@` in front is dropped, and the rest is lower-cased. -/
def userName (text : String) : String :=
  match text.toList with
  | '@' :: rest => Case.lowercase (.ofList rest)
  | _ => Case.lowercase text

/-- The value of a text as an argument of the parameter. -/
def convert (p : Parameter) (text : String) : Except BindError Value :=
  match p.type with
  | .string | .tail => .ok (.ofText text)
  | .number =>
    match Text.int64? (Text.trim text) with
    | some n => .ok (.ofNumber n)
    | none => .error (.notNumber p.name text)
  | .user =>
    let user := userName text
    if !user.isEmpty && user.toList.all isUserChar then .ok (.ofText user)
    else .error (.badUser p.name text)

/-! ### Binding -/

/-- The part of a text that goes to the parameter, and the part that is left. -/
def take (p : Parameter) (text : String) : String × String :=
  if p.type = .tail then (text, "")
  else
    let (word, rest) := Text.cutOrAll text
    (word, Text.trimStart rest)

/-- Keeps the value of the parameter. -/
def store (p : Parameter) (value : Value) (values : ValueMap) : ValueMap :=
  let values := if p.seeds then values.set (ScopedName.plain .script p.name).key value else values
  values.set (ScopedName.plain .argument p.name).key value

/-- Binds a text that starts with no blank, one parameter after the other.  The first one that
fails ends it. -/
def bindFrom : List Parameter → String → ValueMap → Except BindError (List String) × ValueMap
  | [], text, values => (.ok (Text.words text), values)
  | p :: ps, text, values =>
    let (word, rest) := p.take text
    match if word.isEmpty then p.standIn else some word with
    | none =>
      if p.required then (.error (.missing p.name), values) else bindFrom ps rest values
    | some argument =>
      match p.convert argument with
      | .error e => (.error e, values)
      | .ok value => bindFrom ps rest (p.store value values)

/-- **Binds a text to a list of parameters**: the words that are left over or the first failure, and
the values that were kept before it. -/
def bind (ps : List Parameter) (text : String) (values : ValueMap) :
    Except BindError (List String) × ValueMap :=
  bindFrom ps (Text.trimStart text) values

end Parameter

end LineScript
