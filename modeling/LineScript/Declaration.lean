import LineScript.Script
import LineScript.Tail

/-!
**Declarations.**

A declaration is a line that says something about the script instead of having something executed:
its name, its triggers, its parameters.  Declarations take effect in the order of the file; those
that refine a parameter are about the last one declared before them.

Main definitions:

* `LineScript.Declaration` — the declarations;
* `LineScript.Grammar.declarations` — the readers of their tails, by keyword;
* `LineScript.Declaration.apply` — **the effect of a declaration on a script**;
* `LineScript.Parameter.faults` — what is wrong with a list of parameters as a whole.
-/

set_option autoImplicit false

namespace LineScript

/-- A line about the script itself. -/
inductive Declaration where
  | name (name : String)
  /-- describes the last parameter, or the script if there is none yet -/
  | description (text : String)
  | command (word : String)
  | pattern (p : Pattern)
  /-- seconds between two runs -/
  | interval (seconds : Nat)
  | parameter (name : String) (required seeds : Bool)
  /-- the type of the last parameter -/
  | type (t : ParameterType)
  /-- the default of the last parameter -/
  | standIn (text : String)
  | special (s : Special)

/-! ### Readers -/

namespace Grammar

open Reading

/-- The name of the script. -/
def scriptName (tail : String) : Reading Declaration := do
  let name ← Tail.singleWord tail
  plainName name
  check
  return .name name

/-- A command word, which is kept in lower case. -/
def command (tail : String) : Reading Declaration := do
  let word ← Tail.singleWord tail
  commandName word
  check
  return .command (Case.lowercase word)

/-- A pattern. -/
def pattern (tail : String) : Reading Declaration := do
  match Pattern.ofSource (← Tail.text tail "a regex pattern") with
  | .ok p => return .pattern p
  | .error e => refuse (.badPattern e)

/-- A number of seconds. -/
def interval (tail : String) : Reading Declaration := do
  let word ← Tail.singleWord tail
  match Text.count? word with
  | some seconds => return .interval seconds
  | none => refuse (.notSeconds word)

/-- A parameter: a plain name, or one with the sigil of arguments or of variables. -/
def parameter (required : Bool) (tail : String) : Reading Declaration := do
  let word ← Tail.singleWord tail
  let rest : String := .ofList word.toList.tail
  match word.toList.head?.bind Scope.ofSigil? with
  | some .host => refuse (.hostParameter word)
  | some .argument => declare rest false
  | some .script => declare rest true
  | none => declare word false
where
  /-- The name without its sigil has to be a plain one. -/
  declare (name : String) (seeds : Bool) : Reading Declaration := do
    plainName name
    check
    return .parameter name required seeds

/-- A type of parameters. -/
def type (tail : String) : Reading Declaration := do
  let word ← Tail.singleWord tail
  match ParameterType.ofName? word with
  | some t => return .type t
  | none => refuse (.unknownType word)

/-- An event. -/
def special (tail : String) : Reading Declaration := do
  let word ← Tail.singleWord tail
  match Special.ofName? word with
  | some s => return .special s
  | none => refuse (.unknownSpecial word)

/-- The readers of all declarations, by keyword. -/
def declarations : List (String × (String → Reading Declaration)) :=
  [("script", scriptName),
   ("description", fun tail => do return .description (← Tail.text tail "a description")),
   ("command", command),
   ("regex", pattern),
   ("periodic", interval),
   ("required", parameter true),
   ("optional", parameter false),
   ("type", type),
   ("default", fun tail => do return .standIn (← Tail.text tail "a default value")),
   ("special", special)]

end Grammar

/-! ### Effect -/

namespace Declaration

/-- Changes the last parameter, or finds that there is none for the keyword. -/
def refine (s : Script) (keyword : String) (f : Parameter → Parameter) : Script × List Finding :=
  match s.parameters.getLast? with
  | some p => ({ s with parameters := s.parameters.dropLast ++ [f p] }, [])
  | none => (s, [.fault (.noParameter keyword)])

/-- **The effect of a declaration on a script**, and what is found about it. -/
def apply (d : Declaration) (s : Script) : Script × List Finding :=
  match d with
  | name new =>
    let found := if s.name ≠ "" ∧ s.name ≠ new then [.caution (.renamed s.name new)] else []
    ({ s with name := new }, found)
  | description text =>
    match s.parameters.getLast? with
    | some p => ({ s with parameters := s.parameters.dropLast ++ [{ p with description := text }] }, [])
    | none => ({ s with description := text }, [])
  | command word =>
    if word ∈ s.triggers.commands then (s, [.caution (.commandTwice word)])
    else ({ s with triggers.commands := s.triggers.commands ++ [word] }, [])
  | pattern p =>
    let found := if s.triggers.pattern.isSome then [.caution .patternTwice] else []
    ({ s with triggers.pattern := some p }, found)
  | interval seconds => ({ s with triggers.interval := seconds }, [])
  | parameter new required seeds =>
    if s.parameters.any (·.name == new) then (s, [.fault (.parameterTwice new)])
    else ({ s with parameters := s.parameters ++ [{ name := new, required, seeds }] }, [])
  | type t => refine s "type" fun p => { p with type := t }
  | standIn text => refine s "default" fun p => { p with standIn := some text }
  | special t => ({ s with triggers.specials := s.triggers.specials.insert t }, [])

end Declaration

/-! ### Parameters as a whole -/

namespace Parameter

/-- What is wrong with one parameter: the name of the first optional one before it, if there is one,
and whether others come after it. -/
def faultsAt (p : Parameter) (optional : Option String) (isLast : Bool) : List Fault :=
  (if p.type = .tail ∧ !isLast then [.tailNotLast p.name] else []) ++
  (match optional with
   | some o => if p.required then [.requiredAfterOptional p.name o] else []
   | none => []) ++
  (match p.standIn.map p.convert with
   | some (.error e) => [.badDefault e]
   | _ => [])

/-- What is wrong with the parameters from index `i` on, by index. -/
def faultsFrom (i : Nat) (optional : Option String) : List Parameter → List (Nat × Fault)
  | [] => []
  | p :: ps =>
    let here := (p.faultsAt optional ps.isEmpty).map fun f => (i, f)
    let optional := optional <|> (if p.required then none else some p.name)
    here ++ faultsFrom (i + 1) optional ps

/-- What is wrong with a list of parameters, by index: one that takes all that is left has to come
last, no required one may follow an optional one, and a default has to be of the type. -/
def faults (ps : List Parameter) : List (Nat × Fault) := faultsFrom 0 none ps

end Parameter

end LineScript
