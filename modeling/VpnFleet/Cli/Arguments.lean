/-!
# Command-line arguments

The arguments of one subcommand are options with values, at most one free
argument, and the request for help. They are taken from left to right: an
option without an attached value takes the next argument that does not look
like an option, and its value is checked when the next option, or the end, is
reached. Behind two hyphens every argument is free.

The first fault from the left is the one reported; what is missing comes last.
-/

namespace VpnFleet
namespace Cli

/-- Why arguments are not usable, or are not meant to be used. -/
inductive UsageError where
  /-- Nothing was given at all. -/
  | nothing
  /-- Help was asked for. -/
  | help
  | unknownArgument
  | unknownSubcommand
  | missingArgument
  /-- An option stands without its value. -/
  | missingValue
  /-- A value stands where none belongs. -/
  | needlessValue
  | repeatedOption
  | unacceptedValue
deriving DecidableEq, Repr

namespace UsageError

/-- The exit code of the program. -/
def exitCode : UsageError → Nat
  | help => 0
  | _ => 2

end UsageError

/-- An argument by its looks. -/
inductive Shape where
  /-- Two hyphens alone. -/
  | divider
  /-- A long option with the value attached to it. -/
  | long (name : String) (value : Option String)
  /-- A short option, by its first letter. -/
  | short (letter : Char)
  | word (text : String)
deriving DecidableEq, Repr

namespace Shape

/-- A long option behind its hyphens. -/
def ofLong (cs : List Char) : Shape :=
  let name := String.ofList (cs.takeWhile (· ≠ '='))
  match cs.dropWhile (· ≠ '=') with
  | _ :: value => long name (some (String.ofList value))
  | [] => long name none

/-- The looks of an argument; a hyphen alone is a word. -/
def ofArgument (argument : String) : Shape :=
  match argument.toList with
  | ['-', '-'] => divider
  | '-' :: '-' :: cs => ofLong cs
  | '-' :: letter :: _ => short letter
  | _ => word argument

end Shape

/-- An option that takes a value. -/
structure OptionRule where
  name : String
  accepts : String → Bool

/-- What a subcommand takes. -/
structure Rules where
  options : List OptionRule
  /-- A free argument is taken. -/
  takesWord : Bool

/-- An option that was begun: its value may still be missing. -/
structure OpenOption where
  rule : OptionRule
  value : Option String

/-- What was taken so far. -/
structure Taken where
  values : List (String × String)
  word : Option String
  opened : Option OpenOption

namespace Taken

/-- Nothing was taken. -/
def nothing : Taken where
  values := []
  word := none
  opened := none

/-- The value of an option. -/
def value? (taken : Taken) (name : String) : Option String :=
  taken.values.lookup name

/-- The value of an option is complete. -/
def close (taken : Taken) (rule : OptionRule) (value : String) : Except UsageError Taken :=
  if (taken.value? rule.name).isSome then .error .repeatedOption
  else if rule.accepts value then
    .ok { taken with values := (rule.name, value) :: taken.values, opened := none }
  else .error .unacceptedValue

/-- An option that was begun has to be complete. -/
def settle (taken : Taken) : Except UsageError Taken :=
  match taken.opened with
  | none => .ok taken
  | some { rule := _, value := none } => .error .missingValue
  | some { rule, value := some value } => taken.close rule value

/-- Help is asked for. -/
def askHelp (taken : Taken) : Except UsageError Taken :=
  match taken.settle with
  | .ok _ => .error .help
  | .error error => .error error

/-- An option begins. -/
def openOption (taken : Taken) (rule : OptionRule) (value : Option String) :
    Except UsageError Taken := do
  let taken ← taken.settle
  match value with
  | some value => taken.close rule value
  | none => return { taken with opened := some { rule, value := none } }

/-- A free argument. -/
def takeWord (rules : Rules) (taken : Taken) (text : String) : Except UsageError Taken :=
  if rules.takesWord && taken.word.isNone then do
    let taken ← taken.settle
    return { taken with word := some text }
  else .error .unknownArgument

/-- A long option. -/
def takeLong (rules : Rules) (taken : Taken) (name : String) (value : Option String) :
    Except UsageError Taken :=
  if name = "help" then
    if value.isSome then .error .needlessValue else taken.askHelp
  else
    match rules.options.find? fun rule => rule.name = name with
    | some rule => taken.openOption rule value
    | none => .error .unknownArgument

/-- A word is the value of the option that waits for one, or a free argument. -/
def takeValue (rules : Rules) (taken : Taken) (text : String) : Except UsageError Taken :=
  match taken.opened with
  | some { rule, value := none } =>
    .ok { taken with opened := some { rule, value := some text } }
  | _ => taken.takeWord rules text

/-- Takes arguments from left to right. -/
def takeAll (rules : Rules) (taken : Taken) : List String → Except UsageError Taken
  | [] => taken.settle
  | argument :: rest =>
    match Shape.ofArgument argument with
    | .divider => do (← rest.foldlM (takeWord rules) taken).settle
    | .long name value => do takeAll rules (← taken.takeLong rules name value) rest
    | .short letter => do
      takeAll rules (← if letter = 'h' then taken.askHelp else .error .unknownArgument) rest
    | .word text => do takeAll rules (← taken.takeValue rules text) rest

end Taken

namespace Rules

/-- Takes all arguments of a subcommand. -/
def read (rules : Rules) (arguments : List String) : Except UsageError Taken :=
  Taken.nothing.takeAll rules arguments

end Rules
end Cli
end VpnFleet
