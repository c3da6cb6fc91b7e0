import Diagnostics.Check.Field

/-!
The command line: the name of a command, and then its file and its options in any order. The last
of several equal options counts, and behind two hyphens nothing is an option.
-/
namespace Diagnostics

/-- What the program is asked to do with a file. -/
inductive Command where
  /-- Show the messages. -/
  | render (file : Text) (color : Option Bool) (settings : Option Text)
  /-- Show the patch for the message at an index, which counts from one. -/
  | patch (file : Text) (index : Nat) (settings : Option Text)
  /-- Write a report on the messages. -/
  | report (file output : Text) (settings : Option Text)
  deriving DecidableEq

namespace Command

inductive Verb where
  | render
  | patch
  | report
  deriving DecidableEq

def Verb.ofName? (name : Text) : Option Verb :=
  if name = "render".toList then some .render
  else if name = "patch".toList then some .patch
  else if name = "sarif".toList then some .report
  else none

/-- What options set. -/
inductive Switch where
  | color
  | plain
  | settings
  | index
  | output
  deriving DecidableEq

/-- A value has to follow an option. -/
def Switch.takesValue : Switch → Bool
  | .color | .plain => false
  | .settings | .index | .output => true

/-- The options of a command that have long names, which start with two hyphens. -/
def Verb.long (verb : Verb) : List (String × Switch) :=
  ("--config", .settings) :: match verb with
    | .render => [("--color", .color), ("--no-color", .plain)]
    | .patch => [("--index", .index)]
    | .report => [("--output", .output)]

/-- The option of a command that has a name of one letter. A value has to follow it. -/
def Verb.short? : Verb → Option (Char × Switch)
  | .render => none
  | .patch => some ('n', .index)
  | .report => some ('o', .output)

/-- An option as it is written, with a value if that is written in the same argument. -/
structure Written where
  switch : Switch
  value : Option Text

/-- An argument is an option. -/
def isOption : Text → Bool
  | '-' :: _ :: _ => true
  | _ => false

/-- A name before an equals sign, and what follows the sign, if there is one. -/
def splitValue (argument : Text) : Text × Option Text :=
  match argument.span (· != '=') with
  | (name, _ :: value) => (name, some value)
  | (name, []) => (name, none)

/-- An option with a long name. A value may follow an equals sign. -/
def longOption? (verb : Verb) (argument : Text) : Option Written :=
  let (name, value) := splitValue argument
  match verb.long.find? fun entry => entry.1.toList = name with
  | some (_, switch) => if value.isSome && !switch.takesValue then none else some ⟨switch, value⟩
  | none => none

/-- An option with a short name. What follows the name is the value. -/
def shortOption? (verb : Verb) : Text → Option Written
  | '-' :: letter :: value =>
    match verb.short? with
    | some (known, switch) =>
      if letter = known then some ⟨switch, if value = [] then none else some value⟩ else none
    | none => none
  | _ => none

/-- The option that an argument is. -/
def option? (verb : Verb) (argument : Text) : Option Written :=
  match longOption? verb argument with
  | some written => some written
  | none => shortOption? verb argument

/-- Arguments sorted out: the options with their values, and all others. -/
structure Sorted where
  options : List (Switch × Text)
  operands : List Text

/-- The arguments with one more option in front. -/
def Sorted.withOption (s : Sorted) (switch : Switch) (value : Text) : Sorted :=
  { s with options := (switch, value) :: s.options }

/-- The arguments with one more operand in front. -/
def Sorted.withOperand (s : Sorted) (operand : Text) : Sorted :=
  { s with operands := operand :: s.operands }

/-- Sort out the arguments of a command. -/
def sortOut (verb : Verb) : List Text → Option Sorted
  | [] => some ⟨[], []⟩
  | argument :: rest =>
    if argument = "--".toList then some ⟨[], rest⟩
    else if isOption argument then
      match option? verb argument with
      | none => none
      | some ⟨switch, some value⟩ => (sortOut verb rest).map (·.withOption switch value)
      | some ⟨switch, none⟩ =>
        if switch.takesValue then
          match rest with
          | [] => none
          | value :: rest => (sortOut verb rest).map (·.withOption switch value)
        else (sortOut verb rest).map (·.withOption switch [])
    else (sortOut verb rest).map (·.withOperand argument)

/-- The last option among some, with its value. -/
def Sorted.last? (s : Sorted) (switches : List Switch) : Option (Switch × Text) :=
  (s.options.filter fun entry => entry.1 ∈ switches).getLast?

/-- The value of the last option of a kind. -/
def Sorted.value? (s : Sorted) (switch : Switch) : Option Text :=
  (s.last? [switch]).map Prod.snd

/-- Whether colours are asked for, if anything is said about them. -/
def Sorted.color? (s : Sorted) : Option Bool :=
  (s.last? [.color, .plain]).map fun entry => decide (entry.1 = .color)

/-- The index that is asked for: a number from one on, and the first unless one is given. -/
def Sorted.index? (s : Sorted) : Option Nat :=
  match s.value? .index with
  | none => some 1
  | some written =>
    match Check.natural 1 (.text written) with
    | .ok index => some index
    | .error _ => none

/-- The command that some arguments make of a name. -/
def make (verb : Verb) (s : Sorted) : Option Command :=
  match s.operands with
  | [file] =>
    match verb with
    | .render => some (.render file s.color? (s.value? .settings))
    | .patch => s.index?.map fun index => .patch file index (s.value? .settings)
    | .report => (s.value? .output).map fun output => .report file output (s.value? .settings)
  | _ => none

/-- The paths in a command. -/
def paths : Command → List Text
  | .render file _ settings => file :: settings.toList
  | .patch file _ settings => file :: settings.toList
  | .report file output settings => file :: output :: settings.toList

/-- The paths in a command are without the null character. -/
def hasPaths (command : Command) : Bool := command.paths.all fun path => !path.contains '\x00'

/-- The command behind the place where options of the whole program may stand; there are none. -/
def ofWords? : List Text → Option Command
  | [] => none
  | name :: arguments => do
    let verb ← Verb.ofName? name
    let sorted ← sortOut verb arguments
    (make verb sorted).filter hasPaths

/-- The command of a command line, if it is one. -/
def ofArguments? : List Text → Option Command
  | ['-', '-'] :: words => ofWords? words
  | words => ofWords? words

def file : Command → Text
  | .render file _ _ => file
  | .patch file _ _ => file
  | .report file _ _ => file

/-- The file of settings that a command names. -/
def settings? : Command → Option Text
  | .render _ _ settings => settings
  | .patch _ _ settings => settings
  | .report _ _ settings => settings

end Command
end Diagnostics
