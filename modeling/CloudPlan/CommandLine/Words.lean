/-!
# Options among arguments

The options that a command takes, and the options and operands that its arguments give.
An option is given at most once.
-/

namespace CloudPlan.CommandLine

/-- What an option stands for. -/
inductive OptionKind where
  /-- A switch that is on or off. -/
  | switch
  /-- A text, which may be empty. -/
  | text
  /-- A path, which may not be empty. -/
  | path
  /-- A wish to be told how to use the program. -/
  | help
  /-- A wish to be told the version of a program. -/
  | version (program : String)
deriving DecidableEq

/-- An option that a command takes. -/
structure OptionForm where
  /-- The name, which follows two hyphens. -/
  name : String
  /-- The letter, if there is one, which follows one hyphen. -/
  letter : Option Char := none
  /-- What it stands for. -/
  kind : OptionKind := .switch
  /-- The variable of the environment that gives the option when no argument does. -/
  environment : Option String := none

/-- An option is followed by a value. -/
def OptionForm.takesValue (form : OptionForm) : Bool :=
  form.kind == .text || form.kind == .path

/-- Why arguments do not lead to a run. -/
inductive Refusal where
  | usage
  | help
  | version (program : String)
deriving DecidableEq

/-- The options that were given, with their values; a switch has an empty one. -/
abbrev Given := List (String × String)

/-- Gives an option a value. -/
def give (form : OptionForm) (value : String) (given : Given) : Except Refusal Given :=
  match form.kind with
  | .help => .error .help
  | .version program => .error (.version program)
  | kind =>
    if (given.lookup form.name).isSome ∨ (kind = .path ∧ value = "") then
      .error .usage
    else
      .ok ((form.name, value) :: given)

/-- What one argument says. -/
inductive Word where
  /-- It is no option. -/
  | operand
  /-- It ends the options. -/
  | ending
  /-- It gives options. -/
  | options (given : Given)
  /-- It gives options, and one more whose value is the next argument. -/
  | awaiting (form : OptionForm) (given : Given)

/-- What an option after two hyphens says. -/
def readName (forms : List OptionForm) (given : Given) (chars : List Char) :
    Except Refusal Word :=
  let name := String.ofList (chars.takeWhile (· != '='))
  match forms.find? (·.name == name), chars.dropWhile (· != '=') with
  | none, _ => .error .usage
  | some form, [] =>
    if form.takesValue then .ok (.awaiting form given) else (give form "" given).map .options
  | some form, _ :: value =>
    if form.takesValue then
      (give form (String.ofList value) given).map .options
    else
      .error .usage

/-- A value without the sign that may part it from its option. -/
def attachedValue : List Char → String
  | '=' :: value => String.ofList value
  | value => String.ofList value

/-- What option letters after one hyphen say. -/
def readLetters (forms : List OptionForm) (given : Given) : List Char → Except Refusal Word
  | [] => .ok (.options given)
  | letter :: rest =>
    match forms.find? (·.letter == some letter) with
    | none => .error .usage
    | some form =>
      if !form.takesValue then do
        readLetters forms (← give form "" given) rest
      else if rest = [] then
        .ok (.awaiting form given)
      else
        (give form (attachedValue rest) given).map .options

/-- What an argument says. -/
def readWord (forms : List OptionForm) (given : Given) (argument : String) :
    Except Refusal Word :=
  match argument.toList with
  | ['-', '-'] => .ok .ending
  | '-' :: '-' :: name => readName forms given name
  | '-' :: letter :: rest => readLetters forms given (letter :: rest)
  | _ => .ok .operand

/-- An argument may be the value of the option before it. -/
def isValue (argument : String) : Bool :=
  match argument.toList with
  | '-' :: _ :: _ => false
  | _ => true

/-- The options that arguments begin with, after those given before, and what is left then. -/
def leadingOptions (forms : List OptionForm) (given : Given) :
    List String → Except Refusal (Given × List String)
  | [] => .ok (given, [])
  | argument :: rest =>
    match readWord forms given argument with
    | .error refusal => .error refusal
    | .ok .operand => .ok (given, argument :: rest)
    | .ok .ending => .ok (given, argument :: rest)
    | .ok (.options more) => leadingOptions forms more rest
    | .ok (.awaiting form more) =>
      match rest with
      | [] => .error .usage
      | value :: later =>
        if isValue value then
          match give form value more with
          | .error refusal => .error refusal
          | .ok all => leadingOptions forms all later
        else
          .error .usage

/-- Operands are paths, which are not empty, and there is room for them. -/
def checkOperands (room : Nat) (operands : List String) : Except Refusal (List String) :=
  if operands.length ≤ room ∧ "" ∉ operands then .ok operands else .error .usage

/--
The options and operands of a command, with room for so many operands.  After two
hyphens all arguments are operands.
-/
def readAll (forms : List OptionForm) (room : Nat) (given : Given) (arguments : List String) :
    Except Refusal (Given × List String) := do
  let (more, rest) ← leadingOptions forms given arguments
  match room, rest with
  | _, [] => return (more, [])
  | room, "--" :: operands => return (more, ← checkOperands room operands)
  | 0, _ :: _ => throw .usage
  | room + 1, operand :: later =>
    let checked ← checkOperands 1 [operand]
    let (all, others) ← readAll forms room more later
    return (all, checked ++ others)

/-- The options with those that the environment gives and the arguments do not. -/
def withEnvironment (environment : String → Option String) (given : Given) :
    List OptionForm → Except Refusal Given
  | [] => .ok given
  | form :: rest =>
    match given.lookup form.name, form.environment.bind environment with
    | none, some value => do
      withEnvironment environment (← give form value given) rest
    | _, _ => withEnvironment environment given rest

end CloudPlan.CommandLine
