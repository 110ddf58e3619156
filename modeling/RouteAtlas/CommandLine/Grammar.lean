import RouteAtlas.Text.Basic

namespace RouteAtlas

inductive UsageError where
  | invalidValue
  | refusedValue
  | unneededValue
  | unknownArgument
  | unknownCommand
  | repeated
  | missing
  | help
  | nothingGiven
  | version
deriving DecidableEq, Repr

structure Parameter where
  name : Text
  takesValue : Bool
  repeatable : Bool
  problem? : Text → Option UsageError

structure Form where
  places : List Parameter
  options : List Parameter

inductive Grammar where
  | form (form : Form)
  /-- One of several commands. Only some menus tell the version. -/
  | menu (tellsVersion : Bool) (commands : List (Text × Grammar))

inductive Argument where
  /-- Two dashes: everything that follows is a value. -/
  | escape
  | long (name : Text) (value : Option Text)
  | short (letter : Char)
  | plain (text : Text)
deriving DecidableEq, Repr

namespace Argument

def ofText : Text → Argument
  | ['-', '-'] => .escape
  | '-' :: '-' :: rest =>
    match rest.dropWhile (· != '=') with
    | _ :: value => .long (rest.takeWhile (· != '=')) (some value)
    | [] => .long rest none
  | '-' :: letter :: _ => .short letter
  | text => .plain text

end Argument

structure Invocation where
  command : List Text
  given : List (Text × Text)
deriving DecidableEq, Repr

namespace Invocation

def within (invocation : Invocation) (name : Text) : Invocation :=
  { invocation with command := name :: invocation.command }

def values (invocation : Invocation) (name : Text) : List Text :=
  (invocation.given.filter (·.1 == name)).map (·.2)

def value? (invocation : Invocation) (name : Text) : Option Text := invocation.given.lookup name

def has (invocation : Invocation) (name : Text) : Bool := (invocation.value? name).isSome

end Invocation

structure FormState where
  given : List (Text × Text)
  /-- The latest parameter, with its value unless it still waits for one. -/
  pending : Option (Parameter × Option Text)
  places : List Parameter
  escaped : Bool

namespace FormState

def accept (state : FormState) (parameter : Parameter) (value : Option Text) :
    Except UsageError FormState :=
  if parameter.takesValue && value.isNone then .error .invalidValue
  else if !parameter.repeatable && (state.given.lookup parameter.name).isSome then .error .repeated
  else
    match value.bind parameter.problem? with
    | some problem => .error problem
    | none => .ok { state with given := state.given ++ [(parameter.name, value.getD [])] }

def settle (state : FormState) : Except UsageError FormState :=
  match state.pending with
  | some (parameter, value) => { state with pending := none }.accept parameter value
  | none => .ok state

def place (state : FormState) (text : Text) : Except UsageError FormState :=
  match state.places with
  | [] => .error .unknownArgument
  | parameter :: places => do
    let state ← state.settle
    return { state with pending := some (parameter, some text), places := places }

def option (state : FormState) (parameter : Parameter) (value : Option Text) :
    Except UsageError FormState :=
  if parameter.takesValue then do
    let state ← state.settle
    if value.isSome then state.accept parameter value
    else return { state with pending := some (parameter, none) }
  else if value.isSome then .error .unneededValue
  else do (← state.settle).accept parameter none

/-- Help is shown once the arguments before it are right. -/
def help (state : FormState) : Except UsageError FormState := do
  discard state.settle
  .error .help

def read (options : List Parameter) (state : FormState) (text : Text) : Except UsageError FormState :=
  if state.escaped then state.place text
  else
    match Argument.ofText text with
    | .escape => .ok { state with escaped := true }
    | .long name value =>
      if name = "help".toList then if value.isSome then .error .unneededValue else state.help
      else
        match options.find? (·.name == name) with
        | some parameter => state.option parameter value
        | none => .error .unknownArgument
    | .short letter => if letter = 'h' then state.help else .error .unknownArgument
    | .plain text =>
      match state.pending with
      | some (parameter, none) => .ok { state with pending := some (parameter, some text) }
      | _ => state.place text

end FormState

namespace Form

def parse (form : Form) (arguments : List Text) : Except UsageError Invocation := do
  let state ← arguments.foldlM (FormState.read form.options) ⟨[], none, form.places, false⟩
  let state ← state.settle
  if state.places.isEmpty then return ⟨[], state.given⟩ else .error .missing

end Form

namespace Grammar

def commands : Grammar → List (Text × Grammar)
  | .form _ => []
  | .menu _ commands => commands

def isMenu : Grammar → Bool
  | .form _ => false
  | .menu _ _ => true

def helpOn : (names : List Text) → Grammar → UsageError
  | [], _ => .help
  | name :: names, grammar =>
    match grammar.commands.lookup name with
    | some inner => helpOn names inner
    | none =>
      if grammar.isMenu && name == "help".toList && names.isEmpty then .help else .unknownCommand

def menuOption (tellsVersion : Bool) (name : Text) (value : Option Text) : UsageError :=
  if name = "help".toList then if value.isSome then .unneededValue else .help
  else if tellsVersion && name == "version".toList then
    if value.isSome then .unneededValue else .version
  else .unknownArgument

def menuLetter (tellsVersion : Bool) (letter : Char) : UsageError :=
  if letter = 'h' then .help else if tellsVersion && letter == 'V' then .version else .unknownArgument

/-- Reads a command line. In a menu, a command cannot follow two dashes. Values are looked at one argument
late: what is wrong with an unknown argument is reported before what is wrong with the value in front of
it. -/
def parse : Grammar → (arguments : List Text) → (escaped : Bool) → Except UsageError Invocation
  | .form shape, arguments, _ => shape.parse arguments
  | .menu _ _, [], _ => .error .nothingGiven
  | .menu tellsVersion commands, text :: arguments, escaped =>
    match commands.lookup text, text == "help".toList with
    | none, false =>
      if escaped then .error .unknownCommand
      else
        match Argument.ofText text with
        | .escape => parse (.menu tellsVersion commands) arguments true
        | .long name value => .error (menuOption tellsVersion name value)
        | .short letter => .error (menuLetter tellsVersion letter)
        | .plain _ => .error .unknownCommand
    | some inner, _ =>
      if escaped then .error .unknownArgument
      else (parse inner arguments false).map (·.within text)
    | none, true =>
      if escaped then .error .unknownArgument
      else .error (helpOn arguments (.menu tellsVersion commands))

end Grammar

end RouteAtlas
