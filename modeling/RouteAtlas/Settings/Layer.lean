import RouteAtlas.Endpoint
import RouteAtlas.Settings.File
import RouteAtlas.Settings.Key
import RouteAtlas.Settings.Origin
import RouteAtlas.Text.Basic

namespace RouteAtlas

inductive ReportFormat where
  | text
  | json
deriving DecidableEq, Repr

namespace ReportFormat

def tag : ReportFormat → Text
  | .text => "text"
  | .json => "json"

def ofTag? (name : Text) : Option ReportFormat := [ReportFormat.text, .json].find? (·.tag == name)

def ofName? (name : Text) : Option ReportFormat := ofTag? (Text.lowerBasic (Text.trim name))

end ReportFormat

inductive SettingsError where
  | unreadable (layer : Text) (path : Path)
  | malformed (layer : Text)
  | badFormat (value : Text) (origin : Origin)
  | badFramework (name : Text) (origin : Origin)
  | badDebounce (value : Text) (origin : Origin)
  | zeroDebounce (origin : Origin)
  | badPath (path : Path)
deriving DecidableEq, Repr

namespace SettingsError

def quoted (value : Text) : Text := '\'' :: value ++ ['\'']

def message : SettingsError → Text
  | .unreadable layer path =>
    "Could not read ".toList ++ layer ++ " config: ".toList ++ path.spelling
  | .malformed layer => "Invalid ".toList ++ layer ++ " config".toList
  | .badFormat value origin =>
    "Invalid format ".toList ++ quoted value ++ " in ".toList ++ origin.text ++
      ": expected json or text".toList
  | .badFramework name origin => Framework.unsupported name ++ " in ".toList ++ origin.text
  | .badDebounce value origin =>
    "Invalid debounce ".toList ++ quoted value ++ " in ".toList ++ origin.text ++
      ": expected milliseconds".toList
  | .zeroDebounce origin =>
    "Invalid debounce 0 in ".toList ++ origin.text ++ ": expected at least 1 millisecond".toList
  | .badPath path => "Invalid path: ".toList ++ path.spelling

end SettingsError

structure Layer where
  format : Option ReportFormat
  quiet : Option Bool
  includeTests : Option Bool
  wanted : Option (List Text)
  unwanted : Option (List Text)
  /-- Frameworks with an extractor, by priority. -/
  frameworks : Option (List Framework)
  /-- In milliseconds. -/
  debounce : Option Nat
  origin : SettingKey → Origin

namespace Layer

def gives (layer : Layer) : SettingKey → Bool
  | .format => layer.format.isSome
  | .quiet => layer.quiet.isSome
  | .includeTests => layer.includeTests.isSome
  | .wanted => layer.wanted.isSome
  | .unwanted => layer.unwanted.isSome
  | .frameworks => layer.frameworks.isSome
  | .debounce => layer.debounce.isSome

/-- A list counts as given unless it is empty. -/
def nonempty {α : Type} (items : List α) : Option (List α) :=
  if items.isEmpty then none else some items

/-- A flag counts as given when it is set. -/
def raised (flag : Bool) : Option Bool := if flag then some true else none

def readFormat (origin : Origin) (value : Text) : Except SettingsError ReportFormat :=
  match ReportFormat.ofName? value with
  | some format => .ok format
  | none => .error (.badFormat value origin)

def readFrameworks (origin : Origin) (names : List Text) : Except SettingsError (List Framework) := do
  let frameworks ← names.mapM fun name =>
    match Framework.ofName? name with
    | some framework => .ok framework
    | none => .error (.badFramework name origin)
  return Framework.byPriority frameworks

/-- Reads a number of milliseconds, blanks around it ignored. -/
def readDebounce (origin : Origin) (value : Text) : Except SettingsError Nat :=
  match Text.unsigned? (Text.trim value) with
  | some milliseconds => .ok milliseconds
  | none => .error (.badDebounce value origin)

/-- Reads a truth value. Everything but one and true is false. -/
def readFlag (value : Text) : Bool := value == ['1'] || Text.lowerBasic value == "true".toList

def readList (value : Text) : List Text :=
  ((Text.splitOn ',' value).map Text.trim).filter (!·.isEmpty)

def given {α β : Type} (read : α → Except SettingsError β) :
    Option α → Except SettingsError (Option β)
  | some value => some <$> read value
  | none => .ok none

def ofFile (file : SettingsFile) (origin : Origin) : Except SettingsError Layer := do
  let format ← given (readFormat origin) file.format
  let frameworks ← given (readFrameworks origin) file.frameworks
  return {
    format, frameworks
    quiet := file.quiet
    includeTests := file.includeTests
    wanted := nonempty file.wanted
    unwanted := nonempty file.unwanted
    debounce := file.debounce
    origin := fun _ => origin }

def environmentOrigin (key : SettingKey) : Origin := .environment key.environmentName

/-- The layer of the environment. A variable counts as given even if it is empty. -/
def ofEnvironment (lookup? : Text → Option Text) : Except SettingsError Layer := do
  let value? := fun (key : SettingKey) => lookup? key.environmentName
  let format ← given (readFormat (environmentOrigin .format)) (value? .format)
  let frameworks ← given (fun value => readFrameworks (environmentOrigin .frameworks)
    (readList value)) (value? .frameworks)
  let debounce ← given (readDebounce (environmentOrigin .debounce)) (value? .debounce)
  return {
    format, frameworks, debounce
    quiet := (value? .quiet).map readFlag
    includeTests := (value? .includeTests).map readFlag
    wanted := (value? .wanted).map readList
    unwanted := (value? .unwanted).map readList
    origin := environmentOrigin }

end Layer

structure Overrides where
  format : Option ReportFormat
  quiet : Bool
  includeTests : Bool
  wanted : List Text
  unwanted : List Text
  frameworks : List Framework
  debounce : Option Nat
deriving DecidableEq, Repr

namespace Overrides

def none : Overrides := ⟨.none, false, false, [], [], [], .none⟩

def layer (overrides : Overrides) : Layer where
  format := overrides.format
  quiet := Layer.raised overrides.quiet
  includeTests := Layer.raised overrides.includeTests
  wanted := Layer.nonempty overrides.wanted
  unwanted := Layer.nonempty overrides.unwanted
  frameworks := (Layer.nonempty overrides.frameworks).map Framework.byPriority
  debounce := overrides.debounce
  origin key := .commandLine key.flag

end Overrides

end RouteAtlas
