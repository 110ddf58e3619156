import RouteAtlas.CommandLine.Grammar
import RouteAtlas.Settings.Layer

namespace RouteAtlas

inductive Command where
  | scan (path : Path) (overrides : Overrides)
  | search (query : Text) (path : Path) (overrides : Overrides)
  | watch (path : Path) (query : Option Text) (overrides : Overrides)
  | showSettings (path : Option Path)
deriving DecidableEq, Repr

namespace Command

def anyValue (_ : Text) : Option UsageError := none

def pathProblem? (value : Text) : Option UsageError :=
  if value.isEmpty then some .invalidValue else none

def formatProblem? (value : Text) : Option UsageError :=
  if (ReportFormat.ofTag? value).isNone then some .invalidValue else none

def frameworkProblem? (value : Text) : Option UsageError :=
  if (Framework.ofName? value).isNone then some .refusedValue else none

def debounceProblem? (value : Text) : Option UsageError :=
  if (Text.unsigned? value).isNone then some .refusedValue else none

def single (name : Text) (problem? : Text → Option UsageError) : Parameter :=
  ⟨name, true, false, problem?⟩

def several (name : Text) (problem? : Text → Option UsageError) : Parameter :=
  ⟨name, true, true, problem?⟩

def switch (name : Text) : Parameter := ⟨name, false, false, anyValue⟩

def scanOptions : List Parameter :=
  [single "format" formatProblem?, several "framework" frameworkProblem?,
    several "include" anyValue, several "exclude" anyValue, switch "include-tests", switch "quiet"]

def pathPlace : Parameter := single "path" pathProblem?

def grammar : Grammar :=
  .menu true [
    ("scan", .form ⟨[pathPlace], scanOptions⟩),
    ("search", .form ⟨[single "query" anyValue, pathPlace], scanOptions⟩),
    ("watch", .form ⟨[pathPlace],
      [single "query" anyValue, single "debounce-ms" debounceProblem?] ++ scanOptions⟩),
    ("config", .menu false [("show", .form ⟨[], [single "path" pathProblem?]⟩)])]

def overridesOf (invocation : Invocation) : Overrides where
  format := (invocation.value? "format").bind ReportFormat.ofTag?
  quiet := invocation.has "quiet"
  includeTests := invocation.has "include-tests"
  wanted := invocation.values "include"
  unwanted := invocation.values "exclude"
  frameworks := (invocation.values "framework").filterMap Framework.ofName?
  debounce := (invocation.value? "debounce-ms").bind Text.unsigned?

def ofInvocation? (invocation : Invocation) : Option Command :=
  let overrides := overridesOf invocation
  let path? := (invocation.value? "path").map Path.mk
  let query? := invocation.value? "query"
  match invocation.command.map String.ofList with
  | ["scan"] => path?.map (.scan · overrides)
  | ["search"] => do return .search (← query?) (← path?) overrides
  | ["watch"] => path?.map (.watch · query? overrides)
  | ["config", "show"] => some (.showSettings path?)
  | _ => none

def parse (arguments : List Text) : Except UsageError Command := do
  let invocation ← grammar.parse arguments false
  match ofInvocation? invocation with
  | some command => .ok command
  | none => .error .nothingGiven

end Command

end RouteAtlas
