import RouteAtlas.Toml.Document

namespace RouteAtlas

structure SettingsFile where
  format : Option Text
  quiet : Option Bool
  includeTests : Option Bool
  wanted : List Text
  unwanted : List Text
  frameworks : Option (List Text)
  debounce : Option Nat
deriving DecidableEq, Repr

namespace Toml

inductive Parts where
  | named (entries : Entries)
  | ordered (items : List Node)

namespace Node

/-- The parts of a section. A date has no parts of its own. -/
def parts? : Node → Option Parts
  | .table _ entries => some (.named entries)
  | .date _ => some (.named [])
  | .list items => some (.ordered items)
  | .tables items => some (.ordered (items.map (.table .header)))
  | _ => none

def text? : Node → Option Text
  | .text value => some value
  | _ => none

def flag? : Node → Option Bool
  | .boolean value => some value
  | _ => none

def count? : Node → Option Nat
  | .integer (.ofNat value) => some value
  | _ => none

def texts? : Node → Option (List Text)
  | .list items => items.mapM text?
  | _ => none

end Node

namespace Parts

variable {α : Type}

/-- A part that may be missing by name but not in order. A part of the wrong kind is refused. -/
def field? (parts : Parts) (name : Text) (place : Nat) (read : Node → Option α) :
    Option (Option α) :=
  match parts with
  | .named entries =>
    match entries.lookup name with
    | some node => (read node).map some
    | none => some none
  | .ordered items => ((items.drop place).head?).bind fun node => (read node).map some

def listField? (parts : Parts) (name : Text) (place : Nat) : Option (List Text) :=
  match parts with
  | .named entries => ((entries.lookup name).map Node.texts?).getD (some [])
  | .ordered items => ((items.drop place).head?.map Node.texts?).getD (some [])

end Parts

/-- The parts of a section of a document. A missing section has none. -/
def Entries.section? (entries : Entries) (name : Text) : Option Parts :=
  match entries.lookup name with
  | some node => node.parts?
  | none => some (.named [])

end Toml

namespace SettingsFile

def sections : List Text := ["defaults", "targeting", "frameworks", "watch"]

def ofEntries? (entries : Toml.Entries) : Option SettingsFile := do
  guard (entries.all fun (key, _) => sections.contains key)
  let defaults ← entries.section? "defaults"
  let targeting ← entries.section? "targeting"
  let frameworks ← entries.section? "frameworks"
  let watch ← entries.section? "watch"
  return {
    format := ← defaults.field? "format" 0 Toml.Node.text?
    quiet := ← defaults.field? "quiet" 1 Toml.Node.flag?
    includeTests := ← defaults.field? "include_tests" 2 Toml.Node.flag?
    wanted := ← targeting.listField? "include" 0
    unwanted := ← targeting.listField? "exclude" 1
    frameworks := ← frameworks.field? "enabled" 0 Toml.Node.texts?
    debounce := ← watch.field? "debounce_ms" 0 Toml.Node.count? }

def parse? (text : Text) : Option SettingsFile := (Toml.parse? text).bind ofEntries?

end SettingsFile

end RouteAtlas
