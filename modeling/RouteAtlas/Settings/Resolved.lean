import RouteAtlas.Settings.Layer
import RouteAtlas.Text.Printable

namespace RouteAtlas

structure Settings where
  format : ReportFormat
  quiet : Bool
  includeTests : Bool
  wanted : List Text
  unwanted : List Text
  ignored : List Text
  frameworks : List Framework
  /-- In milliseconds. -/
  debounce : Nat
  loaded : List Path
  provenance : Provenance
deriving DecidableEq, Repr

namespace Settings

def default : Settings where
  format := .text
  quiet := false
  includeTests := false
  wanted := []
  unwanted := []
  ignored := []
  frameworks := Framework.extracted
  debounce := 250
  loaded := []
  provenance := .ofEntries (SettingKey.all.map fun key => (key.name, .default))

def trace (layer : Layer) (provenance : Provenance) : Provenance :=
  (SettingKey.all.filter layer.gives).foldl
    (fun provenance key => provenance.set key.name (layer.origin key)) provenance

def under (settings : Settings) (layer : Layer) : Settings :=
  { settings with
    format := layer.format.getD settings.format
    quiet := layer.quiet.getD settings.quiet
    includeTests := layer.includeTests.getD settings.includeTests
    wanted := layer.wanted.getD settings.wanted
    unwanted := layer.unwanted.getD settings.unwanted
    frameworks := layer.frameworks.getD settings.frameworks
    debounce := layer.debounce.getD settings.debounce
    provenance := trace layer settings.provenance }

def unwantedPatterns (settings : Settings) : List Text := settings.unwanted ++ settings.ignored

def flagText (flag : Bool) : Text := if flag then "true" else "false"

def valueText (settings : Settings) : SettingKey → Text
  | .format => settings.format.tag
  | .quiet => flagText settings.quiet
  | .includeTests => flagText settings.includeTests
  | .wanted => Quoted.encodeList settings.wanted
  | .unwanted => Quoted.encodeList settings.unwanted
  | .frameworks => Quoted.encodeList (settings.frameworks.map (·.tag))
  | .debounce => Text.ofNat settings.debounce

def valueOf (settings : Settings) (name : Text) : Text :=
  match SettingKey.ofName? name with
  | some key => settings.valueText key
  | none => "(unknown)"

def fileLines (settings : Settings) : List Text :=
  if settings.loaded.isEmpty then ["Loaded config files: (none)"]
  else "Loaded config files:" :: settings.loaded.zipIdx.map fun (path, place) =>
    "  ".toList ++ Text.ofNat (place + 1) ++ ". ".toList ++ path.spelling

def valueLines (settings : Settings) : List Text :=
  "Resolved settings:" :: settings.provenance.map fun (key, origin) =>
    "  ".toList ++ key ++ ": ".toList ++ settings.valueOf key ++ " <- ".toList ++ origin.text

def ignoreLines (settings : Settings) : List Text :=
  if settings.ignored.isEmpty then []
  else [] :: "Ignore file patterns:".toList :: settings.ignored.map ("  ".toList ++ ·)

def render (settings : Settings) : Text :=
  (settings.fileLines ++ [[]] ++ settings.valueLines ++ settings.ignoreLines).flatMap (· ++ ['\n'])

end Settings

end RouteAtlas
