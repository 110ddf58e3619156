import RouteAtlas.Disk.Host
import RouteAtlas.Settings.Resolved

namespace RouteAtlas

namespace IgnoreList

def fileName : Text := ".routescanignore"

/-- The pattern on a line. A directory stands for everything below it. -/
def patternOf (line : Text) : Text :=
  if line.getLast? = some '/' then line.dropLast ++ ['/', '*', '*'] else line

def patterns (text : Text) : List Text :=
  (((Text.lines text).map Text.trim).filter fun line =>
    !line.isEmpty && line.head? != some '#').map patternOf

end IgnoreList

namespace Host

def nearest? (host : Host) (directory : Path) (name : Text) : Option Path :=
  (directory.ancestors.map (·.append name)).find? host.hasFile

/-- The patterns of the nearest ignore list. One that cannot be read has none. -/
def ignoreList (host : Host) (directory : Path) : List Text :=
  match host.nearest? directory IgnoreList.fileName with
  | some path =>
    match host.readText path with
    | .ok text => IgnoreList.patterns text
    | .error _ => []
  | none => []

def userFile? (host : Host) : Option Path :=
  (host.configHome.map (·.append "routescan/config.toml")).filter host.hasFile

def projectFile? (host : Host) (directory : Path) : Option Path :=
  host.nearest? directory ".routescan.toml"

def fileLayer (host : Host) (name : Text) (origin : Origin) (path : Path) :
    Except SettingsError Layer :=
  match host.readText path with
  | .error _ => .error (.unreadable name path)
  | .ok text =>
    match SettingsFile.parse? text with
    | some file => Layer.ofFile file origin
    | none => .error (.malformed name)

def fileLayers (host : Host) (name : Text) (origin : Path → Origin) (path? : Option Path) :
    Except SettingsError (List Layer) :=
  match path? with
  | some path => do return [← host.fileLayer name (origin path) path]
  | none => .ok []

def layers (host : Host) (directory : Path) (overrides : Overrides) :
    Except SettingsError (List Layer) := do
  let user ← host.fileLayers "user" .userFile host.userFile?
  let project ← host.fileLayers "project" .projectFile (host.projectFile? directory)
  let environment ← Layer.ofEnvironment host.environment?
  return user ++ project ++ [environment, overrides.layer]

def settings (host : Host) (directory : Path) (overrides : Overrides) :
    Except SettingsError Settings := do
  let layers ← host.layers directory overrides
  let settings := layers.foldl Settings.under Settings.default
  if settings.debounce = 0 then
    .error (.zeroDebounce ((settings.provenance.get? SettingKey.debounce.name).getD .default))
  else
    return { settings with
      ignored := host.ignoreList directory
      loaded := host.userFile?.toList ++ (host.projectFile? directory).toList }

end Host

end RouteAtlas
