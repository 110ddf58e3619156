import RouteAtlas.Disk.ExcludesSetting
import RouteAtlas.Disk.Tree

namespace RouteAtlas

structure Host where
  tree : FileTree
  workingDirectory : Path
  home : Option Path
  configHome : Option Path
  exported : List (Text × Text)

namespace Host

def absolute (host : Host) (path : Path) : Path :=
  if path.spelling.isEmpty then path else host.workingDirectory.append path.spelling

def environment? (host : Host) (name : Text) : Option Text := host.exported.lookup name

def pathLimit : Nat := 4096

/-- True for paths that hold the character that ends paths. -/
def endsEarly (path : Path) : Bool := path.spelling.any (· == '\x00')

def resolve (host : Host) (path : Path) : Except Fault (List Text) :=
  if endsEarly path then .error .endedEarly
  else if pathLimit ≤ Text.byteSize path.spelling then .error .tooLong
  else host.tree.resolve (host.absolute path)

def get (host : Host) (path : Path) : Except Fault FileTree := do
  match host.tree.at? (← host.resolve path) with
  | some node => .ok node
  | none => .error .missing

def hasPath (host : Host) (path : Path) : Bool := (host.resolve path).toBool

def hasFile (host : Host) (path : Path) : Bool :=
  match host.get path with
  | .ok node => node.isFile
  | .error _ => false

def modified (host : Host) (path : Path) : Except Fault Stamp := (host.get path).map (·.stamp)

def content (host : Host) (path : Path) : Except Fault Content := do
  match ← host.get path with
  | .file content _ => .ok content
  | .directory _ => .error .isDirectory

def readText (host : Host) (path : Path) : Except Fault Text := do
  match ← host.content path with
  | .text content => .ok content
  | .garbled _ => .error .notText

def lines (host : Host) (path : Path) : List Text :=
  match host.content path with
  | .ok content => content.lines
  | .error _ => []

def eraseFile? (host : Host) (path : Path) : Option FileTree :=
  match host.resolve path with
  | .ok names =>
    if (host.tree.at? names).any (·.isFile) then some (host.tree.erase names) else none
  | .error _ => none

/-- The absolute path without detours. The path may be of any length. -/
def canonical (host : Host) (path : Path) : Except Fault Path :=
  if endsEarly path then .error .endedEarly else host.tree.canonical (host.absolute path)

def expandHome (host : Host) (path : Text) : Text :=
  match host.home with
  | some home => path.flatMap fun c => if c = '~' then home.spelling else [c]
  | none => path

def excludesIn? (host : Host) (settings : Path) : Option Path :=
  match host.content settings with
  | .ok content => (ExcludesSetting.read? content.bytes).map fun path => ⟨host.expandHome path⟩
  | .error _ => none

def excludesFile? (host : Host) : Option Path :=
  (host.home.bind fun home => host.excludesIn? (home.append ".gitconfig")) <|>
    (host.configHome.bind fun home => host.excludesIn? (home.append "git/config")) <|>
    host.configHome.map (·.append "git/ignore")

end Host

end RouteAtlas
