import RouteAtlas.Disk.Host
import RouteAtlas.Disk.IgnoreRules
import RouteAtlas.PathFilter

namespace RouteAtlas

structure DirectoryRules where
  /-- Rules that always count. -/
  plain : IgnoreRules
  /-- Rules of version control. -/
  shared : IgnoreRules
  /-- Rules of the local copy of the repository. -/
  unshared : IgnoreRules
  isRepository : Bool

namespace DirectoryRules

def rulesAt (tree : FileTree) (names : List Text) : IgnoreRules :=
  match tree.at? names with
  | some (.file content _) => .ofLines content.lines
  | _ => []

/--
The shared directory of a repository with several working copies, as its files point to it. A pointer
may be relative to the directory it stands in.
-/
def commonDirectory? (host : Host) (directory : Path) (pointer : Content) : Option Path := do
  let first ← pointer.lines.head?
  let place := directory.append (← Text.after? "gitdir: ".toList first)
  let link ← (host.lines (place.append "commondir")).head?
  return if link.head? = some '.' then place.append link else ⟨link⟩

def unsharedRules (host : Host) (path : Path) (directory : FileTree) : IgnoreRules :=
  match directory.child? ".git" with
  | some (.file pointer _) =>
    match commonDirectory? host path pointer with
    | some common => .ofLines (host.lines (common.append "info/exclude"))
    | none => []
  | some git => rulesAt git ["info", "exclude"]
  | none => []

def ofDirectory (host : Host) (path : Path) (directory : FileTree) : DirectoryRules where
  plain := rulesAt directory [".ignore"]
  shared := rulesAt directory [".gitignore"]
  unshared := unsharedRules host path directory
  isRepository := (directory.child? ".git").isSome || (directory.child? ".jj").isSome

def upToRepository : List DirectoryRules → List DirectoryRules
  | [] => []
  | rules :: above => if rules.isRepository then [rules] else rules :: upToRepository above

/--
The verdict of the nearest directory whose rules settle it. The relative path grows by one of the names
above from directory to directory.
-/
def nearest (part : DirectoryRules → IgnoreRules) (isDirectory : Bool) :
    List DirectoryRules → (names : List Text) → (relative : Text) → Verdict
  | [], _, _ => .unsettled
  | rules :: above, names, relative =>
    let verdict := (part rules).verdict relative isDirectory
    match names with
    | [] => verdict
    | name :: names => verdict.orElse (nearest part isDirectory above names (name ++ '/' :: relative))

end DirectoryRules

/-- The user's own ignore rules, for paths below the working directory. -/
structure UserRules where
  rules : IgnoreRules
  base : Path

namespace UserRules

def ofHost (host : Host) : UserRules :=
  match host.excludesFile? with
  | some file => ⟨if host.hasFile file then .ofLines (host.lines file) else [], host.workingDirectory⟩
  | none => ⟨[], host.workingDirectory⟩

/-- A path below the working directory without it. Other paths are left as they are. -/
def relative (user : UserRules) (path : Path) : Text :=
  match Text.after? user.base.spelling path.spelling with
  | some ('/' :: rest) => rest
  | some rest => rest
  | none => path.spelling

def verdict (user : UserRules) (path : Path) (isDirectory : Bool) : Verdict :=
  user.rules.verdict (user.relative path) isDirectory

end UserRules

structure WalkPlace where
  path : Path
  /-- The names on the way to the directory, the last one first. -/
  names : List Text
  /-- The rules of the directory and of those above it, nearest first. -/
  rules : List DirectoryRules

namespace WalkPlace

def verdict (place : WalkPlace) (user : UserRules) (name : Text) (isDirectory : Bool) : Verdict :=
  let always := DirectoryRules.nearest (·.plain) isDirectory place.rules place.names name
  if place.rules.any (·.isRepository) then
    let repository := DirectoryRules.upToRepository place.rules
    always.orElse <|
      (DirectoryRules.nearest (·.shared) isDirectory repository place.names name).orElse <|
        (DirectoryRules.nearest (·.unshared) isDirectory repository place.names name).orElse <|
          user.verdict (place.path.append name) isDirectory
  else always

def visits (place : WalkPlace) (user : UserRules) (name : Text) (isDirectory : Bool) : Bool :=
  match place.verdict user name isDirectory with
  | .ignored => false
  | .kept => !(isDirectory && dependencyDirectories.contains name)
  | .unsettled => !isHidden name && !(isDirectory && dependencyDirectories.contains name)

def child (place : WalkPlace) (host : Host) (name : Text) (directory : FileTree) : WalkPlace :=
  let names := name :: place.names
  ⟨place.path.append name, names,
    .ofDirectory host (FileTree.pathOf names.reverse) directory :: place.rules⟩

end WalkPlace

mutual

def walkChild (host : Host) (user : UserRules) (place : WalkPlace) (name : Text) :
    FileTree → List Path
  | .file _ _ => if place.visits user name false then [place.path.append name] else []
  | .directory children =>
    if place.visits user name true then
      walkChildren host user (place.child host name (.directory children)) children
    else []

def walkChildren (host : Host) (user : UserRules) (place : WalkPlace) :
    List (Text × FileTree) → List Path
  | [] => []
  | (name, tree) :: children =>
    walkChild host user place name tree ++ walkChildren host user place children

end

namespace Host

/--
The rules of the directories on the way to a list of names, the nearest one first. `passed` are the names
on the way to the tree, the last one first.
-/
def rulesAlong (host : Host) (passed : List Text) :
    (tree : FileTree) → (names : List Text) → List DirectoryRules
  | tree, [] => [.ofDirectory host (FileTree.pathOf passed.reverse) tree]
  | tree, name :: names =>
    (match tree.child? name with
      | some child => rulesAlong host (name :: passed) child names
      | none => []) ++ [.ofDirectory host (FileTree.pathOf passed.reverse) tree]

/-- The files that a walk from a path finds. The path itself is always visited. -/
def walk (host : Host) (root : Path) : List Path :=
  match host.resolve root with
  | .error _ => []
  | .ok names =>
    match host.tree.at? names with
    | some (.directory children) =>
      walkChildren host (.ofHost host) ⟨root, names.reverse, host.rulesAlong [] host.tree names⟩ children
    | some (.file _ _) => [root]
    | none => []

def discover (host : Host) (root : Path) (filter : PathFilter) (extensions : List Text) : List Path :=
  ((host.walk root).filter fun path =>
    path.extension?.any extensions.contains && filter.allows root path).mergeSort Path.le

def source (host : Host) (root : Path) (filter : PathFilter) : Source where
  list := host.discover root filter
  modified := host.modified
  read := host.readText
  accepts := filter.accepts root

end Host

end RouteAtlas
