import RouteAtlas.Program

namespace RouteAtlas.Main

def steeringFiles : List String := [".ignore", ".gitignore", ".routescan.toml", ".routescanignore"]

def hasContent (name : String) : Bool :=
  steeringFiles.contains name || Catalogue.full.handles ⟨name.toList⟩

def readContent (path : String) : IO Content := do
  try
    return .ofBytes (← IO.FS.readBinFile path).toList
  catch _ => return .garbled [0xFF]

def readFile (path : String) (withContent : Bool) : IO FileTree := do
  let place := (← IO.currentDir) / path
  let time := (← place.metadata).modified
  let content ← if withContent then readContent path else pure (.text [])
  return .file content (time.sec.toNat * 1000000000 + time.nsec.toNat)

/-- Reads what is below a path. Links are not followed, and directories of foreign code stay empty. -/
partial def readTree (path : String) : IO FileTree := do
  let place := (← IO.currentDir) / path
  if ← place.isDir then
    let mut children : List (Text × FileTree) := []
    for item in ← place.readDir do
      let name := item.fileName
      let kind := (← item.path.symlinkMetadata).type
      let inner := path ++ "/" ++ name
      if kind matches .dir then
        let child ← if dependencyDirectories.contains name.toList then pure FileTree.empty
          else readTree inner
        children := (name.toList, child) :: children
      else if kind matches .file then
        children := (name.toList, ← readFile inner (hasContent name)) :: children
    return .directory children
  else readFile path true

def addFile (tree : FileTree) (path : String) : IO FileTree := do
  let place := (← IO.currentDir) / path
  if (← place.pathExists) && !(← place.isDir) then
    return tree.putAt ⟨path.toList⟩ (← readFile path true)
  else return tree

def addSteering (tree : FileTree) (directory : String) : IO FileTree := do
  let mut tree := tree.makeDirectoryAt ⟨directory.toList⟩
  for name in steeringFiles ++ [".git", ".git/info/exclude"] do
    tree ← addFile tree (directory ++ "/" ++ name)
  for name in [".git", ".jj"] do
    let inner := directory ++ "/" ++ name
    if ← ((← IO.currentDir) / inner).isDir then
      tree := tree.makeDirectoryAt ⟨inner.toList⟩
  return tree

def directoryVariable (name : String) : IO (Option String) := do
  return (← IO.getEnv name).filter (!·.isEmpty)

def readVariables : IO (List (Text × Text)) := do
  let mut found := []
  for key in SettingKey.all do
    if let some value ← IO.getEnv (String.ofList key.environmentName) then
      found := (key.environmentName, value.toList) :: found
  return found

def readHost (target : String) : IO Host := do
  let current := (← IO.currentDir).toString
  let home ← directoryVariable "HOME"
  let configHome := (← directoryVariable "XDG_CONFIG_HOME") <|> home.map (· ++ "/.config")
  let mut tree := FileTree.empty.makeDirectoryAt ⟨current.toList⟩
  tree := tree.putAt ⟨target.toList⟩ (← readTree target)
  for directory in Path.above target.length ⟨target.toList⟩ do
    tree ← addSteering tree (String.ofList directory.spelling)
  for file in home.toList.map (· ++ "/.gitconfig") ++ configHome.toList.flatMap (fun directory =>
      [directory ++ "/routescan/config.toml", directory ++ "/git/config", directory ++ "/git/ignore"]) do
    tree ← addFile tree file
  let host : Host := ⟨tree, ⟨current.toList⟩, home.map fun path => ⟨path.toList⟩,
    configHome.map fun path => ⟨path.toList⟩, ← readVariables⟩
  match host.excludesFile? with
  | some file => return { host with tree := ← addFile tree (String.ofList (host.absolute file).spelling) }
  | none => return host

def pathOf : Command → Path
  | .scan path _ => path
  | .search _ path _ => path
  | .watch path _ _ => path
  | .showSettings path => path.getD ⟨['.']⟩

def withPath (path : Path) : Command → Command
  | .scan _ overrides => .scan path overrides
  | .search query _ overrides => .search query path overrides
  | .watch _ query overrides => .watch path query overrides
  | .showSettings _ => .showSettings (some path)

def realPath? (path : Path) : IO (Option String) := do
  try
    let place ← IO.FS.realPath (String.ofList path.spelling)
    if ← place.pathExists then return some place.toString else return none
  catch _ => return none

def fail (failure : Failure) : IO UInt32 := do
  IO.eprintln (String.ofList failure.message)
  return failure.status

partial def follow (session : Session) (report : ScanReport) (query : Option Text) : IO UInt32 := do
  IO.sleep (UInt32.ofNat session.settings.debounce)
  let host ← readHost (String.ofList session.root.spelling)
  let source := session.source host
  let listed := source.list session.index.catalogue.extensions
  let gone := (session.index.snapshot.entries.map (·.path)).filter fun path =>
    !listed.any (·.same path)
  let events := gone.map FileEvent.removed ++ listed.map FileEvent.changed
  let index := events.foldl (fun index event => (index.apply source event).1) session.index
  let session := { session with index := index }
  if (index.signals.live? 0).any (·.pending) then
    let current := { report with
      matched := index.snapshot.entries.length
      endpointCount := index.endpoints.length
      tally := index.snapshot.tally }
    match session.render current query 0 with
    | .ok output => IO.print (String.ofList output)
    | .error failure => return ← fail failure
  follow { session with index := { index with signals := index.signals.take 0 } } report query

def watch (host : Host) (path : Path) (query : Option Text) (overrides : Overrides) : IO UInt32 := do
  match Session.prepare host path overrides with
  | .error failure => fail failure
  | .ok session =>
    let (session, report) := session.scan host
    match session.render report query 0 with
    | .error failure => fail failure
    | .ok output =>
      IO.print (String.ofList output)
      let index := { session.index with signals := session.index.signals.subscribe }
      follow { session with index := index } report query

def runCommand (command : Command) : IO UInt32 := do
  let started ← IO.monoMsNow
  let target ← realPath? (pathOf command)
  let command := (target.map fun path => withPath ⟨path.toList⟩ command).getD command
  let host ← readHost (target.getD (← IO.currentDir).toString)
  if let .watch path query overrides := command then return ← watch host path query overrides
  match Program.run host ((← IO.monoMsNow) - started) command with
  | .ok printed =>
    IO.print (String.ofList printed.output)
    IO.eprint (String.ofList printed.remarks)
    return 0
  | .error failure => fail failure

def usage : String :=
  "Usage:\n  scan PATH [OPTIONS]\n  search QUERY PATH [OPTIONS]\n" ++
  "  watch PATH [--query QUERY] [--debounce-ms MS] [OPTIONS]\n  config show [--path PATH]\n" ++
  "Options:\n  --format text|json  --framework NAME  --include GLOB  --exclude GLOB\n" ++
  "  --include-tests  --quiet\n"

end RouteAtlas.Main

open RouteAtlas in
def main (arguments : List String) : IO UInt32 := do
  match Command.parse (arguments.map String.toList) with
  | .ok command => Main.runCommand command
  | .error .help =>
    IO.print Main.usage
    return 0
  | .error .version =>
    IO.println "0.1.0"
    return 0
  | .error _ =>
    IO.eprint Main.usage
    return 2
