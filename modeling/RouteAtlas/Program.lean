import RouteAtlas.CommandLine.Command
import RouteAtlas.Disk.Walk
import RouteAtlas.Index.Event
import RouteAtlas.Index.Scan
import RouteAtlas.Report.Document
import RouteAtlas.Settings.Resolve

namespace RouteAtlas

inductive Failure where
  | noFiles (path : Path)
  | settings (error : SettingsError)
  | glob (error : GlobError)
  /-- A column of the table is wider than can be printed. -/
  | wideTable
deriving DecidableEq, Repr

namespace Failure

def message : Failure → Text
  | .noFiles path => "No scannable files found in ".toList ++ path.spelling
  | .settings error => "Configuration error: ".toList ++ error.message
  | .glob error => error.message
  | .wideTable => "Formatting argument out of range"

def status : Failure → UInt32
  | .wideTable => 101
  | _ => 1

end Failure

structure Printed where
  output : Text
  remarks : Text
deriving DecidableEq, Repr

structure Session where
  root : Path
  settings : Settings
  filter : PathFilter
  index : Index

namespace Session

def prepare (host : Host) (path : Path) (overrides : Overrides) : Except Failure Session := do
  let root ← (host.canonical path).mapError fun _ => .noFiles path
  let settings ← (host.settings root overrides).mapError .settings
  let filter ← (PathFilter.compile settings.wanted settings.unwantedPatterns
    settings.includeTests).mapError .glob
  return ⟨root, settings, filter, .new (.ofFrameworks settings.frameworks)⟩

def source (session : Session) (host : Host) : Source := host.source session.root session.filter

def scan (session : Session) (host : Host) : Session × ScanReport :=
  let (index, report) := session.index.fullScan (session.source host)
  ({ session with index := index }, report)

def endpoints (session : Session) (query : Option Text) : List Endpoint :=
  match query with
  | some query => session.index.search query
  | none => session.index.endpoints

def render (session : Session) (report : ScanReport) (query : Option Text) (milliseconds : Nat) :
    Except Failure Text :=
  match session.settings.format with
  | .json => .ok (Document.render ⟨session.root, report, milliseconds, query⟩ (session.endpoints query))
  | .text =>
    match Table.render? session.root (session.endpoints query) with
    | some table => .ok table
    | none => .error .wideTable

def seconds (milliseconds : Nat) : Text :=
  let hundredths := (milliseconds + 5) / 10
  let places := Text.ofNat (hundredths % 100)
  Text.ofNat (hundredths / 100) ++ '.' :: (if places.length < 2 then '0' :: places else places) ++ ['s']

def summary (session : Session) (report : ScanReport) (query : Option Text) (milliseconds : Nat) : Text :=
  let matching := match query with
    | some query => " (".toList ++ Text.ofNat (session.endpoints (some query)).length ++
        " matching '".toList ++ query ++ "')".toList
    | none => []
  "Found ".toList ++ Text.ofNat report.endpointCount ++ " endpoints".toList ++ matching ++
    " in ".toList ++ Text.ofNat report.matched ++ " of ".toList ++ Text.ofNat report.listed ++
    " files in ".toList ++ seconds milliseconds ++ ['\n']

end Session

namespace Program

def list (host : Host) (path : Path) (query : Option Text) (overrides : Overrides)
    (milliseconds : Nat) : Except Failure Printed := do
  let session ← Session.prepare host path overrides
  let (session, report) := session.scan host
  if report.listed = 0 then .error (.noFiles session.root)
  else
    let output ← session.render report query milliseconds
    return ⟨output, if session.settings.quiet then [] else session.summary report query milliseconds⟩

def showSettings (host : Host) (path : Option Path) : Except Failure Printed := do
  let path := path.getD ⟨['.']⟩
  let directory ← (host.canonical path).mapError fun _ => .settings (.badPath path)
  let settings ← (host.settings directory .none).mapError .settings
  return ⟨settings.render, []⟩

def run (host : Host) (milliseconds : Nat) : Command → Except Failure Printed
  | .scan path overrides => list host path none overrides milliseconds
  | .search query path overrides => list host path (some query) overrides milliseconds
  | .watch path query overrides => list host path query overrides milliseconds
  | .showSettings path => showSettings host path

end Program

end RouteAtlas
