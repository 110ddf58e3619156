import RouteAtlas.Catalogue
import RouteAtlas.Endpoint
import RouteAtlas.Index.Signals
import RouteAtlas.Index.Snapshot

namespace RouteAtlas

inductive Outcome where
  | unchanged
  | updated
  | removed
  /-- There is no entry, and none was made. -/
  | skipped
deriving DecidableEq, Repr

structure Index where
  catalogue : Catalogue
  snapshot : Snapshot
  /-- How many snapshots have been published. -/
  version : Nat
  scansInFlight : Nat
  /-- Paths touched while a scan runs, in ascending order. -/
  touched : List Path
  generation : Nat
  signals : Signals

def insertPath (path : Path) : List Path → List Path
  | [] => [path]
  | head :: tail =>
    match path.compare head with
    | .lt => path :: head :: tail
    | .eq => head :: tail
    | .gt => head :: insertPath path tail

namespace Index

def new (catalogue : Catalogue) : Index := ⟨catalogue, .empty, 0, 0, [], 0, .empty⟩

def endpoints (index : Index) : List Endpoint := index.snapshot.endpoints

def search (index : Index) (query : Text) : List Endpoint :=
  RouteAtlas.search index.endpoints query

def publish (index : Index) (snapshot : Snapshot) : Index :=
  { index with
    snapshot := snapshot
    version := index.version + 1
    signals := index.signals.notify }

def touch (index : Index) (path : Path) : Index :=
  if index.scansInFlight = 0 then index
  else { index with touched := insertPath path index.touched }

def remove (index : Index) (path : Path) : Index × Outcome :=
  match index.snapshot.get? path with
  | some _ => (index.publish (index.snapshot.erase path), .removed)
  | none => (index, .skipped)

def isCurrent (index : Index) (path : Path) (modified : Stamp) : Bool :=
  (index.snapshot.get? path).any (·.modified == modified)

def refresh (index : Index) (path : Path) (modified : Stamp) (content : Text) : Index × Outcome :=
  match index.catalogue.endpoints? path content with
  | some endpoints =>
    (index.publish (index.snapshot.put ⟨path, modified, endpoints⟩), .updated)
  | none => index.remove path

/-- Ends a look at a file with what reading it gave. A fault leaves the index as it is. -/
def reread (index : Index) (path : Path) (modified : Stamp) :
    Except Fault Text → Index × Except Fault Outcome
  | .error fault => (index, .error fault)
  | .ok content =>
    let (index, outcome) := index.refresh path modified content
    (index, .ok outcome)

def revalidate (index : Index) (source : Source) (path : Path) : Index × Except Fault Outcome :=
  match source.modified path with
  | .error fault => (index, .error fault)
  | .ok modified =>
    if index.isCurrent path modified then (index, .ok .unchanged)
    else index.reread path modified (source.read path)

/-- A file has changed or is new. A path that does not belong to the source has no entry. -/
def changed (index : Index) (source : Source) (path : Path) : Index × Except Fault Outcome :=
  let index := index.touch path
  if source.accepts path then index.revalidate source path
  else
    let (index, outcome) := index.remove path
    (index, .ok outcome)

def deleted (index : Index) (path : Path) : Index × Outcome := (index.touch path).remove path

end Index

end RouteAtlas
