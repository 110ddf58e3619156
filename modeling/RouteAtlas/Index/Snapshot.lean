import RouteAtlas.Endpoint
import RouteAtlas.Index.Source

namespace RouteAtlas

abbrev Tally := List (Framework × Nat)

namespace Tally

/-- The tally with these entries; of two entries for one framework the later one counts. -/
def ofEntries (entries : List (Framework × Nat)) : Tally :=
  Framework.all.filterMap fun framework =>
    (entries.reverse.lookup framework).map (framework, ·)

def ofEndpoints (endpoints : List Endpoint) : Tally :=
  Framework.all.filterMap fun framework =>
    let count := endpoints.countP (·.framework == some framework)
    if count = 0 then none else some (framework, count)

end Tally

structure ScanReport where
  listed : Nat
  matched : Nat
  skipped : Nat
  endpointCount : Nat
  tally : Tally
  /-- A later scan had started, so the result was dropped. -/
  superseded : Bool
deriving DecidableEq, Repr

structure CacheEntry where
  path : Path
  modified : Stamp
  endpoints : List Endpoint
deriving DecidableEq, Repr

structure Snapshot where
  entries : List CacheEntry
deriving DecidableEq, Repr

namespace Snapshot

def empty : Snapshot := ⟨[]⟩

def endpoints (snapshot : Snapshot) : List Endpoint := snapshot.entries.flatMap (·.endpoints)

def get? (snapshot : Snapshot) (path : Path) : Option CacheEntry :=
  snapshot.entries.find? fun entry => entry.path.same path

def erase (snapshot : Snapshot) (path : Path) : Snapshot :=
  ⟨snapshot.entries.filter fun entry => !entry.path.same path⟩

/-- The snapshot with an entry in place of the one for the same file, at the end. -/
def put (snapshot : Snapshot) (entry : CacheEntry) : Snapshot :=
  ⟨(snapshot.erase entry.path).entries ++ [entry]⟩

def tally (snapshot : Snapshot) : Tally := Tally.ofEndpoints snapshot.endpoints

end Snapshot

end RouteAtlas
