import RouteAtlas.Index.Basic

namespace RouteAtlas

inductive FileResult where
  | taken (entry : CacheEntry)
  | unclaimed
  | failed
deriving DecidableEq, Repr

namespace FileResult

def taken? : FileResult → Option CacheEntry
  | .taken entry => some entry
  | _ => none

def isFailed : FileResult → Bool
  | .failed => true
  | _ => false

/-- The result for a file whose stamp was taken before its content was read. -/
def ofContent (catalogue : Catalogue) (path : Path) (modified : Stamp) (content : Text) : FileResult :=
  match catalogue.endpoints? path content with
  | some endpoints => .taken ⟨path, modified, endpoints⟩
  | none => .unclaimed

def ofRead (catalogue : Catalogue) (path : Path) (modified : Stamp) : Except Fault Text → FileResult
  | .error _ => .failed
  | .ok content => ofContent catalogue path modified content

def ofSource (catalogue : Catalogue) (source : Source) (path : Path) : FileResult :=
  match source.modified path with
  | .error _ => .failed
  | .ok modified => ofRead catalogue path modified (source.read path)

end FileResult

namespace Index

def takeGeneration (index : Index) : Nat × Index :=
  (index.generation + 1, { index with generation := index.generation + 1 })

def register (index : Index) : Index := { index with scansInFlight := index.scansInFlight + 1 }

def beginScan (index : Index) : Nat × Index :=
  let (generation, index) := index.takeGeneration
  (generation, index.register)

def unregister (index : Index) : Index := { index with scansInFlight := index.scansInFlight - 1 }

/-- The index after a second look at a touched path. A missing file has no entry; other faults leave
its entry alone. -/
def afterReplay (path : Path) : Index × Except Fault Outcome → Index
  | (index, .ok _) => index
  | (index, .error fault) => if fault.notFound then (index.remove path).1 else index

def replay (source : Source) (index : Index) (path : Path) : Index :=
  if source.accepts path then afterReplay path (index.revalidate source path)
  else (index.remove path).1

/-- Puts the entries of a scan in place of the snapshot; the touched paths are no longer noted. -/
def replaceEntries (index : Index) (entries : List CacheEntry) : Index :=
  { index.publish ⟨entries⟩ with touched := [] }

def publishScan (index : Index) (source : Source) (entries : List CacheEntry) : Index :=
  index.touched.foldl (replay source) (index.replaceEntries entries)

/-- Drops the result of an outdated scan. When no other scan runs, no touched path needs another look. -/
def discardScan (index : Index) : Index :=
  { index with touched := if index.scansInFlight = 0 then [] else index.touched }

def publishedReport (index : Index) (results : List FileResult) : ScanReport :=
  ⟨results.length, (results.filterMap (·.taken?)).length, results.countP (·.isFailed),
    index.endpoints.length, index.snapshot.tally, false⟩

def discardedReport (results : List FileResult) : ScanReport :=
  ⟨results.length, (results.filterMap (·.taken?)).length, results.countP (·.isFailed), 0, [], true⟩

/-- Finishes a scan with the results of its files. The result of an outdated scan is dropped. -/
def finishScan (index : Index) (generation : Nat) (source : Source) (results : List FileResult) :
    Index × ScanReport :=
  let index := index.unregister
  if generation = index.generation then
    let index := index.publishScan source (results.filterMap (·.taken?))
    (index, index.publishedReport results)
  else (index.discardScan, discardedReport results)

def fullScan (index : Index) (source : Source) : Index × ScanReport :=
  let (generation, index) := index.beginScan
  let files := source.list index.catalogue.extensions
  index.finishScan generation source (files.map (FileResult.ofSource index.catalogue source))

end Index

end RouteAtlas
