import Mathlib.Logic.Function.Basic
import RouteAtlas.Proofs.Index.Lookup

namespace RouteAtlas.Interleaving

inductive Look where
  | unseen
  | stamped (modified : Stamp)
  | settled (result : FileResult)
deriving DecidableEq

def Look.ofStamp : Except Fault Stamp → Look
  | .error _ => .settled .failed
  | .ok modified => .stamped modified

inductive Stage where
  | absent
  | numbered
  | registered
  /-- It has its list, and looks at the files in any order. -/
  | looking (files : List (Path × Look))
  /-- It no longer counts as running and holds the lock. -/
  | closing (results : List FileResult)
  /-- Its entries are in place; it holds the lock while it replays touched paths. -/
  | published (results : List FileResult)
  | finished (report : ScanReport)
deriving DecidableEq

def Stage.collected : Stage → List CacheEntry
  | .looking files => files.filterMap fun item =>
    match item.2 with
    | .settled result => result.taken?
    | _ => none
  | .closing results => results.filterMap (·.taken?)
  | _ => []

inductive Request where
  | changed (path : Path)
  | deleted (path : Path)
  | event (event : FileEvent)

inductive Call where
  /-- It waits for the lock to look at a file; `watched` when it stands for an event. -/
  | changing (path : Path) (watched : Bool)
  | inside
  /-- It waits for the lock to drop an entry; `missing` when a look found no file before. -/
  | deleting (path : Path) (missing : Bool)
  | ended
deriving DecidableEq

/-- Where a call starts. Events about files that no extractor handles are over at once. -/
def Call.ofRequest (catalogue : Catalogue) : Request → Call
  | .changed path => .changing path false
  | .deleted path => .deleting path false
  | .event (.changed path) => if catalogue.handles path then .changing path true else .ended
  | .event (.removed path) => if catalogue.handles path then .deleting path false else .ended

/-- Where a call goes on after its look at a file. A missing file counts as deleted for an event. -/
def Call.afterLook (watched : Bool) (path : Path) : Except Fault Outcome → Call
  | .error fault => if watched && fault.notFound then .deleting path true else .ended
  | .ok _ => .ended

inductive Visitor where
  | call (ticket : Nat) (watched : Bool)
  /-- A scan, with the touched paths that it still has to look at. -/
  | replay (scan : Nat) (queue : List Path)
deriving DecidableEq

inductive Lock where
  | free
  | deciding (scan : Nat)
  | publishing (scan : Nat)
  | visiting (visitor : Visitor) (path : Path) (stamp : Option Stamp)
deriving DecidableEq

/-- A scan goes through the touched paths, and frees the lock after the last one. -/
def Lock.replaying (scan : Nat) : List Path → Lock
  | [] => .free
  | path :: queue => .visiting (.replay scan queue) path none

def Lock.scan? : Lock → Option Nat
  | .deciding scan => some scan
  | .publishing scan => some scan
  | .visiting (.replay scan _) _ _ => some scan
  | _ => none

/-- The files, the writes that have a stamp but are not stored yet, the index, and its users. Writers,
scans and calls take turns in any order, and each access to something shared is a step of its own. -/
structure System where
  memory : MemoryFiles
  pending : List MemoryFile
  index : Index
  scans : Nat → Stage
  calls : Nat → Option Call
  lock : Lock

inductive Action where
  | tick (path : Path) (content : Text)
  | store (file : MemoryFile)
  | erase (path : Path)
  | number
  | register (scan : Nat)
  | list (scan : Nat)
  | stat (scan position : Nat)
  | read (scan position : Nat)
  | close (scan : Nat)
  | discard (scan : Nat)
  | accept (scan : Nat)
  | publish (scan : Nat)
  | report (scan : Nat)
  | call (ticket : Nat) (request : Request)
  | enter (ticket : Nat) (path : Path)
  | delete (ticket : Nat) (path : Path) (missing : Bool)
  | glance
  | fetch

namespace System

def initial (catalogue : Catalogue) : System :=
  ⟨.empty, [], .new catalogue, fun _ => .absent, fun _ => none, .free⟩

def setScan (s : System) (scan : Nat) (stage : Stage) : System :=
  { s with scans := Function.update s.scans scan stage }

def setCall (s : System) (ticket : Nat) (call : Call) : System :=
  { s with calls := Function.update s.calls ticket (some call) }

def endVisit (s : System) (visitor : Visitor) (path : Path) (result : Index × Except Fault Outcome) :
    System :=
  match visitor with
  | .replay scan queue =>
    { s with index := Index.afterReplay path result, lock := .replaying scan queue }
  | .call ticket watched =>
    { s with index := result.1, lock := .free }.setCall ticket (.afterLook watched path result.2)

def glance (s : System) (visitor : Visitor) (path : Path) : System :=
  match s.memory.source.modified path with
  | .error fault => s.endVisit visitor path (s.index, .error fault)
  | .ok modified =>
    if s.index.isCurrent path modified then s.endVisit visitor path (s.index, .ok .unchanged)
    else { s with lock := .visiting visitor path (some modified) }

def fetch (s : System) (visitor : Visitor) (path : Path) (modified : Stamp) : System :=
  s.endVisit visitor path (s.index.reread path modified (s.memory.source.read path))

@[simp] theorem setScan_self (s : System) (scan : Nat) (stage : Stage) :
    (s.setScan scan stage).scans scan = stage := by simp [setScan]

theorem setScan_of_ne (s : System) {scan other : Nat} (stage : Stage) (differ : other ≠ scan) :
    (s.setScan scan stage).scans other = s.scans other := by simp [setScan, differ]

@[simp] theorem setCall_self (s : System) (ticket : Nat) (call : Call) :
    (s.setCall ticket call).calls ticket = some call := by simp [setCall]

theorem setCall_of_ne (s : System) {ticket other : Nat} (call : Call) (differ : other ≠ ticket) :
    (s.setCall ticket call).calls other = s.calls other := by simp [setCall, differ]

section Visit

variable (s : System) (visitor : Visitor) (path : Path) (modified : Stamp)
variable (result : Index × Except Fault Outcome)

@[simp] theorem endVisit_memory : (s.endVisit visitor path result).memory = s.memory := by
  cases visitor <;> rfl

@[simp] theorem endVisit_pending : (s.endVisit visitor path result).pending = s.pending := by
  cases visitor <;> rfl

@[simp] theorem endVisit_scans : (s.endVisit visitor path result).scans = s.scans := by
  cases visitor <;> rfl

theorem endVisit_kept : Index.Kept result.1 (s.endVisit visitor path result).index := by
  cases visitor with
  | call ticket watched => exact Index.Kept.refl _
  | replay scan queue => exact Index.kept_afterReplay path result

theorem glance_cases :
    (∃ fault, s.memory.source.modified path = .error fault ∧
      s.glance visitor path = s.endVisit visitor path (s.index, .error fault)) ∨
    (∃ modified, s.memory.source.modified path = .ok modified ∧
      s.index.isCurrent path modified ∧
      s.glance visitor path = s.endVisit visitor path (s.index, .ok .unchanged)) ∨
    (∃ modified, s.memory.source.modified path = .ok modified ∧
      ¬ s.index.isCurrent path modified ∧
      s.glance visitor path = { s with lock := .visiting visitor path (some modified) }) := by
  unfold glance
  cases s.memory.source.modified path with
  | error fault => exact .inl ⟨fault, rfl, rfl⟩
  | ok modified =>
    by_cases current : s.index.isCurrent path modified
    · exact .inr (.inl ⟨modified, rfl, current, by simp [current]⟩)
    · exact .inr (.inr ⟨modified, rfl, current, by simp [current]⟩)

@[simp] theorem glance_memory : (s.glance visitor path).memory = s.memory := by
  unfold glance
  split
  · simp
  · split <;> simp

@[simp] theorem glance_pending : (s.glance visitor path).pending = s.pending := by
  unfold glance
  split
  · simp
  · split <;> simp

@[simp] theorem glance_scans : (s.glance visitor path).scans = s.scans := by
  unfold glance
  split
  · simp
  · split <;> simp

theorem glance_kept : Index.Kept s.index (s.glance visitor path).index := by
  rcases s.glance_cases visitor path with ⟨fault, _, same⟩ | ⟨m, _, _, same⟩ | ⟨m, _, _, same⟩
  · rw [same]
    exact s.endVisit_kept visitor path (s.index, .error fault)
  · rw [same]
    exact s.endVisit_kept visitor path (s.index, .ok .unchanged)
  · rw [same]
    exact Index.Kept.refl _

@[simp] theorem fetch_memory : (s.fetch visitor path modified).memory = s.memory := by
  simp [fetch]

@[simp] theorem fetch_pending : (s.fetch visitor path modified).pending = s.pending := by
  simp [fetch]

@[simp] theorem fetch_scans : (s.fetch visitor path modified).scans = s.scans := by
  simp [fetch]

theorem fetch_kept : Index.Kept s.index (s.fetch visitor path modified).index :=
  (Index.kept_reread s.index path modified _).trans (s.endVisit_kept visitor path _)

end Visit

end System

/-- One step. A write takes its stamp and is stored in two steps; removing a file that is not there
changes nothing and is no step. -/
inductive Step : System → Action → System → Prop where
  | tick {s : System} (path : Path) (content : Text) :
    Step s (.tick path content)
      { s with
        memory := s.memory.tick.2
        pending := ⟨path, s.memory.tick.1, content⟩ :: s.pending }
  | store {s : System} {file : MemoryFile} (waiting : file ∈ s.pending) :
    Step s (.store file)
      { s with memory := s.memory.store file, pending := s.pending.erase file }
  | erase {s : System} {path : Path} {file : MemoryFile} (found : s.memory.file? path = some file) :
    Step s (.erase path) { s with memory := s.memory.remove path }
  | number {s : System} :
    Step s .number
      ({ s with index := s.index.takeGeneration.2 }.setScan s.index.takeGeneration.1 .numbered)
  | register {s : System} {scan : Nat} (free : s.lock = .free) (stage : s.scans scan = .numbered) :
    Step s (.register scan) ({ s with index := s.index.register }.setScan scan .registered)
  | list {s : System} {scan : Nat} (stage : s.scans scan = .registered) :
    Step s (.list scan) (s.setScan scan (.looking
      ((s.memory.source.list s.index.catalogue.extensions).map fun path => (path, .unseen))))
  | stat {s : System} {scan position : Nat} {files : List (Path × Look)} {path : Path}
    (stage : s.scans scan = .looking files) (item : files[position]? = some (path, .unseen)) :
    Step s (.stat scan position) (s.setScan scan (.looking
      (files.set position (path, .ofStamp (s.memory.source.modified path)))))
  | read {s : System} {scan position : Nat} {files : List (Path × Look)} {path : Path}
    {modified : Stamp} (stage : s.scans scan = .looking files)
    (item : files[position]? = some (path, .stamped modified)) :
    Step s (.read scan position) (s.setScan scan (.looking (files.set position
      (path, .settled (.ofRead s.index.catalogue path modified (s.memory.source.read path))))))
  | close {s : System} {scan : Nat} {files : List (Path × Look)} {results : List FileResult}
    (free : s.lock = .free) (stage : s.scans scan = .looking files)
    (settled : files.map Prod.snd = results.map .settled) :
    Step s (.close scan)
      ({ s with index := s.index.unregister, lock := .deciding scan }.setScan scan (.closing results))
  | discard {s : System} {scan : Nat} {results : List FileResult} (locked : s.lock = .deciding scan)
    (stage : s.scans scan = .closing results) (outdated : scan ≠ s.index.generation) :
    Step s (.discard scan) ({ s with index := s.index.discardScan, lock := .free }.setScan scan
      (.finished (Index.discardedReport results)))
  | accept {s : System} {scan : Nat} (locked : s.lock = .deciding scan)
    (latest : scan = s.index.generation) :
    Step s (.accept scan) { s with lock := .publishing scan }
  | publish {s : System} {scan : Nat} {results : List FileResult}
    (locked : s.lock = .publishing scan) (stage : s.scans scan = .closing results) :
    Step s (.publish scan)
      ({ s with
        index := s.index.replaceEntries (results.filterMap FileResult.taken?)
        lock := .replaying scan s.index.touched }.setScan scan (.published results))
  | report {s : System} {scan : Nat} {results : List FileResult} (unlocked : s.lock.scan? ≠ some scan)
    (stage : s.scans scan = .published results) :
    Step s (.report scan) (s.setScan scan (.finished (s.index.publishedReport results)))
  | call {s : System} {ticket : Nat} (request : Request) (new : s.calls ticket = none) :
    Step s (.call ticket request) (s.setCall ticket (.ofRequest s.index.catalogue request))
  | enter {s : System} {ticket : Nat} {path : Path} {watched : Bool} (free : s.lock = .free)
    (state : s.calls ticket = some (.changing path watched)) :
    Step s (.enter ticket path)
      ({ s with
        index := s.index.touch path
        lock := .visiting (.call ticket watched) path none }.setCall ticket .inside)
  | delete {s : System} {ticket : Nat} {path : Path} {missing : Bool} (free : s.lock = .free)
    (state : s.calls ticket = some (.deleting path missing)) :
    Step s (.delete ticket path missing)
      ({ s with index := (s.index.deleted path).1 }.setCall ticket .ended)
  | glance {s : System} {visitor : Visitor} {path : Path}
    (locked : s.lock = .visiting visitor path none) : Step s .glance (s.glance visitor path)
  | fetch {s : System} {visitor : Visitor} {path : Path} {modified : Stamp}
    (locked : s.lock = .visiting visitor path (some modified)) :
    Step s .fetch (s.fetch visitor path modified)

/-- The runs of a system from its start, with the steps taken so far, the latest first. `admits` may
restrict what is started. -/
inductive Run (catalogue : Catalogue) (admits : System → Action → Prop) :
    List Action → System → Prop where
  | start : Run catalogue admits [] (.initial catalogue)
  | step {history : List Action} {s t : System} {action : Action}
    (past : Run catalogue admits history s) (admitted : admits s action) (next : Step s action t) :
    Run catalogue admits (action :: history) t

end RouteAtlas.Interleaving
