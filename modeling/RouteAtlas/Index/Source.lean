import RouteAtlas.Path

namespace RouteAtlas

/-- A modification time in whole seconds. -/
abbrev Stamp := Nat

structure Fault where
  notFound : Bool
  text : Text
deriving DecidableEq, Repr

def Fault.message (fault : Fault) (path : Path) : Text :=
  "Could not access ".toList ++ path.spelling ++ ": ".toList ++ fault.text

/-- The files of a source at one moment. -/
structure Source where
  list : List Text → List Path
  modified : Path → Except Fault Stamp
  read : Path → Except Fault Text
  /-- Whether a path reported by a change event belongs to the source. -/
  accepts : Path → Bool

structure MemoryFile where
  path : Path
  modified : Stamp
  content : Text
deriving DecidableEq, Repr

/-- Files in the order of their paths, and the clock. -/
structure MemoryFiles where
  files : List MemoryFile
  clock : Stamp
deriving DecidableEq, Repr

namespace MemoryFiles

def empty : MemoryFiles := ⟨[], 0⟩

/-- Puts a file in its place. A file that is already there keeps the spelling of its path. -/
def insertFile (file : MemoryFile) : List MemoryFile → List MemoryFile
  | [] => [file]
  | head :: tail =>
    match file.path.compare head.path with
    | .lt => file :: head :: tail
    | .eq => { file with path := head.path } :: tail
    | .gt => head :: insertFile file tail

def tick (memory : MemoryFiles) : Stamp × MemoryFiles :=
  (memory.clock + 1, { memory with clock := memory.clock + 1 })

def store (memory : MemoryFiles) (file : MemoryFile) : MemoryFiles :=
  { memory with files := insertFile file memory.files }

def write (memory : MemoryFiles) (path : Path) (content : Text) : MemoryFiles :=
  let (stamp, memory) := memory.tick
  memory.store ⟨path, stamp, content⟩

def file? (memory : MemoryFiles) (path : Path) : Option MemoryFile :=
  memory.files.find? fun file => file.path.same path

def remove (memory : MemoryFiles) (path : Path) : MemoryFiles :=
  { memory with files := memory.files.filter fun file => !file.path.same path }

def access {α : Type} (memory : MemoryFiles) (part : MemoryFile → α) (path : Path) : Except Fault α :=
  match memory.file? path with
  | some file => .ok (part file)
  | none => .error ⟨true, path.spelling⟩

def source (memory : MemoryFiles) : Source where
  list extensions := (memory.files.map (·.path)).filter fun path =>
    path.extension?.any extensions.contains
  modified := memory.access (·.modified)
  read := memory.access (·.content)
  accepts _ := true

end MemoryFiles

end RouteAtlas
