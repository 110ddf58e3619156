import RouteAtlas.Index.Source

namespace RouteAtlas

inductive Content where
  | text (content : Text)
  | garbled (bytes : List UInt8)
deriving DecidableEq, Repr

namespace Content

/-- The lines before a byte sequence that cannot be decoded. -/
def leadingLines : List (List UInt8) → List Text
  | [] => []
  | line :: lines =>
    match Text.ofBytes? line with
    | some decoded => Text.dropReturn decoded :: leadingLines lines
    | none => []

def byteLines (bytes : List UInt8) : List (List UInt8) :=
  bytes.foldr (fun byte lines =>
    if byte = 10 then [] :: lines
    else match lines with
      | [] => [[byte]]
      | line :: lines => (byte :: line) :: lines) [[]]

def ofBytes (bytes : List UInt8) : Content :=
  match Text.ofBytes? bytes with
  | some decoded => .text decoded
  | none => .garbled bytes

def bytes : Content → List UInt8
  | .text content => Text.bytes content
  | .garbled bytes => bytes

def lines : Content → List Text
  | .text content => Text.lines content
  | .garbled bytes => leadingLines (byteLines bytes)

end Content

inductive FileTree where
  | file (content : Content) (modified : Stamp)
  | directory (children : List (Text × FileTree))

namespace Fault

def missing : Fault := ⟨true, "No such file or directory (os error 2)"⟩

def notDirectory : Fault := ⟨false, "Not a directory (os error 20)"⟩

def isDirectory : Fault := ⟨false, "Is a directory (os error 21)"⟩

def tooLong : Fault := ⟨false, "File name too long (os error 36)"⟩

def endedEarly : Fault := ⟨false, "file name contained an unexpected NUL byte"⟩

def notText : Fault := ⟨false, "stream did not contain valid UTF-8"⟩

end Fault

namespace FileTree

def empty : FileTree := .directory []

def isDirectory : FileTree → Bool
  | .directory _ => true
  | .file _ _ => false

def isFile (tree : FileTree) : Bool := !tree.isDirectory

def children : FileTree → List (Text × FileTree)
  | .directory children => children
  | .file _ _ => []

def child? (tree : FileTree) (name : Text) : Option FileTree := tree.children.lookup name

def at? (tree : FileTree) : List Text → Option FileTree
  | [] => some tree
  | name :: names => (tree.child? name).bind (·.at? names)

def putChild (name : Text) (child : FileTree) : List (Text × FileTree) → List (Text × FileTree)
  | [] => [(name, child)]
  | (other, tree) :: children =>
    if other = name then (name, child) :: children else (other, tree) :: putChild name child children

/-- Puts something at a list of names. Directories on the way are made as needed. -/
def put (tree : FileTree) (names : List Text) (new : FileTree) : FileTree :=
  match names with
  | [] => new
  | name :: names =>
    .directory (putChild name (((tree.child? name).getD empty).put names new) tree.children)

def makeDirectory (tree : FileTree) (names : List Text) : FileTree :=
  match names with
  | [] => tree
  | name :: names =>
    .directory (putChild name (((tree.child? name).getD empty).makeDirectory names) tree.children)

def erase (tree : FileTree) (names : List Text) : FileTree :=
  match tree, names with
  | .directory children, [name] => .directory (children.filter fun child => child.1 != name)
  | .directory children, name :: names =>
    match children.lookup name with
    | some child => .directory (putChild name (child.erase names) children)
    | none => tree
  | _, _ => tree

def nameLimit : Nat := 255

/--
Follows the pieces of a path from a directory given by its names, the last one first. Every piece needs a
directory to start from, also an empty one.
-/
def follow (tree : FileTree) (stack : List Text) : List Text → Except Fault (List Text)
  | [] => .ok stack
  | piece :: pieces =>
    match tree.at? stack.reverse with
    | none => .error .missing
    | some (.file _ _) => .error .notDirectory
    | some (.directory children) =>
      if Path.isSkipped piece then follow tree stack pieces
      else if piece = ['.', '.'] then follow tree stack.tail pieces
      else if nameLimit < Text.byteSize piece then .error .tooLong
      else if (children.lookup piece).isSome then follow tree (piece :: stack) pieces
      else .error .missing

def resolve (tree : FileTree) (path : Path) : Except Fault (List Text) :=
  if path.spelling.isEmpty then .error .missing
  else (tree.follow [] (Text.splitOn '/' path.spelling)).map List.reverse

/--
Follows the steps of an absolute path and makes the directories that are missing. The names of the
directory reached come with the last one first.
-/
def makeSteps (tree : FileTree) (stack : List Text) : List Component → FileTree × List Text
  | [] => (tree, stack)
  | .name name :: steps => makeSteps (tree.makeDirectory (name :: stack).reverse) (name :: stack) steps
  | .parent :: steps => makeSteps tree stack.tail steps
  | _ :: steps => makeSteps tree stack steps

def putAt (tree : FileTree) (path : Path) (new : FileTree) : FileTree :=
  match path.components.getLast? with
  | some (.name name) =>
    let (tree, stack) := tree.makeSteps [] path.components.dropLast
    tree.put (name :: stack).reverse new
  | _ => tree

def makeDirectoryAt (tree : FileTree) (path : Path) : FileTree :=
  (tree.makeSteps [] path.components).1

def pathOf (names : List Text) : Path := ⟨'/' :: Text.join ['/'] names⟩

def canonical (tree : FileTree) (path : Path) : Except Fault Path :=
  (tree.resolve path).map pathOf

/-- The stamp of directories. No file has it. -/
def directoryStamp : Stamp := 0xFFFFFFFFFFFFFFFF

def stamp : FileTree → Stamp
  | .file _ stamp => stamp
  | .directory _ => directoryStamp

end FileTree

end RouteAtlas
