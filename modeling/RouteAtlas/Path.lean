import RouteAtlas.Text.Basic

namespace RouteAtlas

inductive Component where
  | root
  | current
  | parent
  | name (text : Text)
deriving DecidableEq, Repr

/-- A path as it was written. -/
structure Path where
  spelling : Text
deriving DecidableEq, Repr

def Text.compare : Text → Text → Ordering
  | [], [] => .eq
  | [], _ :: _ => .lt
  | _ :: _, [] => .gt
  | c :: rest, d :: more =>
    if c.toNat < d.toNat then .lt else if d.toNat < c.toNat then .gt else Text.compare rest more

namespace Component

def text : Component → Text
  | .root => ['/']
  | .current => ['.']
  | .parent => ['.', '.']
  | .name text => text

def rank : Component → Nat
  | .root => 0
  | .current => 1
  | .parent => 2
  | .name _ => 3

def compare : Component → Component → Ordering
  | .name left, .name right => Text.compare left right
  | left, right =>
    if left.rank < right.rank then .lt else if right.rank < left.rank then .gt else .eq

end Component

namespace Path

def isSkipped (piece : Text) : Bool := piece.isEmpty || piece == ['.']

def step? (piece : Text) : Option Component :=
  if isSkipped piece then none
  else if piece == ['.', '.'] then some .parent
  else some (.name piece)

/-- The root or the leading `.` step, if any, and the pieces after it. -/
def parts (path : Path) : Option Component × List Text :=
  match Text.splitOn '/' path.spelling with
  | [] => (none, [])
  | [[]] => (none, [])
  | [] :: body => (some .root, body)
  | ['.'] :: body => (some .current, body)
  | body => (none, body)

def components (path : Path) : List Component :=
  path.parts.1.toList ++ path.parts.2.filterMap step?

/-- Paths are compared step by step, so that one path has several spellings. -/
def same (left right : Path) : Bool := left.components == right.components

def compareSteps : List Component → List Component → Ordering
  | [], [] => .eq
  | [], _ :: _ => .lt
  | _ :: _, [] => .gt
  | left :: lefts, right :: rights => (left.compare right).then (compareSteps lefts rights)

def compare (left right : Path) : Ordering := compareSteps left.components right.components

def le (left right : Path) : Bool := (left.compare right).isLE

def isAbsolute (path : Path) : Bool := path.spelling.head? == some '/'

def trimPieces (pieces : List Text) : List Text :=
  pieces.foldr (fun piece rest => if rest.isEmpty && isSkipped piece then [] else piece :: rest) []

def dropSteps : (count : Nat) → List Text → List Text
  | 0, pieces => pieces
  | _ + 1, [] => []
  | count + 1, piece :: pieces =>
    if isSkipped piece then dropSteps (count + 1) pieces else dropSteps count pieces

def spell (lead : Option Component) (pieces : List Text) : Text :=
  match lead with
  | some .current => if pieces.isEmpty then ['.'] else ['.', '/'] ++ Text.join ['/'] pieces
  | some _ => '/' :: Text.join ['/'] pieces
  | none => Text.join ['/'] pieces

def below? (path base : Path) : Option Path :=
  let steps := base.components
  if steps.isPrefixOf path.components then
    let (lead, body) := path.parts
    if steps.isEmpty then some ⟨spell lead (trimPieces body)⟩
    else
      let used := steps.length - lead.toList.length
      some ⟨Text.join ['/'] (trimPieces ((dropSteps used body).dropWhile isSkipped))⟩
  else none

def isUnder (path base : Path) : Bool := base.components.isPrefixOf path.components

def fileName? (path : Path) : Option Text :=
  match path.components.getLast? with
  | some (.name text) => some text
  | _ => none

/-- The part of a file name after its last dot. A dot at the very start does not count. -/
def extensionOf? (name : Text) : Option Text :=
  let tail := Text.afterLast '.' name
  if tail.length + 1 < name.length then some tail else none

def extension? (path : Path) : Option Text := path.fileName?.bind extensionOf?

/-- The path without its last step; none for the root and for the empty path. -/
def parent? (path : Path) : Option Path :=
  let (lead, body) := path.parts
  match (trimPieces body).reverse, lead with
  | _ :: others, _ => some ⟨spell lead (trimPieces others.reverse)⟩
  | [], some .current => some ⟨[]⟩
  | [], _ => none

/-- A path followed by another. An absolute one replaces it. -/
def append (path : Path) (more : Text) : Path :=
  if more.head? == some '/' then ⟨more⟩
  else if path.spelling.isEmpty || path.spelling.getLast? == some '/' then ⟨path.spelling ++ more⟩
  else ⟨path.spelling ++ '/' :: more⟩

def above : (bound : Nat) → Path → List Path
  | 0, _ => []
  | bound + 1, path =>
    match path.parent? with
    | some parent => parent :: above bound parent
    | none => []

def ancestors (path : Path) : List Path :=
  path :: above (path.components.length + 1) path

end Path

end RouteAtlas
