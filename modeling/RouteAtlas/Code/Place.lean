import RouteAtlas.Text.Basic

namespace RouteAtlas

/-- A line with the lines above it, nearest first, and the lines below it. -/
structure Place where
  above : List Text
  line : Text
  below : List Text
deriving DecidableEq, Repr

namespace Place

def number (place : Place) : Nat := place.above.length

def allFrom (above : List Text) : List Text → List Place
  | [] => []
  | line :: below => ⟨above, line, below⟩ :: allFrom (line :: above) below

def all (lines : List Text) : List Place := allFrom [] lines

def at? (lines : List Text) (number : Nat) : Option Place := (all lines)[number]?

theorem length_allFrom (above lines : List Text) : (allFrom above lines).length = lines.length := by
  induction lines generalizing above with
  | nil => rfl
  | cons line below ih => simp [allFrom, ih]

end Place

def isCommentOrBlank (trimmed : Text) : Bool :=
  trimmed.isEmpty || Text.startsWith trimmed "//" || Text.startsWith trimmed "/*" ||
    trimmed.head? == some '*' || trimmed.head? == some '#'

/-- The size in bytes of the blanks at the start of a line. -/
def indentOf (line : Text) : Nat := Text.byteSize (line.takeWhile isBlank)

end RouteAtlas
