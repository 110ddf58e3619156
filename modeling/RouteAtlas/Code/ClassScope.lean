import RouteAtlas.Code.Brace

namespace RouteAtlas

structure ClassScope (α : Type) where
  name : Text
  header : α
  openDepth : Int
  entered : Bool
deriving DecidableEq, Repr

/-- The open classes, innermost first, and the brace depth. -/
structure ClassScopes (α : Type) where
  scopes : List (ClassScope α)
  depth : Int
deriving DecidableEq, Repr

namespace ClassScopes

variable {α : Type}

def empty : ClassScopes α := ⟨[], 0⟩

def openClass (state : ClassScopes α) (name : Text) (header : α) : ClassScopes α :=
  { state with scopes := ⟨name, header, state.depth, false⟩ :: state.scopes }

def current? (state : ClassScopes α) : Option (ClassScope α) := state.scopes.find? (·.entered)

def enterTop : List (ClassScope α) → List (ClassScope α)
  | [] => []
  | top :: outer => { top with entered := true } :: outer

def advance (state : ClassScopes α) (line : Text) : ClassScopes α :=
  let scopes := if 0 < (braceCounts line).1 then enterTop state.scopes else state.scopes
  let depth := state.depth + braceBalance line
  ⟨scopes.dropWhile fun top => top.entered && depth ≤ top.openDepth, depth⟩

end ClassScopes

end RouteAtlas
