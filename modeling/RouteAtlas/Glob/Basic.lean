import RouteAtlas.Glob.Expression
import RouteAtlas.Path

namespace RouteAtlas

structure Glob where
  options : GlobOptions
  tokens : List GlobToken

namespace Glob

/-- Which places of a text can be reached: one mark for every unit, and one for the end. A pattern is
matched in one pass for each of its items, however many stars it has. -/
abbrev Marks := List Bool

namespace Marks

def start (units : List UInt8) : Marks := true :: units.map fun _ => false

def nowhere (units : List UInt8) : Marks := false :: units.map fun _ => false

def union (left right : Marks) : Marks := List.zipWith or left right

def advance (accepts : UInt8 → Bool) (units : List UInt8) (marks : Marks) : Marks :=
  false :: List.zipWith (fun unit mark => mark && accepts unit) units marks

/-- The places after any number of accepted units. The first place may be reached from before. -/
def spread (accepts : UInt8 → Bool) (reached : Bool) : List UInt8 → Marks → Marks
  | _, [] => []
  | [], mark :: _ => [reached || mark]
  | unit :: units, mark :: marks =>
    (reached || mark) :: spread accepts ((reached || mark) && accepts unit) units marks

def atEnd (marks : Marks) : Bool := marks.getLastD false

end Marks

mutual

def Item.run (units : List UInt8) (marks : Marks) : Item → Marks
  | .literal unit => marks.advance (· == unit) units
  | .one set => marks.advance set.accepts units
  | .many set => marks.spread set.accepts false units
  | .maybe unit => marks.union (marks.advance (· == unit) units)
  | .choice branches => runBranches units marks branches

def runItems (units : List UInt8) (marks : Marks) : List Item → Marks
  | [] => marks
  | item :: items => runItems units (item.run units marks) items

def runBranches (units : List UInt8) (marks : Marks) : List (List Item) → Marks
  | [] => .nowhere units
  | branch :: branches => (runItems units marks branch).union (runBranches units marks branches)

end

def parse (options : GlobOptions) (glob : Text) : Except GlobError Glob :=
  match tokens? options glob with
  | .ok tokens => .ok ⟨options, tokens⟩
  | .error fault => .error (.malformed glob fault)

def items (glob : Glob) : List Item := expression glob.options glob.tokens

def matchesText (glob : Glob) (text : Text) : Bool :=
  let units := Text.bytes text
  (runItems units (.start units) glob.items).atEnd

end Glob

end RouteAtlas
