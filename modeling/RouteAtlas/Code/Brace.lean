import RouteAtlas.Text.Basic

namespace RouteAtlas

inductive Zone where
  /-- Plain code, with the character read before. -/
  | code (previous : Char)
  /-- A literal opened by `quote`; `escaped` when a backslash was read before. -/
  | quoted (quote : Char) (escaped : Bool)
  | comment
deriving DecidableEq, Repr

namespace Zone

def isQuote (c : Char) : Bool := c == '"' || c == '\'' || c == '\x60'

def step : Zone → Char → Zone
  | .code previous, c =>
    if isQuote c then .quoted c false
    else if c = '/' ∧ previous = '/' then .comment
    else .code c
  | .quoted quote true, _ => .quoted quote false
  | .quoted quote false, c =>
    if c = '\\' then .quoted quote true else if c = quote then .code quote else .quoted quote false
  | .comment, _ => .comment

def isCode : Zone → Bool
  | .code _ => true
  | _ => false

end Zone

/-- The characters of a line that are code or open a literal or a comment. -/
def codeOf : Zone → Text → Text
  | _, [] => []
  | zone, c :: rest =>
    if zone.isCode then c :: codeOf (zone.step c) rest else codeOf (zone.step c) rest

def braceCounts (line : Text) : Nat × Nat :=
  let code := codeOf (.code '\x00') line
  (code.count '{', code.count '}')

def braceBalance (line : Text) : Int :=
  ((braceCounts line).1 : Int) - (braceCounts line).2

end RouteAtlas
