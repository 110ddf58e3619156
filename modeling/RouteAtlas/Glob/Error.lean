import RouteAtlas.Text.Basic

namespace RouteAtlas

inductive GlobFault where
  | unclosedClass
  | invalidRange (first last : Char)
  | unopenedGroup
  | unclosedGroup
  | danglingEscape
deriving DecidableEq, Repr

inductive GlobError where
  | malformed (glob : Text) (fault : GlobFault)
  /-- A pattern that is compiled on its own, given as an expression, is nested too deeply. -/
  | deepExpression (expression : Text)
  /-- A pattern is nested too deeply; `number` is its place among those compiled together. -/
  | deepMember (number : Nat)
deriving DecidableEq, Repr

namespace GlobError

def reason : GlobFault → Text
  | .unclosedClass => "unclosed character class; missing ']'"
  | .invalidRange first last =>
    "invalid range; '".toList ++ [first] ++ "' > '".toList ++ [last] ++ ['\'']
  | .unopenedGroup =>
    "unopened alternate group; missing '\x7b' (maybe escape '\x7d' with '[\x7d]'?)"
  | .unclosedGroup =>
    "unclosed alternate group; missing '\x7d' (maybe escape '\x7b' with '[\x7b]'?)"
  | .danglingEscape => "dangling '\\'"

def about (glob reason : Text) : Text :=
  "error parsing glob '".toList ++ glob ++ "': ".toList ++ reason

def deep (number : Nat) : Text := "error parsing pattern ".toList ++ (toString number).toList

def message : GlobError → Text
  | .malformed glob fault => about glob (reason fault)
  | .deepExpression expression => about expression (deep 0)
  | .deepMember number => deep number

end GlobError

end RouteAtlas
