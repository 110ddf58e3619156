import RouteAtlas.Code.Call
import RouteAtlas.Code.Place
import RouteAtlas.Text.Basic
import RouteAtlas.Text.Pattern

namespace RouteAtlas.Indented

open Pattern

def classPattern : Pattern := blanks ++ text "class" ++ someBlanks ++ .capture 1 name

def defPattern : Pattern :=
  blanks ++ maybe (text "async" ++ someBlanks) ++ text "def" ++ someBlanks

def functionPattern : Pattern := defPattern ++ .capture 1 name

def decoratorPattern : Pattern := blanks ++ text "@" ++ dottedName

def isQuote (c : Char) : Bool := c == '"' || c == '\''

def literalPattern (slot : Nat) : Pattern :=
  .one isQuote ++ .capture slot (.many fun c => !isQuote c) ++ .one isQuote

def assignedLiteral : Pattern := blanks ++ text "=" ++ blanks ++ literalPattern 1

def keywordPattern (keyword : Text) : Pattern := .boundary ++ text keyword ++ assignedLiteral

def namedRoutePattern : Pattern := .boundary ++ anyOf ["path", "rule"] ++ assignedLiteral

def className? (line : Text) : Option Text := classPattern.partAtStart? 1 line

def functionName? (line : Text) : Option Text := functionPattern.partAtStart? 1 line

def isRemark (trimmed : Text) : Bool := trimmed.isEmpty || trimmed.head? == some '#'

/--
The value of a keyword argument in the first line that has a complete call of a constructor with this
keyword. In each line only the first complete call counts.
-/
def constructorKeyword? (constructor keyword : Pattern) (lines : List Text) : Option Text :=
  (Place.all lines).findSome? fun place => do
    let call ← (constructor.findAll place.line).findSome? fun found =>
      Call.read? found.rest place.below
    keyword.partIn? 1 call.text

def routeLiteral? (arguments : Text) : Option Text :=
  match namedRoutePattern.partIn? 1 arguments with
  | some route => some route
  | none =>
    let positional := Text.trimStart arguments
    if positional.head?.any isQuote then firstLiteral? positional else none

/--
The function declared below a decorator, after blank lines, comments and further decorators; empty
when something else stands there. The first `skip` lines belong to a decorator.
-/
def handlerBelow : (skip : Nat) → List Text → Text
  | _, [] => []
  | skip + 1, _ :: below => handlerBelow skip below
  | 0, line :: below =>
    if isRemark (Text.trim line) then handlerBelow 0 below
    else
      match decoratorPattern.atStart? line with
      | some found =>
        match Call.read? found.rest below with
        | some call => handlerBelow call.span below
        | none => handlerBelow 0 below
      | none => (functionName? line).getD []

def nearestClass? (above : List Text) : Option Text := above.findSome? className?

/--
The class around a line with this indentation: going up, each line that is indented less either is its
header or becomes the new measure.
-/
def enclosingFrom (indent : Nat) : List Text → Option Text
  | [] => none
  | line :: above =>
    if indent = 0 then none
    else if isRemark (Text.trim line) then enclosingFrom indent above
    else if indentOf line < indent then
      match className? line with
      | some name => some name
      | none => enclosingFrom (indentOf line) above
    else enclosingFrom indent above

def enclosingClass? (place : Place) : Option Text :=
  enclosingFrom (indentOf place.line) place.above

end RouteAtlas.Indented
