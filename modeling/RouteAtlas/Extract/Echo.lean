import RouteAtlas.Code.Brace
import RouteAtlas.Code.Place
import RouteAtlas.Endpoint
import RouteAtlas.Text.Pattern

namespace RouteAtlas.Echo

open Pattern

def isQuote (c : Char) : Bool := c == '"' || c == '\x60'

def firstArgument (slot : Nat) : Pattern :=
  text "(" ++ blanks ++ .one isQuote ++ .capture slot (.many fun c => !isQuote c) ++ .one isQuote

def assignment : Pattern := freshName 1 ++ blanks ++ maybe (text ":") ++ text "=" ++ blanks

def groupPattern : Pattern :=
  maybe assignment ++ freshName 2 ++ text ".Group" ++ firstArgument 3

def verbs : List Text :=
  ["GET", "POST", "PUT", "DELETE", "PATCH", "HEAD", "OPTIONS", "CONNECT", "TRACE", "Any"]

def routePattern : Pattern :=
  (freshName 1 <|> text ")") ++ text "." ++ .capture 2 (anyOf verbs) ++ firstArgument 3 ++
    blanks ++ maybe (text "," ++ blanks ++ .capture 4 dottedName)

def structPattern : Pattern :=
  blanks ++ text "type" ++ someBlanks ++ .capture 1 name ++ someBlanks ++ text "struct" ++
    .boundary

/-- A route that holds while the brace depth is not below `depth`. -/
structure Group where
  base : Text
  depth : Int
deriving DecidableEq, Repr

structure Groups where
  /-- Groups without a name, innermost first. -/
  anonymous : List Group
  named : List (Text × Group)
  depth : Int
deriving DecidableEq, Repr

namespace Groups

def empty : Groups := ⟨[], [], 0⟩

def activeBase (groups : Groups) : Text :=
  match groups.anonymous with
  | [] => []
  | group :: _ => group.base

def baseOf (groups : Groups) (receiver : Text) : Text :=
  match groups.named.lookup receiver with
  | some group => group.base
  | none => groups.activeBase

def bindName (groups : Groups) (binder base : Text) : Groups :=
  { groups with named :=
    (binder, ⟨base, groups.depth⟩) :: groups.named.filter fun entry => entry.1 != binder }

def push (groups : Groups) (base : Text) : Groups :=
  { groups with anonymous := ⟨base, groups.depth⟩ :: groups.anonymous }

def advance (groups : Groups) (line : Text) : Groups :=
  let depth := groups.depth + braceBalance line
  ⟨groups.anonymous.dropWhile fun group => depth < group.depth,
    groups.named.filter fun entry => entry.2.depth ≤ depth, depth⟩

end Groups

/-- Reads one group of a line, and gives its full route. A chained group is not kept. -/
def readGroup (chained : Bool) (groups : Groups) (found : Found) : Groups × Option Text :=
  match found.part? 2, found.part? 3 with
  | some receiver, some literal =>
    let base := Route.base (Route.compose [groups.baseOf receiver, literal])
    match found.part? 1 with
    | some binder => (groups.bindName binder base, some base)
    | none => (if chained then groups else groups.push base, some base)
  | _, _ => (groups, none)

def readGroups (chained : Bool) (groups : Groups) (found : List Found) : Groups × Option Text :=
  found.foldl (fun (groups, last) found =>
    let (groups, base) := readGroup chained groups found
    (groups, base <|> last)) (groups, none)

/-- The endpoint of one route of a line; `inline` is the route of the last group on it. -/
def routeEndpoint? (file : Path) (line : Nat) (owner : Text) (groups : Groups) (inline : Option Text)
    (found : Found) : Option Endpoint :=
  match found.part? 2, found.part? 3 with
  | some verb, some literal =>
    let base := match found.part? 1 with
      | some receiver => groups.baseOf receiver
      | none => inline.getD groups.activeBase
    let handler := ((found.part? 4).filter (· != "func".toList)).getD []
    some ⟨Route.compose [base, literal], .ofToken verb, ⟨file, line⟩, owner, handler, some .echo⟩
  | _, _ => none

structure State where
  groups : Groups
  owner : Text
  endpoints : List Endpoint

def State.initial : State := ⟨.empty, Endpoint.defaultOwner, []⟩

def readLine (file : Path) (state : State) (place : Place) : State :=
  if isCommentOrBlank (Text.trim place.line) then state
  else
    let owner := (structPattern.partAtStart? 1 place.line).getD state.owner
    let routes := routePattern.findAll place.line
    let chained := routes.any fun route => (route.part? 1).isNone
    let (groups, inline) := readGroups chained state.groups (groupPattern.findAll place.line)
    let found := routes.filterMap (routeEndpoint? file place.number owner groups inline)
    ⟨groups.advance place.line, owner, state.endpoints ++ found⟩

def claims (content : Text) : Bool :=
  Text.contains content "echo.New()" || Text.contains content "*echo.Echo" ||
    Text.contains content "echo.Context" || Text.contains content "github.com/labstack/echo"

def extract (file : Path) (content : Text) : List Endpoint :=
  ((Place.all (Text.lines content)).foldl (readLine file) .initial).endpoints

end RouteAtlas.Echo
