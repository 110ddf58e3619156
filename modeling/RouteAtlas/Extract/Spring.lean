import RouteAtlas.Code.Annotations
import RouteAtlas.Code.ClassScope
import RouteAtlas.Endpoint
import RouteAtlas.Text.Alphanumeric
import RouteAtlas.Text.Basic

namespace RouteAtlas.Spring

open Pattern

def requestMethodPattern : Pattern := text "RequestMethod." ++ .capture 1 name

def namedRoutePattern : Pattern :=
  .boundary ++ anyOf ["value", "path"] ++ blanks ++ text "=" ++ blanks ++ maybe (.one (· == '{')) ++
    blanks ++ .one (· == '"') ++ .capture 1 (.many (· != '"')) ++ .one (· == '"')

def mappings : List Text :=
  ["GetMapping", "PostMapping", "PutMapping", "DeleteMapping", "PatchMapping", "RequestMapping"]

def mappingMethod? (name arguments : Text) : Option Method :=
  if name = "GetMapping".toList then some .get
  else if name = "PostMapping".toList then some .post
  else if name = "PutMapping".toList then some .put
  else if name = "DeleteMapping".toList then some .delete
  else if name = "PatchMapping".toList then some .patch
  else if name = "RequestMapping".toList then
    some (((requestMethodPattern.partIn? 1 arguments).map Method.ofToken).getD .get)
  else none

def mappingRoute? (arguments : Text) : Option Text :=
  match namedRoutePattern.partIn? 1 arguments with
  | some route => some route
  | none =>
    let positional := Text.trimStart ((Text.trimStart arguments).dropWhile (· == '{'))
    if positional.head? == some '"' then firstDoubleQuoted? positional else none

def startsWithMapping (trimmed : Text) : Bool :=
  match trimmed with
  | '@' :: rest => mappings.any fun mapping =>
    match Text.after? mapping rest with
    | some after => !after.head?.any isAlphanumeric
    | none => false
  | _ => false

/--
The handler among the texts after a mapping: the name declared after the first visibility word,
unless a class or another mapping comes first.
-/
def handlerIn : List Text → Text
  | [] => []
  | line :: below =>
    let trimmed := Text.trim line
    match afterVisibility? trimmed with
    | some declaration => (declaredName? declaration).getD []
    | none =>
      if (className? trimmed).isSome || startsWithMapping trimmed then [] else handlerIn below

structure Header where
  controller : Bool
  base : Text
deriving DecidableEq, Repr

def Header.plain : Header := ⟨false, []⟩

structure State where
  scopes : ClassScopes Header
  pending : Header
  endpoints : List Endpoint

def State.initial : State := ⟨.empty, .plain, []⟩

def readSite (file : Path) (place : Place) (state : State) (site : AnnotationSite) : State :=
  if site.name = "Controller".toList ∨ site.name = "RestController".toList then
    { state with pending := { state.pending with controller := true } }
  else if site.name = "RequestMapping".toList ∧
      annotatesClass place.line place.below site.span = true then
    { state with pending :=
      { state.pending with base := ((mappingRoute? site.arguments).map Route.base).getD [] } }
  else
    match mappingMethod? site.name site.arguments, state.scopes.current? with
    | some method, some scope =>
      if scope.header.controller then
        let route := Route.compose [scope.header.base, (mappingRoute? site.arguments).getD ['/']]
        let handler := handlerIn (site.rest :: place.below.drop site.span)
        let endpoint : Endpoint :=
          ⟨route, method, ⟨file, place.number⟩, scope.name, handler, some .spring⟩
        { state with endpoints := state.endpoints ++ [endpoint] }
      else state
    | _, _ => state

def openClass (state : State) (trimmed : Text) : State :=
  match className? trimmed with
  | some name =>
    { state with scopes := state.scopes.openClass name state.pending, pending := .plain }
  | none => state

def readLine (file : Path) (state : State) (place : Place) : State :=
  let trimmed := Text.trim place.line
  if isCommentOrBlank trimmed then state
  else
    let state := (annotationsOn place.line place.below).foldl (readSite file place) state
    let state := openClass state trimmed
    { state with scopes := state.scopes.advance place.line }

def claims (content : Text) : Bool :=
  Text.contains content "@Controller" || Text.contains content "@RestController" ||
    Text.contains content "@RequestMapping"

def extract (file : Path) (content : Text) : List Endpoint :=
  ((Place.all (Text.lines content)).foldl (readLine file) .initial).endpoints

end RouteAtlas.Spring
