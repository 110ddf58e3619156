import RouteAtlas.Code.Annotations
import RouteAtlas.Code.ClassScope
import RouteAtlas.Endpoint
import RouteAtlas.Text.Basic

namespace RouteAtlas.JaxRs

def verbs : List Text := ["GET", "POST", "PUT", "DELETE", "PATCH", "HEAD", "OPTIONS"]

structure Pending where
  verb : Option (Method × Nat)
  path : Option (Text × Nat)
deriving DecidableEq, Repr

def Pending.none : Pending := ⟨.none, .none⟩

/-- True for the rest of a member declaration: a parameter list starts before any equals sign. -/
def isMember : (declaration : Text) → Bool
  | [] => false
  | c :: rest => if c = '(' then true else if c = '=' then false else isMember rest

/-- The method of a member and its line, the first of its annotations; none without annotations. A
member with a path alone leads to another resource, and its method is unknown. -/
def Pending.method? : Pending → Option (Method × Nat)
  | ⟨some (verb, verbLine), some (_, pathLine)⟩ => some (verb, min verbLine pathLine)
  | ⟨some (verb, verbLine), .none⟩ => some (verb, verbLine)
  | ⟨.none, some (_, pathLine)⟩ => some (.unknown, pathLine)
  | ⟨.none, .none⟩ => .none

def memberEndpoint? (file : Path) (scope : ClassScope Text) (pending : Pending)
    (declaration : Text) : Option Endpoint :=
  pending.method?.map fun (method, line) =>
    let route := (pending.path.map (·.1)).getD ['/']
    ⟨Route.compose [scope.header, route], method, ⟨file, line⟩, scope.name,
      (declaredName? declaration).getD [], some .jaxRs⟩

structure State where
  scopes : ClassScopes Text
  classPath : Text
  pending : Pending
  endpoints : List Endpoint

def State.initial : State := ⟨.empty, [], .none, []⟩

def readSite (place : Place) (state : State) (site : AnnotationSite) : State :=
  if site.name = "Path".toList then
    if annotatesClass place.line place.below site.span then
      { state with classPath := Route.base ((firstDoubleQuoted? site.arguments).getD []) }
    else
      let route := (firstDoubleQuoted? site.arguments).getD ['/']
      { state with pending := { state.pending with path := some (route, place.number) } }
  else if site.name ∈ verbs then
    { state with pending := { state.pending with verb := some (.ofToken site.name, place.number) } }
  else state

def readDeclaration (file : Path) (state : State) (trimmed : Text) : State :=
  match className? trimmed with
  | some name =>
    { state with
      scopes := state.scopes.openClass name state.classPath, classPath := [], pending := .none }
  | none =>
    match (afterVisibility? trimmed).filter isMember with
    | some declaration =>
      let found := state.scopes.current?.bind fun scope =>
        memberEndpoint? file scope state.pending declaration
      { state with pending := .none, endpoints := state.endpoints ++ found.toList }
    | none => state

def readLine (file : Path) (state : State) (place : Place) : State :=
  let trimmed := Text.trim place.line
  if isCommentOrBlank trimmed then state
  else
    let state := (annotationsOn place.line place.below).foldl (readSite place) state
    let state := readDeclaration file state trimmed
    { state with scopes := state.scopes.advance place.line }

def claims (content : Text) : Bool := Text.contains content "@Path"

def extract (file : Path) (content : Text) : List Endpoint :=
  ((Place.all (Text.lines content)).foldl (readLine file) .initial).endpoints

end RouteAtlas.JaxRs
