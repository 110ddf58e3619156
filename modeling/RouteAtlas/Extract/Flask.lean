import RouteAtlas.Code.Indented
import RouteAtlas.Endpoint

namespace RouteAtlas.Flask

open Pattern

def blueprintPattern : Pattern := .boundary ++ text "Blueprint" ++ .boundary

def basePattern : Pattern := Indented.keywordPattern "url_prefix"

def verbPattern : Pattern :=
  Indented.defPattern ++ .capture 1 (anyOf ["get", "post", "put", "delete", "patch"]) ++ blanks ++
    text "("

def addResourcePattern : Pattern := text ".add_resource" ++ .boundary

def resourceArgumentsPattern : Pattern :=
  blanks ++ .capture 1 dottedName ++ blanks ++ text "," ++ blanks ++
    Indented.literalPattern 2

def routeDecoratorPattern : Pattern :=
  blanks ++ text "@" ++ .one isDotted ++ .upToMany isDotted ++ text ".route" ++ .boundary

def addRulePattern : Pattern := text ".add_url_rule" ++ .boundary

def methodsPattern : Pattern :=
  text "methods" ++ blanks ++ text "=" ++ blanks ++ .one (fun c => c == '[' || c == '(') ++
    .capture 1 (.many fun c => !(c == ']' || c == ')')) ++ .one (fun c => c == ']' || c == ')')

def viewPattern : Pattern :=
  text "view_func" ++ blanks ++ text "=" ++ blanks ++ .capture 1 dottedName

def addMethod (methods : List Method) (method : Method) : List Method :=
  if method ∈ methods then methods else methods ++ [method]

/-- The distinct methods of the functions in a class body, which ends where the indentation does. -/
def bodyMethods (indent : Nat) (methods : List Method) : List Text → List Method
  | [] => methods
  | line :: below =>
    if Indented.isRemark (Text.trim line) then bodyMethods indent methods below
    else if indentOf line ≤ indent then methods
    else
      match verbPattern.partAtStart? 1 line with
      | some verb => bodyMethods indent (addMethod methods (.ofToken verb)) below
      | none => bodyMethods indent methods below

def resourceAt? (place : Place) : Option (Text × List Method) :=
  (Indented.className? place.line).map fun name =>
    (name, bodyMethods (indentOf place.line) [] place.below)

def resources (lines : List Text) : List (Text × List Method) :=
  ((Place.all lines).filterMap resourceAt?).reverse

/-- The methods of a registered class. A class that is not known, or has none, answers to GET. -/
def methodsOf (resources : List (Text × List Method)) (name : Text) : List Method :=
  match resources.lookup name with
  | some [] => [.get]
  | some methods => methods
  | none => [.get]

/-- The distinct methods listed in the arguments of a call; GET when none is. -/
def declaredMethods (arguments : Text) : List Method :=
  let items := ((methodsPattern.partIn? 1 arguments).map (Text.splitOn ',')).getD []
  let tokens := items.map fun item => (firstLiteral? item).getD (Text.trim item)
  let methods := (tokens.filter (!·.isEmpty)).foldl (fun found token =>
    addMethod found (.ofToken token)) []
  if methods.isEmpty then [.get] else methods

/-- Drops `tail` from the end as often as it stands there, at most `bound` times. -/
def dropTails (tail : Text) : (bound : Nat) → Text → Text
  | 0, text => text
  | bound + 1, text =>
    if Text.endsWith text tail then dropTails tail bound (text.take (text.length - tail.length))
    else text

def viewName (view : Text) : Text := dropTails ".as_view" view.length view

def resourceEndpoints (file : Path) (base : Text) (known : List (Text × List Method))
    (place : Place) (found : Found) : List Endpoint :=
  let read : Option (Text × Text) := do
    let call ← Call.read? found.rest place.below
    let pair ← resourceArgumentsPattern.atStart? call.text
    let name ← pair.part? 1
    let route ← pair.part? 2
    return (Text.afterLast '.' name, route)
  match read with
  | some (name, route) =>
    (methodsOf known name).map fun method =>
      ⟨Route.compose [base, route], method, ⟨file, place.number⟩, name,
        Text.lowerBasic method.tag, some .flaskRestful⟩
  | none => []

def routeEndpoints (file : Path) (base : Text) (place : Place) (found : Found)
    (handlerOf : Call → Text) : List Endpoint :=
  let read : Option (Call × Text) := do
    let call ← Call.read? found.rest place.below
    let route ← Indented.routeLiteral? call.text
    return (call, route)
  match read with
  | some (call, route) =>
    let owner := (Indented.enclosingClass? place).getD Endpoint.defaultOwner
    (declaredMethods call.text).map fun method =>
      ⟨Route.compose [base, route], method, ⟨file, place.number⟩, owner, handlerOf call,
        some .flask⟩
  | none => []

def endpointsAt (file : Path) (base : Text) (known : List (Text × List Method)) (place : Place) :
    List Endpoint :=
  if (Text.trimStart place.line).head? == some '#' then []
  else
    match addResourcePattern.find? place.line with
    | some found => resourceEndpoints file base known place found
    | none =>
      match routeDecoratorPattern.atStart? place.line with
      | some found => routeEndpoints file base place found fun call =>
          Indented.handlerBelow 0 (place.below.drop call.span)
      | none =>
        match addRulePattern.find? place.line with
        | some found => routeEndpoints file base place found fun call =>
            ((viewPattern.partIn? 1 call.text).map viewName).getD []
        | none => []

def baseOf (lines : List Text) : Text :=
  ((Indented.constructorKeyword? blueprintPattern basePattern lines).map Route.base).getD []

def claims (content : Text) : Bool :=
  Text.contains content "from flask" || Text.contains content "import flask" ||
    Text.contains content "@app.route" || Text.contains content ".add_resource("

def extract (file : Path) (content : Text) : List Endpoint :=
  let lines := Text.lines content
  (Place.all lines).flatMap (endpointsAt file (baseOf lines) (resources lines))

end RouteAtlas.Flask
