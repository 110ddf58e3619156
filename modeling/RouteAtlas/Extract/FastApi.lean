import RouteAtlas.Code.Indented
import RouteAtlas.Endpoint

namespace RouteAtlas.FastApi

open Pattern

def routerPattern : Pattern := .boundary ++ text "APIRouter" ++ .boundary

def basePattern : Pattern := Indented.keywordPattern "prefix"

def verbs : List Text := ["get", "post", "put", "delete", "patch", "head", "options", "trace"]

def verbPattern : Pattern := choice (verbs.map anyCase)

def decoratorPattern : Pattern :=
  blanks ++ text "@" ++ name ++ text "." ++ .capture 1 verbPattern ++ .boundary

def anyDecoratorPattern : Pattern :=
  text "@" ++ name ++ text "." ++ verbPattern ++ blanks ++ text "("

def endpointAt? (file : Path) (base : Text) (place : Place) : Option Endpoint := do
  let found ← decoratorPattern.atStart? place.line
  let verb ← found.part? 1
  let call ← Call.read? found.rest place.below
  let route ← Indented.routeLiteral? call.text
  return ⟨Route.compose [base, route], .ofToken verb, ⟨file, place.number⟩,
    (Indented.nearestClass? place.above).getD Endpoint.defaultOwner,
    Indented.handlerBelow 0 (place.below.drop call.span), some .fastApi⟩

def baseOf (lines : List Text) : Text :=
  ((Indented.constructorKeyword? routerPattern basePattern lines).map Route.base).getD []

def claims (content : Text) : Bool :=
  (Text.contains content "from fastapi" || Text.contains content "import fastapi") &&
    anyDecoratorPattern.startsLineOf content

def extract (file : Path) (content : Text) : List Endpoint :=
  let lines := Text.lines content
  (Place.all lines).filterMap (endpointAt? file (baseOf lines))

end RouteAtlas.FastApi
