import RouteAtlas.Path
import RouteAtlas.Text.Basic
import RouteAtlas.Text.Lowercase

namespace RouteAtlas

namespace Route

def segments (fragments : List Text) : List Text :=
  ((fragments.flatMap (Text.splitOn '/')).map Text.trim).filter fun segment => !segment.isEmpty

def compose (fragments : List Text) : Text := '/' :: Text.join ['/'] (segments fragments)

def base (fragment : Text) : Text :=
  let composed := compose [fragment]
  if composed = ['/'] then [] else composed

end Route

inductive Method where
  | get
  | post
  | put
  | delete
  | patch
  | unknown
deriving DecidableEq, Repr

namespace Method

def tag : Method → Text
  | .get => "GET"
  | .post => "POST"
  | .put => "PUT"
  | .delete => "DELETE"
  | .patch => "PATCH"
  | .unknown => "UNKNOWN"

def ofToken (token : Text) : Method :=
  let verb := Text.upperBasic (Text.trim token)
  match [Method.get, .post, .put, .delete, .patch].find? (·.tag == verb) with
  | some method => method
  | none => .unknown

end Method

inductive Framework where
  | spring
  | jaxRs
  | gin
  | echo
  | fastApi
  | flask
  | flaskRestful
deriving DecidableEq, Repr

namespace Framework

def tag : Framework → Text
  | .spring => "Spring"
  | .jaxRs => "JAX-RS"
  | .gin => "Gin"
  | .echo => "Echo"
  | .fastApi => "FastAPI"
  | .flask => "Flask"
  | .flaskRestful => "Flask-RESTful"

def all : List Framework := [.spring, .jaxRs, .gin, .echo, .fastApi, .flask, .flaskRestful]

def extracted : List Framework := [.spring, .jaxRs, .gin, .echo, .fastApi, .flask]

def extractor : Framework → Framework
  | .flaskRestful => .flask
  | other => other

def ofName? (name : Text) : Option Framework :=
  let lowered := lower name
  if lowered = "spring".toList then some .spring
  else if lowered = "jax-rs".toList ∨ lowered = "jaxrs".toList then some .jaxRs
  else if lowered = "gin".toList then some .gin
  else if lowered = "echo".toList then some .echo
  else if lowered = "fastapi".toList then some .fastApi
  else if lowered = "flask".toList then some .flask
  else if lowered = "flask-restful".toList ∨ lowered = "flask_restful".toList then
    some .flaskRestful
  else none

def unsupported (name : Text) : Text := "unsupported framework: ".toList ++ name

def byPriority (selected : List Framework) : List Framework :=
  extracted.filter fun framework => selected.any (·.extractor == framework)

end Framework

/-- Where an endpoint is declared. Lines count from zero. -/
structure Location where
  file : Path
  line : Nat
deriving DecidableEq, Repr

structure Endpoint where
  route : Text
  method : Method
  location : Location
  owner : Text
  /-- The function that serves the route; empty when it is not known. -/
  handler : Text
  framework : Option Framework
deriving DecidableEq, Repr

namespace Endpoint

def defaultOwner : Text := "main"

def fields (endpoint : Endpoint) : List Text :=
  [endpoint.route, endpoint.method.tag, endpoint.owner, endpoint.handler,
    (endpoint.framework.map (·.tag)).getD []]

def mentions (endpoint : Endpoint) (needle : Text) : Bool :=
  endpoint.fields.any fun field => Text.contains (lower field) needle

end Endpoint

def search (endpoints : List Endpoint) (query : Text) : List Endpoint :=
  let needle := lower query
  if needle.isEmpty then endpoints else endpoints.filter (·.mentions needle)

end RouteAtlas
