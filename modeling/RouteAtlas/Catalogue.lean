import RouteAtlas.Extract.Echo
import RouteAtlas.Extract.FastApi
import RouteAtlas.Extract.Flask
import RouteAtlas.Extract.JaxRs
import RouteAtlas.Extract.Spring

namespace RouteAtlas

namespace Gin

def claims (content : Text) : Bool :=
  Text.contains content "gin.Engine" || Text.contains content "gin.Context"

/-- Files of the framework are recognised so that no other extractor takes them, but no endpoint is
extracted. -/
def extract (_file : Path) (_content : Text) : List Endpoint := []

end Gin

structure Extractor where
  framework : Framework
  extensions : List Text
  claims : Text → Bool
  extract : Path → Text → List Endpoint

def Framework.extractorOf : Framework → Extractor
  | .spring => ⟨.spring, ["java"], Spring.claims, Spring.extract⟩
  | .jaxRs => ⟨.jaxRs, ["java"], JaxRs.claims, JaxRs.extract⟩
  | .gin => ⟨.gin, ["go"], Gin.claims, Gin.extract⟩
  | .echo => ⟨.echo, ["go"], Echo.claims, Echo.extract⟩
  | .fastApi => ⟨.fastApi, ["py"], FastApi.claims, FastApi.extract⟩
  | .flask | .flaskRestful => ⟨.flask, ["py"], Flask.claims, Flask.extract⟩

structure Catalogue where
  extractors : List Extractor

def insertText (text : Text) : List Text → List Text
  | [] => [text]
  | head :: tail =>
    match Text.compare text head with
    | .lt => text :: head :: tail
    | .eq => head :: tail
    | .gt => head :: insertText text tail

namespace Catalogue

def ofList (frameworks : List Framework) : Catalogue := ⟨frameworks.map (·.extractorOf)⟩

def ofFrameworks (selected : List Framework) : Catalogue := ofList (Framework.byPriority selected)

def full : Catalogue := ofFrameworks Framework.extracted

def extensions (catalogue : Catalogue) : List Text :=
  (catalogue.extractors.flatMap (·.extensions)).foldl (fun known text => insertText text known) []

def handles (catalogue : Catalogue) (path : Path) : Bool :=
  match path.extension? with
  | some extension => catalogue.extensions.contains extension
  | none => false

def select? (catalogue : Catalogue) (path : Path) (content : Text) : Option Extractor := do
  let extension ← path.extension?
  catalogue.extractors.find? fun extractor =>
    extractor.extensions.contains extension && extractor.claims content

def frameworks (catalogue : Catalogue) : List Framework := catalogue.extractors.map (·.framework)

def endpoints? (catalogue : Catalogue) (path : Path) (content : Text) : Option (List Endpoint) :=
  (catalogue.select? path content).map fun extractor => extractor.extract path content

end Catalogue

end RouteAtlas
