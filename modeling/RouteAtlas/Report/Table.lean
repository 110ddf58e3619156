import RouteAtlas.Endpoint

namespace RouteAtlas

/-- A path relative to `root` when it lies below it, with plain slashes. -/
def displayPath (root path : Path) : Text :=
  ((path.below? root).getD path).spelling.map fun c => if c = '\\' then '/' else c

namespace Endpoint

def label (endpoint : Endpoint) : Text := endpoint.method.tag ++ ' ' :: endpoint.route

/-- Owner and handler, or the owner alone when the handler is not known. -/
def description (endpoint : Endpoint) : Text :=
  if endpoint.handler.isEmpty then endpoint.owner else endpoint.owner ++ '.' :: endpoint.handler

def badge (endpoint : Endpoint) : Text :=
  match endpoint.framework with
  | some framework => '[' :: framework.tag ++ [']']
  | none => []

end Endpoint

namespace Table

def pad (width : Nat) (text : Text) : Text := text ++ List.replicate (width - text.length) ' '

/-- The largest width that a printer takes from its caller. -/
def maxWidth : Nat := 65535

/-- Fills a text up to a width that depends on the table. -/
def pad? (width : Nat) (text : Text) : Option Text :=
  if width ≤ maxWidth then some (pad width text) else none

/-- The largest byte size among the texts. -/
def width (texts : List Text) : Nat := (texts.map Text.byteSize).foldl max 0

def badgeWidth : Nat := 15

def row? (root : Path) (labelWidth descriptionWidth : Nat) (endpoint : Endpoint) : Option Text := do
  let label ← pad? labelWidth endpoint.label
  let description ← pad? descriptionWidth endpoint.description
  return label ++ [' ', ' '] ++ description ++ [' ', ' '] ++ pad badgeWidth endpoint.badge ++
    [' ', ' '] ++ displayPath root endpoint.location.file ++
    ':' :: Text.ofNat (endpoint.location.line + 1)

/-- The table of endpoints, each line with a line feed at its end. There is none when a column is too
wide to be filled up. -/
def render? (root : Path) (endpoints : List Endpoint) : Option Text := do
  let labelWidth := width (endpoints.map (·.label))
  let descriptionWidth := width (endpoints.map (·.description))
  let rows ← endpoints.mapM (row? root labelWidth descriptionWidth)
  return rows.flatMap (· ++ ['\n'])

end Table

end RouteAtlas
