import RouteAtlas.Extract.FastApi
import RouteAtlas.Extract.Flask
import RouteAtlas.Proofs.Numbered.Indented

namespace RouteAtlas.Numbered

open Indented (constructorKeyword? isRemark isQuote routeLiteral?)

def baseOf (constructor keyword : Pattern) (lines : List Text) : Checked Text := do
  let found ← constructorKeyword constructor keyword lines
  return (found.map Route.base).getD []

theorem baseOf_eq (constructor keyword : Pattern) (lines : List Text) :
    baseOf constructor keyword lines =
      .ok (((constructorKeyword? constructor keyword lines).map Route.base).getD []) := by
  rw [baseOf, constructorKeyword_eq]
  rfl

namespace FastApi

open RouteAtlas.FastApi (decoratorPattern routerPattern basePattern)

def endpointAt (file : Path) (base : Text) (lines : List Text) : Text × Nat → Checked (Option Endpoint)
  | (line, number) =>
    match decoratorPattern.atStart? line with
    | none => return none
    | some found =>
      match found.part? 1 with
      | none => return none
      | some verb => do
        match ← callBehind lines number line found with
        | none => return none
        | some call => do
          match ← routeLiteral call.text with
          | none => return none
          | some route => do
            let owner ← nearestClassBefore lines number
            let handler ← handlerAfter lines call.endLine
            return some ⟨Route.compose [base, route], .ofToken verb, ⟨file, number⟩,
              owner.getD Endpoint.defaultOwner, handler, some .fastApi⟩

def extract (file : Path) (content : Text) : Checked (List Endpoint) := do
  let lines := Text.lines content
  let base ← baseOf routerPattern basePattern lines
  let found ← lines.zipIdx.mapM (endpointAt file base lines)
  return found.filterMap id

variable {file : Path} {base : Text} {lines : List Text} {place : Place}

theorem endpointAt_eq (member : place ∈ Place.all lines) :
    endpointAt file base lines (place.line, place.number) =
      .ok (RouteAtlas.FastApi.endpointAt? file base place) := by
  unfold endpointAt RouteAtlas.FastApi.endpointAt?
  dsimp only
  cases here : decoratorPattern.atStart? place.line with
  | none => rfl
  | some found =>
  cases verb : found.part? 1 with
  | none => simp [verb]
  | some verb =>
  have suffix : found.rest <:+ place.line := Pattern.rest_suffix_of_at? here
  cases read : Call.read? found.rest place.below with
  | none => simp [verb, read, callBehind_of_none member suffix read]
  | some call =>
  obtain ⟨answer, called, text, row⟩ := exists_callBehind member suffix read
  cases route : routeLiteral? call.text with
  | none => simp [called, text, routeLiteral_eq, read, route, verb]
  | some route =>
    simp [called, text, row, routeLiteral_eq, read, route, verb, nearestClassBefore_eq member,
      handlerAfter_eq member]

theorem extract_eq (file : Path) (content : Text) :
    extract file content = .ok (RouteAtlas.FastApi.extract file content) := by
  rw [extract, baseOf_eq, ok_bind, mapM_zipIdx fun place member => endpointAt_eq member, ok_bind,
    List.filterMap_map]
  rfl

end FastApi

namespace Flask

open RouteAtlas.Flask (verbPattern addMethod methodsOf methodsPattern resourceArgumentsPattern
  addResourcePattern routeDecoratorPattern addRulePattern viewPattern viewName blueprintPattern
  basePattern)

def bodyMethods (indentation : Nat) (methods : List Method) : List Text → Checked (List Method)
  | [] => return methods
  | line :: below =>
    if isRemark (Text.trim line) then bodyMethods indentation methods below
    else do
      let inner ← indent line
      if inner ≤ indentation then return methods
      else
        match verbPattern.partAtStart? 1 line with
        | some verb => bodyMethods indentation (addMethod methods (.ofToken verb)) below
        | none => bodyMethods indentation methods below

def resourceAt (lines : List Text) : Text × Nat → Checked (Option (Text × List Method))
  | (line, number) =>
    match Indented.className? line with
    | none => return none
    | some name => do
      let indentation ← indent line
      let below ← linesFrom lines (number + 1)
      let methods ← bodyMethods indentation [] below
      return some (name, methods)

def resources (lines : List Text) : Checked (List (Text × List Method)) := do
  let found ← lines.zipIdx.mapM (resourceAt lines)
  return (found.filterMap id).reverse

def declaredMethods (arguments : Text) : Checked (List Method) := do
  let items := ((methodsPattern.partIn? 1 arguments).map (Text.splitOn ',')).getD []
  let tokens ← items.mapM fun item => do
    let literal ← firstQuoted isQuote item
    return literal.getD (Text.trim item)
  let methods := (tokens.filter (!·.isEmpty)).foldl (fun found token =>
    addMethod found (.ofToken token)) []
  return if methods.isEmpty then [.get] else methods

def resourceArguments? (arguments : Text) : Option (Text × Text) := do
  let pair ← resourceArgumentsPattern.atStart? arguments
  let name ← pair.part? 1
  let route ← pair.part? 2
  return (Text.afterLast '.' name, route)

def resourceEndpoints (file : Path) (base : Text) (known : List (Text × List Method))
    (lines : List Text) (number : Nat) (line : Text) (found : Found) : Checked (List Endpoint) := do
  match ← callBehind lines number line found with
  | none => return []
  | some call =>
    match resourceArguments? call.text with
    | none => return []
    | some (name, route) => return (methodsOf known name).map fun method =>
        ⟨Route.compose [base, route], method, ⟨file, number⟩, name, Text.lowerBasic method.tag,
          some .flaskRestful⟩

def routeEndpoints (file : Path) (base : Text) (lines : List Text) (number : Nat) (line : Text)
    (found : Found) (handlerOf : CallArguments → Checked Text) : Checked (List Endpoint) := do
  match ← callBehind lines number line found with
  | none => return []
  | some call => do
    match ← routeLiteral call.text with
    | none => return []
    | some route => do
      let handler ← handlerOf call
      let owner ← enclosingClass lines number
      let methods ← declaredMethods call.text
      return methods.map fun method =>
        ⟨Route.compose [base, route], method, ⟨file, number⟩, owner.getD Endpoint.defaultOwner,
          handler, some .flask⟩

def endpointsAt (file : Path) (base : Text) (known : List (Text × List Method)) (lines : List Text) :
    Text × Nat → Checked (List Endpoint)
  | (line, number) =>
    if (Text.trimStart line).head? == some '#' then return []
    else
      match addResourcePattern.find? line with
      | some found => resourceEndpoints file base known lines number line found
      | none =>
        match routeDecoratorPattern.atStart? line with
        | some found => routeEndpoints file base lines number line found fun call =>
            handlerAfter lines call.endLine
        | none =>
          match addRulePattern.find? line with
          | some found => routeEndpoints file base lines number line found fun call =>
              return ((viewPattern.partIn? 1 call.text).map viewName).getD []
          | none => return []

def extract (file : Path) (content : Text) : Checked (List Endpoint) := do
  let lines := Text.lines content
  let known ← resources lines
  let base ← baseOf blueprintPattern basePattern lines
  let found ← lines.zipIdx.mapM (endpointsAt file base known lines)
  return found.flatten

variable {file : Path} {base : Text} {known : List (Text × List Method)} {lines : List Text}
  {place : Place} {found : Found}

theorem bodyMethods_eq (indentation : Nat) (methods : List Method) (below : List Text) :
    bodyMethods indentation methods below =
      .ok (RouteAtlas.Flask.bodyMethods indentation methods below) := by
  induction below generalizing methods with
  | nil => rfl
  | cons line below ih =>
    rw [bodyMethods, RouteAtlas.Flask.bodyMethods, indent_eq, ok_bind]
    split
    · exact ih methods
    split
    · rfl
    · cases verbPattern.partAtStart? 1 line with
      | some verb => exact ih _
      | none => exact ih methods

theorem resources_eq (lines : List Text) :
    resources lines = .ok (RouteAtlas.Flask.resources lines) := by
  have each (place : Place) (member : place ∈ Place.all lines) :
      resourceAt lines (place.line, place.number) = .ok (RouteAtlas.Flask.resourceAt? place) := by
    unfold resourceAt RouteAtlas.Flask.resourceAt?
    dsimp only
    cases Indented.className? place.line with
    | none => rfl
    | some name => simp [indent_eq, linesFrom_number member, bodyMethods_eq]
  rw [resources, mapM_zipIdx each, ok_bind, List.filterMap_map]
  rfl

theorem declaredMethods_eq (arguments : Text) :
    declaredMethods arguments = .ok (RouteAtlas.Flask.declaredMethods arguments) := by
  have each (items : List Text) : (items.mapM fun item => do
      let literal ← firstQuoted isQuote item
      return literal.getD (Text.trim item) : Checked (List Text)) =
        .ok (items.map fun item => (firstLiteral? item).getD (Text.trim item)) :=
    mapM_eq_ok fun item _ => by rw [firstQuoted_literal, ok_bind]; rfl
  rw [declaredMethods, each, ok_bind]
  rfl

theorem resourceEndpoints_eq (member : place ∈ Place.all lines) (suffix : found.rest <:+ place.line) :
    resourceEndpoints file base known lines place.number place.line found =
      .ok (RouteAtlas.Flask.resourceEndpoints file base known place found) := by
  unfold resourceEndpoints RouteAtlas.Flask.resourceEndpoints
  cases read : Call.read? found.rest place.below with
  | none => simp [callBehind_of_none member suffix read]
  | some call =>
    obtain ⟨answer, called, text, _⟩ := exists_callBehind member suffix read
    simp only [called, ok_bind, text, resourceArguments?, Option.bind_eq_bind, Option.bind_some]
    generalize (resourceArgumentsPattern.atStart? call.text).bind _ = arguments
    cases arguments <;> rfl

theorem routeEndpoints_eq (member : place ∈ Place.all lines) (suffix : found.rest <:+ place.line)
    {handlerOf : CallArguments → Checked Text} {handler : Call → Text}
    (alike : ∀ answer call, answer.text = call.text → answer.endLine = place.number + call.span →
      handlerOf answer = .ok (handler call)) :
    routeEndpoints file base lines place.number place.line found handlerOf =
      .ok (RouteAtlas.Flask.routeEndpoints file base place found handler) := by
  unfold routeEndpoints RouteAtlas.Flask.routeEndpoints
  cases read : Call.read? found.rest place.below with
  | none => simp [callBehind_of_none member suffix read]
  | some call =>
    obtain ⟨answer, called, text, row⟩ := exists_callBehind member suffix read
    cases route : routeLiteral? call.text with
    | none => simp [called, text, routeLiteral_eq, route]
    | some route =>
      simp [called, text, routeLiteral_eq, route, alike answer call text row, enclosingClass_eq member,
        declaredMethods_eq]

theorem endpointsAt_eq (member : place ∈ Place.all lines) :
    endpointsAt file base known lines (place.line, place.number) =
      .ok (RouteAtlas.Flask.endpointsAt file base known place) := by
  unfold endpointsAt RouteAtlas.Flask.endpointsAt
  dsimp only
  split
  · rfl
  cases resource : addResourcePattern.find? place.line with
  | some found => exact resourceEndpoints_eq member (rest_suffix_of_find? resource)
  | none =>
  cases decorator : routeDecoratorPattern.atStart? place.line with
  | some found =>
    refine routeEndpoints_eq member (Pattern.rest_suffix_of_at? decorator) fun answer call _ row => ?_
    rw [row, handlerAfter_eq member]
  | none =>
  cases rule : addRulePattern.find? place.line with
  | some found =>
    refine routeEndpoints_eq member (rest_suffix_of_find? rule) fun answer call text _ => ?_
    rw [text]
    rfl
  | none => rfl

theorem extract_eq (file : Path) (content : Text) :
    extract file content = .ok (RouteAtlas.Flask.extract file content) := by
  rw [extract, resources_eq, ok_bind, baseOf_eq, ok_bind,
    mapM_zipIdx fun place member => endpointsAt_eq member, ok_bind, ← List.flatMap_def]
  rfl

end Flask

end RouteAtlas.Numbered
