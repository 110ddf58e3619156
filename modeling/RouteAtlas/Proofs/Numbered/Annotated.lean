import RouteAtlas.Proofs.JaxRs.Resources
import RouteAtlas.Proofs.Numbered.Reader
import RouteAtlas.Proofs.Spring.Controllers

namespace RouteAtlas.Numbered

def advance {α : Type} (state : ClassScopes α) (line : Text) : Checked (ClassScopes α) := do
  let (opens, depth) ← descend state.depth line
  let scopes := if 0 < opens then ClassScopes.enterTop state.scopes else state.scopes
  return ⟨scopes.dropWhile fun top => top.entered && depth ≤ top.openDepth, depth⟩

theorem advance_eq {α : Type} {state : ClassScopes α} {line : Text}
    (few : state.depth.natAbs + braceCount line < 2 ^ 31) :
    advance state line = .ok (state.advance line) := by
  rw [advance, descend_eq few, ok_bind]
  simp only [Int.natCast_pos]
  rfl

namespace Spring

open RouteAtlas.Spring (State namedRoutePattern mappingRoute? startsWithMapping mappingMethod? openClass)

def routeOf (arguments : Text) : Checked (Option Text) :=
  match namedRoutePattern.partIn? 1 arguments with
  | some route => return some route
  | none =>
    let positional := Text.trimStart ((Text.trimStart arguments).dropWhile (· == '{'))
    if positional.head? == some '"' then firstQuoted (· == '"') positional else return none

def handlerOf : List Text → Checked Text
  | [] => return []
  | text :: below => do
    let trimmed := Text.trim text
    match ← afterVisibility trimmed with
    | some declaration => return (declaredName? declaration).getD []
    | none =>
      if (className? trimmed).isSome || startsWithMapping trimmed then return [] else handlerOf below

def readMapping (file : Path) (lines : List Text) (number : Nat) (state : State) (site : Annotation) :
    Checked State :=
  match mappingMethod? site.name site.arguments, state.scopes.current? with
  | some method, some scope =>
    if scope.header.controller then do
      let route ← routeOf site.arguments
      let handler ← handlerOf (site.rest :: lines.drop (site.endLine + 1))
      let endpoint : Endpoint := ⟨Route.compose [scope.header.base, route.getD ['/']], method,
        ⟨file, number⟩, scope.name, handler, some .spring⟩
      return { state with endpoints := state.endpoints ++ [endpoint] }
    else return state
  | _, _ => return state

def readSite (file : Path) (lines : List Text) (number : Nat) (state : State) (site : Annotation) :
    Checked State :=
  if site.name = "Controller".toList ∨ site.name = "RestController".toList then
    return { state with pending := { state.pending with controller := true } }
  else if site.name = "RequestMapping".toList then do
    if ← annotatesClassAt lines number site.endLine then do
      let route ← routeOf site.arguments
      return { state with pending := { state.pending with base := (route.map Route.base).getD [] } }
    else readMapping file lines number state site
  else readMapping file lines number state site

def reader (file : Path) (lines : List Text) : Reader State :=
  .annotated lines (readSite file lines) (fun state trimmed => return openClass state trimmed)
    fun state line => do
      let scopes ← advance state.scopes line
      return { state with scopes }

def extract (file : Path) (content : Text) : Checked (List Endpoint) := do
  let lines := Text.lines content
  let state ← lines.zipIdx.foldlM (reader file lines).readLine .initial
  return state.endpoints

variable {file : Path} {lines : List Text} {place : Place} {state : State} {site : AnnotationSite}

theorem routeOf_eq (arguments : Text) : routeOf arguments = .ok (mappingRoute? arguments) := by
  rw [routeOf, mappingRoute?]
  cases namedRoutePattern.partIn? 1 arguments with
  | some route => rfl
  | none =>
    dsimp only
    split
    · exact firstQuoted_double _
    · rfl

theorem handlerOf_eq (texts : List Text) : handlerOf texts = .ok (RouteAtlas.Spring.handlerIn texts) := by
  induction texts with
  | nil => rfl
  | cons text below ih =>
    rw [handlerOf, afterVisibility_eq, ok_bind, RouteAtlas.Spring.handlerIn]
    cases afterVisibility? (Text.trim text) with
    | some declaration => rfl
    | none =>
      dsimp only
      split
      · rfl
      · exact ih

def mapped (file : Path) (place : Place) (state : State) (site : AnnotationSite) : State :=
  match mappingMethod? site.name site.arguments, state.scopes.current? with
  | some method, some scope =>
    if scope.header.controller then
      let route := Route.compose [scope.header.base, (mappingRoute? site.arguments).getD ['/']]
      let handler := RouteAtlas.Spring.handlerIn (site.rest :: place.below.drop site.span)
      let endpoint : Endpoint :=
        ⟨route, method, ⟨file, place.number⟩, scope.name, handler, some .spring⟩
      { state with endpoints := state.endpoints ++ [endpoint] }
    else state
  | _, _ => state

theorem readMapping_eq (member : place ∈ Place.all lines) :
    readMapping file lines place.number state (located place.number site) =
      .ok (mapped file place state site) := by
  have below : lines.drop (place.number + site.span + 1) = place.below.drop site.span := by
    rw [Nat.add_right_comm, drop_number member]
  unfold readMapping mapped
  simp only [located, below, routeOf_eq, handlerOf_eq, ok_bind]
  cases mappingMethod? site.name site.arguments with
  | none => rfl
  | some method =>
    cases state.scopes.current? with
    | none => rfl
    | some scope =>
      dsimp only
      split <;> rfl

theorem readSite_eq (member : place ∈ Place.all lines)
    (inside : place.number + site.span < lines.length) :
    readSite file lines place.number state (located place.number site) =
      .ok (RouteAtlas.Spring.readSite file place state site) := by
  have named : (located place.number site).name = site.name := rfl
  unfold readSite RouteAtlas.Spring.readSite
  rw [readMapping_eq member, named]
  by_cases marks : site.name = "Controller".toList ∨ site.name = "RestController".toList
  · rw [if_pos marks, if_pos marks]
    rfl
  rw [if_neg marks, if_neg marks]
  by_cases mapping : site.name = "RequestMapping".toList
  · have types : annotatesClassAt lines place.number (located place.number site).endLine =
        .ok (annotatesClass place.line place.below site.span) := annotatesClassAt_eq member inside
    rw [if_pos mapping, types, ok_bind]
    cases heads : annotatesClass place.line place.below site.span with
    | true =>
      rw [if_pos rfl, if_pos ⟨mapping, rfl⟩, routeOf_eq, ok_bind]
      rfl
    | false =>
      rw [if_neg Bool.false_ne_true, if_neg (fun both => Bool.false_ne_true both.2)]
      rfl
  · rw [if_neg mapping, if_neg fun both => mapping both.1]
    rfl

theorem depth_openClass (state : State) (trimmed : Text) :
    (openClass state trimmed).scopes.depth = state.scopes.depth := by
  unfold openClass
  split <;> rfl

theorem follows (file : Path) (lines : List Text) :
    (reader file lines).Follows (RouteAtlas.Spring.reader file) lines fun state => state.scopes.depth := by
  refine Reader.follows_annotated (fun _ member _ inside _ => readSite_eq member inside)
    (fun _ _ => rfl) ?_ ?_ depth_openClass fun _ _ => rfl
  · intro state line few
    rw [advance_eq few]
    rfl
  · intro place state found
    rw [RouteAtlas.Spring.readSite_scopes]

theorem extract_eq (file : Path) {content : Text} (few : braceCount content < 2 ^ 31) :
    extract file content = .ok (RouteAtlas.Spring.extract file content) := by
  rw [extract, (follows file (Text.lines content)).foldlM_eq rfl few,
    ← RouteAtlas.Spring.readLine_eq_reader]
  rfl

end Spring

namespace JaxRs

open RouteAtlas.JaxRs (State verbs isMember memberEndpoint?)

def readSite (lines : List Text) (number : Nat) (state : State) (site : Annotation) :
    Checked State :=
  if site.name = "Path".toList then do
    if ← annotatesClassAt lines number site.endLine then do
      let route ← firstQuoted (· == '"') site.arguments
      return { state with classPath := Route.base (route.getD []) }
    else do
      let route ← firstQuoted (· == '"') site.arguments
      return { state with pending := { state.pending with path := some (route.getD ['/'], number) } }
  else if verbs.contains site.name then
    return { state with pending := { state.pending with verb := some (.ofToken site.name, number) } }
  else return state

def readDeclaration (file : Path) (state : State) (trimmed : Text) : Checked State :=
  match className? trimmed with
  | some name =>
    return { state with
      scopes := state.scopes.openClass name state.classPath, classPath := [], pending := .none }
  | none => do
    let visible ← afterVisibility trimmed
    match visible.filter isMember with
    | some declaration =>
      let found := state.scopes.current?.bind fun scope =>
        memberEndpoint? file scope state.pending declaration
      return { state with pending := .none, endpoints := state.endpoints ++ found.toList }
    | none => return state

def reader (file : Path) (lines : List Text) : Reader State :=
  .annotated lines (readSite lines) (readDeclaration file) fun state line => do
    let scopes ← advance state.scopes line
    return { state with scopes }

def extract (file : Path) (content : Text) : Checked (List Endpoint) := do
  let lines := Text.lines content
  let state ← lines.zipIdx.foldlM (reader file lines).readLine .initial
  return state.endpoints

variable {file : Path} {lines : List Text} {place : Place} {state : State} {site : AnnotationSite}

theorem readSite_eq (member : place ∈ Place.all lines)
    (inside : place.number + site.span < lines.length) :
    readSite lines place.number state (located place.number site) =
      .ok (RouteAtlas.JaxRs.readSite place state site) := by
  have types : annotatesClassAt lines place.number (located place.number site).endLine =
      .ok (annotatesClass place.line place.below site.span) := annotatesClassAt_eq member inside
  have named : (located place.number site).name = site.name := rfl
  unfold readSite RouteAtlas.JaxRs.readSite
  rw [named, types, ok_bind, firstQuoted_double, ok_bind, ok_bind]
  split
  · split <;> rfl
  · simp only [List.contains_iff_mem]
    split <;> rfl

theorem readDeclaration_eq (file : Path) (state : State) (trimmed : Text) :
    readDeclaration file state trimmed = .ok (RouteAtlas.JaxRs.readDeclaration file state trimmed) := by
  unfold readDeclaration RouteAtlas.JaxRs.readDeclaration
  cases className? trimmed with
  | some name => rfl
  | none =>
    dsimp only
    rw [afterVisibility_eq, ok_bind]
    cases (afterVisibility? trimmed).filter isMember <;> rfl

theorem depth_readDeclaration (file : Path) (state : State) (trimmed : Text) :
    (RouteAtlas.JaxRs.readDeclaration file state trimmed).scopes.depth = state.scopes.depth := by
  unfold RouteAtlas.JaxRs.readDeclaration
  split
  · rfl
  · split <;> rfl

theorem follows (file : Path) (lines : List Text) :
    (reader file lines).Follows (RouteAtlas.JaxRs.reader file) lines fun state => state.scopes.depth := by
  refine Reader.follows_annotated (fun _ member _ inside _ => readSite_eq member inside)
    (readDeclaration_eq file) ?_ ?_ (depth_readDeclaration file) fun _ _ => rfl
  · intro state line few
    rw [advance_eq few]
    rfl
  · intro place state found
    rw [RouteAtlas.JaxRs.readSite_scopes]

theorem extract_eq (file : Path) {content : Text} (few : braceCount content < 2 ^ 31) :
    extract file content = .ok (RouteAtlas.JaxRs.extract file content) := by
  rw [extract, (follows file (Text.lines content)).foldlM_eq rfl few,
    ← RouteAtlas.JaxRs.readLine_eq_reader]
  rfl

end JaxRs

end RouteAtlas.Numbered
