import RouteAtlas.Catalogue
import RouteAtlas.Proofs.Code.ArgumentList
import RouteAtlas.Proofs.Code.Reader

namespace RouteAtlas

namespace Place

/-- An annotation with this name is written on the line, with these arguments in a list that closes. -/
def Lists (place : Place) (name arguments : Text) : Prop :=
  isCommentOrBlank (Text.trim place.line) = false ∧ ∃ text qualified after call,
    text <:+ place.line ∧ annotatedName? text = some (qualified, after) ∧
    Text.afterLast '.' qualified = name ∧ Call.read? after place.below = some call ∧
    call.text = arguments

def Closes (place : Place) (found : Found) (arguments : Text) : Prop :=
  ∃ call, Call.read? found.rest place.below = some call ∧ call.text = arguments

def Calls (place : Place) (constructor : Pattern) (arguments : Text) : Prop :=
  ∃ found ∈ constructor.findAll place.line, place.Closes found arguments

theorem lists_of_mem {place : Place} {site : AnnotationSite}
    (code : isCommentOrBlank (Text.trim place.line) = false)
    (member : site ∈ annotationsOn place.line place.below) (filled : site.arguments ≠ []) :
    place.Lists site.name site.arguments := by
  obtain ⟨after, text, qualified, suffix, named, rfl⟩ := exists_writtenOn_of_mem member
  unfold annotationAt at filled ⊢
  split at filled
  · rename_i call read
    exact ⟨code, text, qualified, after, call, suffix, named, rfl, read, rfl⟩
  · exact absurd rfl filled

end Place

/-- The route in front of all others comes from a list that closes, unless there is none. -/
def BaseFrom (lines : List Text) (lists : Place → Text → Prop) (literal? : Text → Option Text)
    (base : Text) : Prop :=
  base = [] ∨ ∃ place ∈ Place.all lines, ∃ arguments literal,
    lists place arguments ∧ literal? arguments = some literal ∧ base = Route.base literal

/-- A line opens and closes the bodies of classes, but changes no header. -/
theorem ClassScopes.forall_header_advance {α : Type} {state : ClassScopes α} (holds : α → Prop)
    (before : ∀ scope ∈ state.scopes, holds scope.header) (line : Text) :
    ∀ scope ∈ (state.advance line).scopes, holds scope.header := by
  intro scope member
  have inside := (List.dropWhile_sublist _).subset member
  split at inside
  · cases scopes : state.scopes with
    | nil =>
      rw [scopes] at inside
      cases inside
    | cons top outer =>
      rw [scopes] at inside
      rcases List.mem_cons.mp inside with rfl | outside
      · exact before top (by simp [scopes])
      · exact before scope (by simp [scopes, outside])
  · exact before scope inside

namespace Spring

/-- The route of the endpoint comes from lists that close: that of a mapping on its line, or none, below
that of a mapping of its class, or none. -/
def FromLists (lines : List Text) (endpoint : Endpoint) : Prop :=
  ∃ base route, endpoint.route = Route.compose [base, route] ∧
    BaseFrom lines (·.Lists "RequestMapping") mappingRoute? base ∧
    (route = ['/'] ∨ ∃ place ∈ Place.all lines, place.number = endpoint.location.line ∧
      ∃ name ∈ mappings, ∃ arguments, place.Lists name arguments ∧
        mappingRoute? arguments = some route)

structure Listed (lines : List Text) (state : State) : Prop where
  scopes : ∀ scope ∈ state.scopes.scopes,
    BaseFrom lines (·.Lists "RequestMapping") mappingRoute? scope.header.base
  pending : BaseFrom lines (·.Lists "RequestMapping") mappingRoute? state.pending.base
  endpoints : ∀ endpoint ∈ state.endpoints, FromLists lines endpoint

variable {lines : List Text} {file : Path} {place : Place} {state : State}

theorem filled_of_mappingRoute? {arguments route : Text} (given : mappingRoute? arguments = some route) :
    arguments ≠ [] := by
  rintro rfl
  have none : mappingRoute? [] = none := by decide
  rw [none] at given
  cases given

theorem name_mem_mappings {name arguments : Text} {method : Method}
    (mapped : mappingMethod? name arguments = some method) : name ∈ mappings := by
  apply Decidable.byContradiction
  intro other
  simp only [mappings, List.mem_cons, List.not_mem_nil, or_false, not_or] at other
  obtain ⟨get, post, put, delete, patch, request⟩ := other
  rw [mappingMethod?, if_neg get, if_neg post, if_neg put, if_neg delete, if_neg patch,
    if_neg request] at mapped
  cases mapped

theorem Listed.readSite (listed : Listed lines state) (member : place ∈ Place.all lines)
    (code : isCommentOrBlank (Text.trim place.line) = false) {site : AnnotationSite}
    (written : site ∈ annotationsOn place.line place.below) :
    Listed lines (Spring.readSite file place state site) := by
  have lists : ∀ {route}, mappingRoute? site.arguments = some route →
      place.Lists site.name site.arguments := fun given =>
    Place.lists_of_mem code written (filled_of_mappingRoute? given)
  unfold Spring.readSite
  split
  · exact ⟨listed.scopes, listed.pending, listed.endpoints⟩
  · split
    · rename_i heads
      refine ⟨listed.scopes, ?_, listed.endpoints⟩
      cases given : mappingRoute? site.arguments with
      | none => exact .inl rfl
      | some route =>
        have here := lists given
        rw [heads.1] at here
        exact .inr ⟨place, member, site.arguments, route, here, given, rfl⟩
    · split
      · rename_i method scope mapped inside
        split
        · refine ⟨listed.scopes, listed.pending, ?_⟩
          intro endpoint present
          rcases List.mem_append.mp present with earlier | new
          · exact listed.endpoints endpoint earlier
          · rw [List.mem_singleton.mp new]
            have base := listed.scopes scope (List.mem_of_find?_eq_some inside)
            refine ⟨scope.header.base, _, rfl, base, ?_⟩
            cases given : mappingRoute? site.arguments with
            | none => exact .inl rfl
            | some route =>
              exact .inr ⟨place, member, rfl, site.name, name_mem_mappings mapped, site.arguments,
                lists given, given⟩
        · exact listed
      · exact listed

theorem Listed.openClass (listed : Listed lines state) (trimmed : Text) :
    Listed lines (Spring.openClass state trimmed) := by
  unfold Spring.openClass
  split
  · refine ⟨?_, .inl rfl, listed.endpoints⟩
    intro scope present
    rcases List.mem_cons.mp present with rfl | outer
    · exact listed.pending
    · exact listed.scopes scope outer
  · exact listed

theorem keeps_listed (file : Path) (lines : List Text) :
    (reader file).Keeps lines fun _ => Listed lines := by
  refine LineReader.keeps_annotated (fun _ _ _ _ listed => listed)
    (fun _ member code _ written _ listed => listed.readSite member code written) ?_
  intro place _ _ _ _ _ _ read
  have opened := read.openClass (Text.trim place.line)
  refine ⟨?_, opened.pending, opened.endpoints⟩
  exact ClassScopes.forall_header_advance
    (fun header : Header => BaseFrom lines (·.Lists "RequestMapping") mappingRoute? header.base)
    opened.scopes place.line

theorem fromLists_of_mem_extract {content : Text} {endpoint : Endpoint}
    (found : endpoint ∈ extract file content) : FromLists (Text.lines content) endpoint := by
  have start : Listed (Text.lines content) .initial :=
    ⟨by simp [State.initial, ClassScopes.empty], .inl rfl, by simp [State.initial]⟩
  exact ((keeps_listed file _).foldl_all start).endpoints endpoint found

end Spring

namespace JaxRs

/-- The route of the endpoint comes from lists that close: that of a path of a member, or none, below that
of a path of a class, or none. -/
def FromLists (lines : List Text) (endpoint : Endpoint) : Prop :=
  ∃ base route, endpoint.route = Route.compose [base, route] ∧
    BaseFrom lines (·.Lists "Path") firstDoubleQuoted? base ∧
    (route = ['/'] ∨ ∃ place ∈ Place.all lines, endpoint.location.line ≤ place.number ∧
      ∃ arguments, place.Lists "Path" arguments ∧ firstDoubleQuoted? arguments = some route)

def PathFrom (lines : List Text) (route : Text) (line : Nat) : Prop :=
  route = ['/'] ∨ ∃ place ∈ Place.all lines, place.number = line ∧
    ∃ arguments, place.Lists "Path" arguments ∧ firstDoubleQuoted? arguments = some route

structure Listed (lines : List Text) (state : State) : Prop where
  scopes : ∀ scope ∈ state.scopes.scopes,
    BaseFrom lines (·.Lists "Path") firstDoubleQuoted? scope.header
  classPath : BaseFrom lines (·.Lists "Path") firstDoubleQuoted? state.classPath
  pending : ∀ route line, state.pending.path = some (route, line) → PathFrom lines route line
  endpoints : ∀ endpoint ∈ state.endpoints, FromLists lines endpoint

variable {lines : List Text} {file : Path} {place : Place} {state : State}

theorem filled_of_firstDoubleQuoted? {arguments route : Text}
    (given : firstDoubleQuoted? arguments = some route) : arguments ≠ [] := by
  rintro rfl
  cases given

theorem Listed.readSite (listed : Listed lines state) (member : place ∈ Place.all lines)
    (code : isCommentOrBlank (Text.trim place.line) = false) {site : AnnotationSite}
    (written : site ∈ annotationsOn place.line place.below) :
    Listed lines (JaxRs.readSite place state site) := by
  have lists : ∀ {route}, firstDoubleQuoted? site.arguments = some route →
      place.Lists site.name site.arguments := fun given =>
    Place.lists_of_mem code written (filled_of_firstDoubleQuoted? given)
  unfold JaxRs.readSite
  split
  · rename_i named
    rw [named] at lists
    split
    · refine ⟨listed.scopes, ?_, listed.pending, listed.endpoints⟩
      cases given : firstDoubleQuoted? site.arguments with
      | none => exact .inl rfl
      | some route => exact .inr ⟨place, member, site.arguments, route, lists given, given, rfl⟩
    · refine ⟨listed.scopes, listed.classPath, ?_, listed.endpoints⟩
      intro route line noted
      cases noted
      cases given : firstDoubleQuoted? site.arguments with
      | none => exact .inl rfl
      | some route => exact .inr ⟨place, member, rfl, site.arguments, lists given, given⟩
  · split
    · exact ⟨listed.scopes, listed.classPath, listed.pending, listed.endpoints⟩
    · exact listed

theorem fromLists_of_member {scope : ClassScope Text} {pending : Pending} {declaration : Text}
    {endpoint : Endpoint} (base : BaseFrom lines (·.Lists "Path") firstDoubleQuoted? scope.header)
    (paths : ∀ route line, pending.path = some (route, line) → PathFrom lines route line)
    (found : memberEndpoint? file scope pending declaration = some endpoint) :
    FromLists lines endpoint := by
  obtain ⟨⟨method, line⟩, taken, rfl⟩ := Option.map_eq_some_iff.mp found
  refine ⟨scope.header, _, rfl, base, ?_⟩
  obtain ⟨verb, path⟩ := pending
  cases path with
  | none => exact .inl rfl
  | some path =>
    obtain ⟨route, pathLine⟩ := path
    rcases paths route pathLine rfl with plain | ⟨place, member, same, arguments, lists, given⟩
    · exact .inl plain
    · refine .inr ⟨place, member, ?_, arguments, lists, given⟩
      rw [same]
      cases verb with
      | none =>
        cases taken
        exact Nat.le_refl _
      | some verb =>
        cases taken
        exact Nat.min_le_right _ _

theorem Listed.readDeclaration (listed : Listed lines state) (file : Path) (trimmed : Text) :
    Listed lines (JaxRs.readDeclaration file state trimmed) := by
  have taken : ∀ route line, Pending.none.path = some (route, line) → PathFrom lines route line := by
    intro route line noted
    cases noted
  unfold JaxRs.readDeclaration
  split
  · refine ⟨?_, .inl rfl, taken, listed.endpoints⟩
    intro scope present
    rcases List.mem_cons.mp present with rfl | outer
    · exact listed.classPath
    · exact listed.scopes scope outer
  · split
    · refine ⟨listed.scopes, listed.classPath, taken, ?_⟩
      intro endpoint present
      rcases List.mem_append.mp present with earlier | new
      · exact listed.endpoints endpoint earlier
      · obtain ⟨scope, inside, found⟩ := Option.bind_eq_some_iff.mp (Option.mem_toList.mp new)
        exact fromLists_of_member (listed.scopes scope (List.mem_of_find?_eq_some inside))
          listed.pending found
    · exact listed

theorem keeps_listed (file : Path) (lines : List Text) :
    (reader file).Keeps lines fun _ => Listed lines := by
  refine LineReader.keeps_annotated (fun _ _ _ _ listed => listed)
    (fun _ member code _ written _ listed => listed.readSite member code written) ?_
  intro place _ _ _ _ _ _ read
  have declared := read.readDeclaration file (Text.trim place.line)
  exact ⟨ClassScopes.forall_header_advance _ declared.scopes place.line, declared.classPath,
    declared.pending, declared.endpoints⟩

theorem fromLists_of_mem_extract {content : Text} {endpoint : Endpoint}
    (found : endpoint ∈ extract file content) : FromLists (Text.lines content) endpoint := by
  have start : Listed (Text.lines content) .initial :=
    ⟨by simp [State.initial, ClassScopes.empty], .inl rfl, by simp [State.initial, Pending.none],
      by simp [State.initial]⟩
  exact ((keeps_listed file _).foldl_all start).endpoints endpoint found

end JaxRs

theorem baseFrom_constructorKeyword? (constructor keyword : Pattern) (lines : List Text) :
    BaseFrom lines (·.Calls constructor) (keyword.partIn? 1)
      (((Indented.constructorKeyword? constructor keyword lines).map Route.base).getD []) := by
  cases given : Indented.constructorKeyword? constructor keyword lines with
  | none => exact .inl rfl
  | some literal =>
    obtain ⟨place, member, read⟩ := List.exists_of_findSome?_eq_some given
    obtain ⟨call, called, value⟩ := Option.bind_eq_some_iff.mp read
    obtain ⟨found, here, closes⟩ := List.exists_of_findSome?_eq_some called
    exact .inr ⟨place, member, call.text, literal, ⟨found, here, call, closes, rfl⟩, value, rfl⟩

theorem Place.not_closes_of_unclosed {place : Place} {found : Found} {arguments : Text}
    (unclosed : Call.Unclosed found.rest place.below) : ¬ place.Closes found arguments := by
  intro closes
  obtain ⟨call, read, _⟩ := closes
  rw [unclosed.2] at read
  cases read

namespace FastApi

/-- The endpoint is that of a decorator on its line with a list that closes, and its route is the one in
this list, below the one that a router's constructor gives. -/
def FromList (lines : List Text) (endpoint : Endpoint) : Prop :=
  ∃ place ∈ Place.all lines, place.number = endpoint.location.line ∧
    ∃ found arguments base route, decoratorPattern.atStart? place.line = some found ∧
      place.Closes found arguments ∧ Indented.routeLiteral? arguments = some route ∧
      endpoint.route = Route.compose [base, route] ∧
      BaseFrom lines (·.Calls routerPattern) (basePattern.partIn? 1) base

theorem fromList_of_mem_extract {file : Path} {content : Text} {endpoint : Endpoint}
    (found : endpoint ∈ extract file content) : FromList (Text.lines content) endpoint := by
  obtain ⟨place, member, here⟩ := List.mem_filterMap.mp found
  simp only [endpointAt?, Option.bind_eq_bind, Option.bind_eq_some_iff] at here
  obtain ⟨decorator, written, verb, _, call, read, route, given, declared⟩ := here
  cases declared
  exact ⟨place, member, rfl, decorator, call.text, _, route, written, ⟨call, read, rfl⟩, given, rfl,
    baseFrom_constructorKeyword? _ _ _⟩

end FastApi

namespace Flask

def resourceRoute? (arguments : Text) : Option Text :=
  (resourceArgumentsPattern.atStart? arguments).bind (·.part? 2)

def declaration? (line : Text) : Option (Found × (Text → Option Text)) :=
  if (Text.trimStart line).head? == some '#' then none
  else
    match addResourcePattern.find? line with
    | some found => some (found, resourceRoute?)
    | none =>
      match routeDecoratorPattern.atStart? line with
      | some found => some (found, Indented.routeLiteral?)
      | none => (addRulePattern.find? line).map (·, Indented.routeLiteral?)

/-- The endpoint is that of a declaration on its line with a list that closes, and its route is the one in
this list, below the one that a blueprint's constructor gives. -/
def FromList (lines : List Text) (endpoint : Endpoint) : Prop :=
  ∃ place ∈ Place.all lines, place.number = endpoint.location.line ∧
    ∃ found literal? arguments base route, declaration? place.line = some (found, literal?) ∧
      place.Closes found arguments ∧ literal? arguments = some route ∧
      endpoint.route = Route.compose [base, route] ∧
      BaseFrom lines (·.Calls blueprintPattern) (basePattern.partIn? 1) base

variable {file : Path} {base : Text} {known : List (Text × List Method)} {place : Place}
  {found : Found} {endpoint : Endpoint}

theorem of_mem_resourceEndpoints (member : endpoint ∈ resourceEndpoints file base known place found) :
    endpoint.location.line = place.number ∧ ∃ arguments route, place.Closes found arguments ∧
      resourceRoute? arguments = some route ∧ endpoint.route = Route.compose [base, route] := by
  simp only [resourceEndpoints] at member
  split at member
  · rename_i name route read
    simp only [Option.bind_eq_bind, Option.bind_eq_some_iff] at read
    obtain ⟨call, closes, pair, matched, written, _, literal, second, same⟩ := read
    cases same
    obtain ⟨method, _, rfl⟩ := List.mem_map.mp member
    exact ⟨rfl, call.text, route, ⟨call, closes, rfl⟩, by simp [resourceRoute?, matched, second], rfl⟩
  · cases member

theorem of_mem_routeEndpoints {handlerOf : Call → Text}
    (member : endpoint ∈ routeEndpoints file base place found handlerOf) :
    endpoint.location.line = place.number ∧ ∃ arguments route, place.Closes found arguments ∧
      Indented.routeLiteral? arguments = some route ∧
      endpoint.route = Route.compose [base, route] := by
  simp only [routeEndpoints] at member
  split at member
  · rename_i call route read
    simp only [Option.bind_eq_bind, Option.bind_eq_some_iff] at read
    obtain ⟨other, closes, literal, given, same⟩ := read
    cases same
    obtain ⟨method, _, rfl⟩ := List.mem_map.mp member
    exact ⟨rfl, call.text, route, ⟨call, closes, rfl⟩, given, rfl⟩
  · cases member

theorem fromList_of_mem_extract {content : Text} (member : endpoint ∈ extract file content) :
    FromList (Text.lines content) endpoint := by
  obtain ⟨place, inside, here⟩ := List.mem_flatMap.mp member
  have built : endpoint.location.line = place.number ∧
      ∃ found literal? arguments route, declaration? place.line = some (found, literal?) ∧
        place.Closes found arguments ∧ literal? arguments = some route ∧
        endpoint.route = Route.compose [baseOf (Text.lines content), route] := by
    unfold endpointsAt at here
    unfold declaration?
    by_cases comment : (Text.trimStart place.line).head? == some '#'
    · rw [if_pos comment] at here
      cases here
    · rw [if_neg comment] at here ⊢
      cases first : addResourcePattern.find? place.line with
      | some found =>
        simp only [first] at here
        obtain ⟨line, arguments, route, closes, given, composed⟩ := of_mem_resourceEndpoints here
        exact ⟨line, found, _, arguments, route, rfl, closes, given, composed⟩
      | none =>
        cases second : routeDecoratorPattern.atStart? place.line with
        | some found =>
          simp only [first, second] at here
          obtain ⟨line, arguments, route, closes, given, composed⟩ := of_mem_routeEndpoints here
          exact ⟨line, found, _, arguments, route, rfl, closes, given, composed⟩
        | none =>
          cases third : addRulePattern.find? place.line with
          | some found =>
            simp only [first, second, third] at here
            obtain ⟨line, arguments, route, closes, given, composed⟩ := of_mem_routeEndpoints here
            exact ⟨line, found, _, arguments, route, rfl, closes, given, composed⟩
          | none =>
            simp only [first, second, third] at here
            cases here
  obtain ⟨line, found, literal?, arguments, route, declared, closes, given, composed⟩ := built
  exact ⟨place, inside, line.symm, found, literal?, arguments, _, route, declared, closes, given,
    composed, baseFrom_constructorKeyword? _ _ _⟩

end Flask

/-- Whatever the text, every part of a route comes from an argument list that closes. Of a decorator or a
registration whose list does not close there is no endpoint; an annotation whose list does not close adds
nothing to the route of one. -/
theorem routes_from_closed_lists (file : Path) (content : Text) :
    (∀ endpoint ∈ Spring.extract file content, Spring.FromLists (Text.lines content) endpoint) ∧
    (∀ endpoint ∈ JaxRs.extract file content, JaxRs.FromLists (Text.lines content) endpoint) ∧
    (∀ endpoint ∈ FastApi.extract file content, FastApi.FromList (Text.lines content) endpoint) ∧
    (∀ endpoint ∈ Flask.extract file content, Flask.FromList (Text.lines content) endpoint) ∧
    ∀ place ∈ Place.all (Text.lines content),
      (∀ found, FastApi.decoratorPattern.atStart? place.line = some found →
        Call.Unclosed found.rest place.below →
          ∀ endpoint ∈ FastApi.extract file content, endpoint.location.line ≠ place.number) ∧
      ∀ found literal?, Flask.declaration? place.line = some (found, literal?) →
        Call.Unclosed found.rest place.below →
          ∀ endpoint ∈ Flask.extract file content, endpoint.location.line ≠ place.number := by
  refine ⟨fun _ found => Spring.fromLists_of_mem_extract found,
    fun _ found => JaxRs.fromLists_of_mem_extract found,
    fun _ found => FastApi.fromList_of_mem_extract found,
    fun _ found => Flask.fromList_of_mem_extract found, ?_⟩
  intro place inside
  constructor
  · intro found written unclosed endpoint declared here
    obtain ⟨own, member, same, other, arguments, _, _, read, closes, _⟩ :=
      FastApi.fromList_of_mem_extract declared
    rw [Place.eq_of_number_eq member inside (same.trans here), written] at read
    cases read
    rw [Place.eq_of_number_eq member inside (same.trans here)] at closes
    exact Place.not_closes_of_unclosed unclosed closes
  · intro found literal? written unclosed endpoint declared here
    obtain ⟨own, member, same, other, _, arguments, _, _, read, closes, _⟩ :=
      Flask.fromList_of_mem_extract declared
    rw [Place.eq_of_number_eq member inside (same.trans here), written] at read
    cases read
    rw [Place.eq_of_number_eq member inside (same.trans here)] at closes
    exact Place.not_closes_of_unclosed unclosed closes

def openDecorator : Text :=
  Text.join ['\n'] ["@app.get(\"/a\"", "@app.post(path='b')", "def b():", "    pass"]

def openMapping : Text :=
  Text.join ['\n'] ["@RestController", "@RequestMapping(\"/u\")", "public class A \x7b",
    "    @GetMapping(\"/x\"", "    public String x() \x7b return \"\"; \x7d", "\x7d"]

theorem routes_from_closed_lists_of_openDecorator :
    Call.Unclosed "(\"/a\"" ["@app.post(path='b')".toList, "def b():".toList, "    pass".toList] ∧
    (∀ endpoint ∈ FastApi.extract ⟨"a.py"⟩ openDecorator, endpoint.location.line ≠ 0) ∧
    (⟨"/b", .post, ⟨⟨"a.py"⟩, 1⟩, "main", "b", some .fastApi⟩ : Endpoint) ∈
      FastApi.extract ⟨"a.py"⟩ openDecorator ∧
    FastApi.FromList (Text.lines openDecorator)
      ⟨"/b", .post, ⟨⟨"a.py"⟩, 1⟩, "main", "b", some .fastApi⟩ ∧
    (⟨"/u", .get, ⟨⟨"A.java"⟩, 3⟩, "A", "x", some .spring⟩ : Endpoint) ∈
      Spring.extract ⟨"A.java"⟩ openMapping ∧
    Spring.FromLists (Text.lines openMapping)
      ⟨"/u", .get, ⟨⟨"A.java"⟩, 3⟩, "A", "x", some .spring⟩ := by
  obtain ⟨_, _, decorated, _, unclosed⟩ := routes_from_closed_lists ⟨"a.py"⟩ openDecorator
  obtain ⟨mapped, _⟩ := routes_from_closed_lists ⟨"A.java"⟩ openMapping
  have unclosedList : Call.Unclosed "(\"/a\""
      ["@app.post(path='b')".toList, "def b():".toList, "    pass".toList] := by
    decide +kernel
  have declared : (⟨"/b", .post, ⟨⟨"a.py"⟩, 1⟩, "main", "b", some .fastApi⟩ : Endpoint) ∈
      FastApi.extract ⟨"a.py"⟩ openDecorator := by
    decide +kernel
  have found : (⟨"/u", .get, ⟨⟨"A.java"⟩, 3⟩, "A", "x", some .spring⟩ : Endpoint) ∈
      Spring.extract ⟨"A.java"⟩ openMapping := by
    decide +kernel
  have first : (⟨[], "@app.get(\"/a\"", ["@app.post(path='b')".toList, "def b():".toList,
      "    pass".toList]⟩ : Place) ∈ Place.all (Text.lines openDecorator) := by
    decide +kernel
  have read : (FastApi.decoratorPattern.atStart? "@app.get(\"/a\"").map (·.rest) =
      some "(\"/a\"".toList := by
    decide +kernel
  obtain ⟨verb, written, behind⟩ := Option.map_eq_some_iff.mp read
  rw [← behind] at unclosedList ⊢
  have nothing := (unclosed _ first).1 verb written unclosedList
  exact ⟨unclosedList, nothing, declared, decorated _ declared, found, mapped _ found⟩

/-- The mapping yields an endpoint all the same, with the route of its class. -/
theorem endpoint_of_open_mapping :
    (⟨"/u", .get, ⟨⟨"A.java"⟩, 3⟩, "A", "x", some .spring⟩ : Endpoint) ∈
      Spring.extract ⟨"A.java"⟩ openMapping ∧
    ∃ place ∈ Place.all (Text.lines openMapping), place.number = 3 ∧
      ∀ site ∈ annotationsOn place.line place.below, site.name = "GetMapping".toList ∧
        Call.Unclosed site.rest place.below := by
  decide +kernel

end RouteAtlas
