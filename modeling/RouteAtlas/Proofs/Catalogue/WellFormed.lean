import Mathlib.Data.List.Basic
import RouteAtlas.Catalogue
import RouteAtlas.Proofs.Code.Place
import RouteAtlas.Proofs.Route

namespace RouteAtlas

structure Endpoint.DeclaredAt (extractor : Framework) (file : Path) (line : Nat)
    (endpoint : Endpoint) : Prop where
  route : Route.Composed endpoint.route
  location : endpoint.location = ⟨file, line⟩
  framework : endpoint.framework.map Framework.extractor = some extractor

theorem Endpoint.DeclaredAt.line_eq {extractor : Framework} {file : Path} {line : Nat}
    {endpoint : Endpoint} (declared : endpoint.DeclaredAt extractor file line) :
    endpoint.location.line = line := by
  rw [declared.location]

/-- Endpoints declared on the first `count` lines of a file, in the order of their lines. -/
structure Endpoint.Ascending (extractor : Framework) (file : Path) (count : Nat)
    (endpoints : List Endpoint) : Prop where
  declared : ∀ endpoint ∈ endpoints, ∃ line < count, endpoint.DeclaredAt extractor file line
  ordered : endpoints.Pairwise fun first second => first.location.line ≤ second.location.line

/-- A reader goes on from some endpoints to others by adding such as are declared on its line. -/
def Endpoint.Extends (extractor : Framework) (file : Path) (line : Nat)
    (before after : List Endpoint) : Prop :=
  ∃ more, after = before ++ more ∧ ∀ endpoint ∈ more, endpoint.DeclaredAt extractor file line

namespace Endpoint

variable {extractor : Framework} {file : Path} {line count : Nat} {first second third : List Endpoint}

theorem Extends.refl (endpoints : List Endpoint) :
    Extends extractor file line endpoints endpoints :=
  ⟨[], by simp, by simp⟩

theorem Extends.trans (left : Extends extractor file line first second)
    (right : Extends extractor file line second third) :
    Extends extractor file line first third := by
  obtain ⟨more, rfl, declared⟩ := left
  obtain ⟨others, rfl, later⟩ := right
  refine ⟨more ++ others, List.append_assoc .., ?_⟩
  intro endpoint member
  rcases List.mem_append.mp member with member | member
  · exact declared endpoint member
  · exact later endpoint member

theorem Extends.foldl {σ ι : Type} {read : σ → ι → σ} {found : σ → List Endpoint}
    (step : ∀ state item, Extends extractor file line (found state) (found (read state item)))
    (items : List ι) (state : σ) :
    Extends extractor file line (found state) (found (items.foldl read state)) := by
  induction items generalizing state with
  | nil => exact .refl _
  | cons item items ih => exact (step state item).trans (ih (read state item))

theorem Ascending.extend (ascending : Ascending extractor file line first)
    (extended : Extends extractor file line first second) :
    Ascending extractor file (line + 1) second := by
  obtain ⟨more, rfl, declared⟩ := extended
  constructor
  · intro endpoint member
    rcases List.mem_append.mp member with member | member
    · obtain ⟨earlier, less, found⟩ := ascending.declared endpoint member
      exact ⟨earlier, by omega, found⟩
    · exact ⟨line, by omega, declared endpoint member⟩
  · rw [List.pairwise_append]
    refine ⟨ascending.ordered, ?_, ?_⟩
    · apply List.pairwise_of_forall_mem_list
      intro one here other there
      have same := (declared one here).line_eq.trans (declared other there).line_eq.symm
      omega
    · intro one here other there
      obtain ⟨earlier, less, found⟩ := ascending.declared one here
      rw [found.line_eq, (declared other there).line_eq]
      omega

theorem ascending_foldl {σ : Type} {read : σ → Place → σ} {start : σ} (found : σ → List Endpoint)
    (lines : List Text) (nothing : found start = [])
    (step : ∀ place state,
      Extends extractor file place.number (found state) (found (read state place))) :
    Ascending extractor file lines.length (found ((Place.all lines).foldl read start)) := by
  apply Place.foldl_all_induction fun count state => Ascending extractor file count (found state)
  · rw [nothing]
    exact ⟨by simp, .nil⟩
  · intro place state ascending
    exact ascending.extend (step place state)

theorem ascending_flatMap {find : Place → List Endpoint} (lines : List Text)
    (declared : ∀ place, ∀ endpoint ∈ find place, endpoint.DeclaredAt extractor file place.number) :
    Ascending extractor file lines.length ((Place.all lines).flatMap find) := by
  rw [List.flatMap_eq_foldl]
  apply ascending_foldl id lines rfl
  intro place state
  exact ⟨find place, rfl, declared place⟩

end Endpoint

open Endpoint

namespace Spring

variable (file : Path) (place : Place)

theorem extends_readSite (state : State) (site : AnnotationSite) :
    Extends .spring file place.number state.endpoints
      (readSite file place state site).endpoints := by
  unfold readSite
  split
  · exact .refl _
  split
  · exact .refl _
  split
  · split
    · refine ⟨_, rfl, ?_⟩
      intro endpoint member
      rw [List.mem_singleton.mp member]
      exact ⟨Route.composed_compose _, rfl, rfl⟩
    · exact .refl _
  · exact .refl _

theorem extends_readLine (state : State) :
    Extends .spring file place.number state.endpoints (readLine file state place).endpoints := by
  simp only [readLine]
  split
  · exact .refl _
  · have sites := Extends.foldl (extends_readSite file place) (annotationsOn place.line place.below)
      state
    -- the class that a line opens brings no endpoint
    have opened : ∀ state trimmed, (openClass state trimmed).endpoints = state.endpoints := by
      intro state trimmed
      unfold openClass
      split <;> rfl
    simpa only [opened] using sites

theorem ascending_extract (content : Text) :
    Ascending .spring file (Text.lines content).length (extract file content) :=
  ascending_foldl State.endpoints (Text.lines content) rfl (extends_readLine file)

end Spring

namespace Echo

variable (file : Path)

theorem declaredAt_routeEndpoint? {line : Nat} {owner : Text} {groups : Groups}
    {inline : Option Text} {found : Found} {endpoint : Endpoint}
    (declared : routeEndpoint? file line owner groups inline found = some endpoint) :
    endpoint.DeclaredAt .echo file line := by
  unfold routeEndpoint? at declared
  split at declared
  · cases declared
    exact ⟨Route.composed_compose _, rfl, rfl⟩
  · cases declared

theorem extends_readLine (place : Place) (state : State) :
    Extends .echo file place.number state.endpoints (readLine file state place).endpoints := by
  unfold readLine
  split
  · exact .refl _
  · refine ⟨_, rfl, ?_⟩
    intro endpoint member
    obtain ⟨found, _, declared⟩ := List.mem_filterMap.mp member
    exact declaredAt_routeEndpoint? file declared

theorem ascending_extract (content : Text) :
    Ascending .echo file (Text.lines content).length (extract file content) :=
  ascending_foldl State.endpoints (Text.lines content) rfl (extends_readLine file)

end Echo

namespace JaxRs

def Pending.lines (pending : Pending) : List Nat :=
  (pending.verb.map Prod.snd).toList ++ (pending.path.map Prod.snd).toList

theorem Pending.mem_lines_iff (pending : Pending) (line : Nat) :
    line ∈ pending.lines ↔
      (∃ method, pending.verb = some (method, line)) ∨ ∃ route, pending.path = some (route, line) := by
  simp [lines]

theorem Pending.mem_lines_of_method? {pending : Pending} {method : Method} {line : Nat}
    (taken : pending.method? = some (method, line)) : line ∈ pending.lines := by
  obtain ⟨verb, path⟩ := pending
  rcases verb with _ | ⟨verb, verbLine⟩
  · rcases path with _ | ⟨path, pathLine⟩
    · cases taken
    · cases taken
      simp [lines]
  · rcases path with _ | ⟨path, pathLine⟩
    · cases taken
      simp [lines]
    · cases taken
      have either : min verbLine pathLine = verbLine ∨ min verbLine pathLine = pathLine := by omega
      rcases either with same | same <;> simp [lines, same]

/-- The endpoints of the first `found` lines, and annotations of the first `seen` lines, all of them
below the endpoints. -/
structure Underway (file : Path) (found seen : Nat) (state : State) : Prop where
  declared : ∀ endpoint ∈ state.endpoints, ∃ line < found, endpoint.DeclaredAt .jaxRs file line
  ordered : state.endpoints.Pairwise fun first second => first.location.line < second.location.line
  waiting : ∀ line ∈ state.pending.lines, line < seen ∧
    ∀ endpoint ∈ state.endpoints, endpoint.location.line < line

variable {file : Path} {place : Place} {state : State} {line : Nat}

theorem Underway.note (underway : Underway file line (line + 1) state) {pending : Pending}
    (known : ∀ other ∈ pending.lines, other ∈ state.pending.lines ∨ other = line) :
    Underway file line (line + 1) { state with pending := pending } := by
  refine ⟨underway.declared, underway.ordered, ?_⟩
  intro other member
  rcases known other member with old | rfl
  · exact underway.waiting other old
  · refine ⟨by omega, ?_⟩
    intro endpoint found
    obtain ⟨earlier, less, declared⟩ := underway.declared endpoint found
    rw [declared.line_eq]
    exact less

theorem Underway.readSite (underway : Underway file place.number (place.number + 1) state)
    (site : AnnotationSite) :
    Underway file place.number (place.number + 1) (readSite place state site) := by
  unfold JaxRs.readSite
  split
  · split
    · exact ⟨underway.declared, underway.ordered, underway.waiting⟩
    · apply underway.note
      intro line member
      simp only [Pending.mem_lines_iff, Option.some.injEq, Prod.mk.injEq] at member ⊢
      rcases member with verb | ⟨_, _, here⟩
      · exact .inl (.inl verb)
      · exact .inr here.symm
  · split
    · apply underway.note
      intro line member
      simp only [Pending.mem_lines_iff, Option.some.injEq, Prod.mk.injEq] at member ⊢
      rcases member with ⟨_, _, here⟩ | path
      · exact .inr here.symm
      · exact .inl (.inr path)
    · exact underway

theorem Underway.readSites (underway : Underway file place.number (place.number + 1) state)
    (sites : List AnnotationSite) :
    Underway file place.number (place.number + 1) (sites.foldl (JaxRs.readSite place) state) := by
  induction sites generalizing state with
  | nil => exact underway
  | cons site sites ih => exact ih (underway.readSite site)

theorem declaredAt_memberEndpoint? {scope : ClassScope Text} {pending : Pending}
    {declaration : Text} {endpoint : Endpoint}
    (found : memberEndpoint? file scope pending declaration = some endpoint) :
    ∃ line ∈ pending.lines, endpoint.DeclaredAt .jaxRs file line := by
  obtain ⟨⟨method, line⟩, taken, rfl⟩ := Option.map_eq_some_iff.mp found
  exact ⟨line, Pending.mem_lines_of_method? taken, Route.composed_compose _, rfl, rfl⟩

theorem Underway.readDeclaration (underway : Underway file line (line + 1) state) (trimmed : Text) :
    Underway file (line + 1) (line + 1) (readDeclaration file state trimmed) := by
  have later : ∀ endpoint ∈ state.endpoints,
      ∃ other < line + 1, endpoint.DeclaredAt .jaxRs file other := by
    intro endpoint member
    obtain ⟨earlier, less, declared⟩ := underway.declared endpoint member
    exact ⟨earlier, by omega, declared⟩
  unfold JaxRs.readDeclaration
  split
  · exact ⟨later, underway.ordered, by simp [Pending.lines, Pending.none]⟩
  split
  · rename_i declaration _
    refine ⟨?_, ?_, by simp [Pending.lines, Pending.none]⟩
    · intro endpoint member
      rcases List.mem_append.mp member with member | member
      · exact later endpoint member
      · obtain ⟨scope, _, found⟩ := Option.bind_eq_some_iff.mp (Option.mem_toList.mp member)
        obtain ⟨other, waits, declared⟩ := declaredAt_memberEndpoint? found
        exact ⟨other, (underway.waiting other waits).1, declared⟩
    · rw [List.pairwise_append]
      refine ⟨underway.ordered, ?_, ?_⟩
      · cases state.scopes.current?.bind fun scope =>
          memberEndpoint? file scope state.pending declaration <;> simp
      · intro endpoint member other found
        obtain ⟨scope, _, found⟩ := Option.bind_eq_some_iff.mp (Option.mem_toList.mp found)
        obtain ⟨there, waits, declared⟩ := declaredAt_memberEndpoint? found
        rw [declared.line_eq]
        exact (underway.waiting there waits).2 endpoint member
  · exact ⟨later, underway.ordered, underway.waiting⟩

theorem Underway.readLine (underway : Underway file place.number place.number state) :
    Underway file (place.number + 1) (place.number + 1) (readLine file state place) := by
  have begun : Underway file place.number (place.number + 1) state := by
    refine ⟨underway.declared, underway.ordered, ?_⟩
    intro line member
    obtain ⟨less, above⟩ := underway.waiting line member
    exact ⟨by omega, above⟩
  simp only [JaxRs.readLine]
  split
  · refine ⟨?_, begun.ordered, begun.waiting⟩
    intro endpoint member
    obtain ⟨line, less, declared⟩ := begun.declared endpoint member
    exact ⟨line, by omega, declared⟩
  · have read := (begun.readSites (annotationsOn place.line place.below)).readDeclaration
      (Text.trim place.line)
    exact ⟨read.declared, read.ordered, read.waiting⟩

theorem underway_extract (file : Path) (content : Text) :
    Underway file (Text.lines content).length (Text.lines content).length
      ((Place.all (Text.lines content)).foldl (readLine file) .initial) := by
  apply Place.foldl_all_induction fun count state => Underway file count count state
  · exact ⟨by simp [State.initial], .nil, by simp [State.initial, Pending.none, Pending.lines]⟩
  · intro place state underway
    exact underway.readLine

theorem ascending_extract (file : Path) (content : Text) :
    Ascending .jaxRs file (Text.lines content).length (extract file content) :=
  have underway := underway_extract file content
  ⟨underway.declared, underway.ordered.imp Nat.le_of_lt⟩

end JaxRs

namespace FastApi

variable {file : Path} {base : Text} {place : Place} {endpoint : Endpoint}

theorem declaredAt_endpointAt? (found : endpointAt? file base place = some endpoint) :
    endpoint.DeclaredAt .fastApi file place.number := by
  simp only [endpointAt?, Option.bind_eq_bind, Option.bind_eq_some_iff] at found
  obtain ⟨_, _, verb, _, call, _, route, _, declared⟩ := found
  cases declared
  exact ⟨Route.composed_compose _, rfl, rfl⟩

theorem extract_eq_flatMap (file : Path) (content : Text) :
    extract file content = (Place.all (Text.lines content)).flatMap fun place =>
      (endpointAt? file (baseOf (Text.lines content)) place).toList :=
  List.filterMap_eq_flatMap_toList ..

theorem ascending_extract (file : Path) (content : Text) :
    Ascending .fastApi file (Text.lines content).length (extract file content) := by
  rw [extract_eq_flatMap]
  apply ascending_flatMap
  intro place endpoint member
  exact declaredAt_endpointAt? (Option.mem_toList.mp member)

theorem pairwise_lt_extract (file : Path) (content : Text) :
    (extract file content).Pairwise fun first second =>
      first.location.line < second.location.line := by
  rw [extract_eq_flatMap]
  apply Place.pairwise_flatMap_all
  · intro place
    cases endpointAt? file (baseOf (Text.lines content)) place <;> simp
  · intro place other earlier first found second more
    rw [(declaredAt_endpointAt? (Option.mem_toList.mp found)).line_eq,
      (declaredAt_endpointAt? (Option.mem_toList.mp more)).line_eq]
    exact earlier

end FastApi

namespace Flask

variable {file : Path} {base : Text} {known : List (Text × List Method)} {place : Place}

theorem nodup_addMethod {methods : List Method} (distinct : methods.Nodup) (method : Method) :
    (addMethod methods method).Nodup := by
  unfold addMethod
  split
  · exact distinct
  · rename_i fresh
    rw [List.nodup_append]
    refine ⟨distinct, by simp, ?_⟩
    intro one member other single
    rw [List.mem_singleton.mp single]
    intro same
    exact fresh (same ▸ member)

theorem nodup_bodyMethods (indent : Nat) {methods : List Method} (distinct : methods.Nodup)
    (lines : List Text) : (bodyMethods indent methods lines).Nodup := by
  induction lines generalizing methods with
  | nil => exact distinct
  | cons line lines ih =>
    unfold bodyMethods
    split
    · exact ih distinct
    split
    · exact distinct
    split
    · exact ih (nodup_addMethod distinct _)
    · exact ih distinct

theorem nodup_declaredMethods (arguments : Text) : (declaredMethods arguments).Nodup := by
  simp only [declaredMethods]
  split
  · simp
  · apply List.foldlRecOn _ _ List.nodup_nil
    intro methods distinct token _
    exact nodup_addMethod distinct _

theorem nodup_methodsOf (distinct : ∀ entry ∈ known, entry.2.Nodup) (name : Text) :
    (methodsOf known name).Nodup := by
  unfold methodsOf
  split
  · simp
  · rename_i methods _ found
    obtain ⟨_, _, same, _⟩ := List.lookup_eq_some_iff.mp found
    exact distinct (name, methods) (by simp [same])
  · simp

theorem nodup_of_mem_resources (lines : List Text) :
    ∀ entry ∈ resources lines, entry.2.Nodup := by
  intro entry member
  obtain ⟨place, _, found⟩ := List.mem_filterMap.mp (List.mem_reverse.mp member)
  obtain ⟨name, _, rfl⟩ := Option.map_eq_some_iff.mp found
  exact nodup_bodyMethods _ List.nodup_nil _

def OnePerMethod (file : Path) (line : Nat) (endpoints : List Endpoint) : Prop :=
  ∃ (methods : List Method) (endpointOf : Method → Endpoint), methods.Nodup ∧
    endpoints = methods.map endpointOf ∧
    ∀ method, (endpointOf method).method = method ∧ (endpointOf method).DeclaredAt .flask file line

theorem OnePerMethod.nil (file : Path) (line : Nat) : OnePerMethod file line [] :=
  ⟨[], fun method => ⟨Route.compose [], method, ⟨file, line⟩, [], [], some .flask⟩, List.nodup_nil,
    rfl, fun _ => ⟨rfl, Route.composed_compose [], rfl, rfl⟩⟩

theorem onePerMethod_resourceEndpoints (distinct : ∀ entry ∈ known, entry.2.Nodup) (found : Found) :
    OnePerMethod file place.number (resourceEndpoints file base known place found) := by
  simp only [resourceEndpoints]
  split
  · rename_i name route _
    exact ⟨_, _, nodup_methodsOf distinct name, rfl,
      fun _ => ⟨rfl, Route.composed_compose _, rfl, rfl⟩⟩
  · exact .nil file place.number

theorem onePerMethod_routeEndpoints (found : Found) (handlerOf : Call → Text) :
    OnePerMethod file place.number (routeEndpoints file base place found handlerOf) := by
  simp only [routeEndpoints]
  split
  · rename_i call route _
    exact ⟨_, _, nodup_declaredMethods call.text, rfl,
      fun _ => ⟨rfl, Route.composed_compose _, rfl, rfl⟩⟩
  · exact .nil file place.number

theorem onePerMethod_endpointsAt (file : Path) (base : Text)
    (distinct : ∀ entry ∈ known, entry.2.Nodup) (place : Place) :
    OnePerMethod file place.number (endpointsAt file base known place) := by
  unfold endpointsAt
  split
  · exact .nil file place.number
  split
  · exact onePerMethod_resourceEndpoints distinct _
  split
  · exact onePerMethod_routeEndpoints _ _
  split
  · exact onePerMethod_routeEndpoints _ _
  · exact .nil file place.number

theorem OnePerMethod.declaredAt {line : Nat} {endpoints : List Endpoint}
    (one : OnePerMethod file line endpoints) {endpoint : Endpoint} (member : endpoint ∈ endpoints) :
    endpoint.DeclaredAt .flask file line := by
  obtain ⟨methods, endpointOf, _, rfl, made⟩ := one
  obtain ⟨method, _, rfl⟩ := List.mem_map.mp member
  exact (made method).2

theorem OnePerMethod.pairwise {line : Nat} {endpoints : List Endpoint}
    (one : OnePerMethod file line endpoints) :
    endpoints.Pairwise fun first second => first.method ≠ second.method := by
  obtain ⟨methods, endpointOf, distinct, rfl, made⟩ := one
  rw [List.pairwise_map]
  apply distinct.imp
  intro first second differ
  rwa [(made first).1, (made second).1]

theorem ascending_extract (file : Path) (content : Text) :
    Ascending .flask file (Text.lines content).length (extract file content) := by
  apply ascending_flatMap
  intro place endpoint member
  exact (onePerMethod_endpointsAt file _ (nodup_of_mem_resources _) place).declaredAt member

theorem pairwise_method_extract (file : Path) (content : Text) :
    (extract file content).Pairwise fun first second =>
      first.location.line = second.location.line → first.method ≠ second.method := by
  have each := onePerMethod_endpointsAt file (baseOf (Text.lines content))
    (nodup_of_mem_resources (Text.lines content))
  apply Place.pairwise_flatMap_all
  · intro place
    apply (each place).pairwise.imp
    intro first second differ _
    exact differ
  · intro place other earlier first found second more same
    rw [((each place).declaredAt found).line_eq, ((each other).declaredAt more).line_eq] at same
    omega

end Flask

theorem ascending_extractorOf (framework : Framework) (file : Path) (content : Text) :
    Ascending framework.extractorOf.framework file (Text.lines content).length
      (framework.extractorOf.extract file content) := by
  cases framework with
  | spring => exact Spring.ascending_extract file content
  | jaxRs => exact JaxRs.ascending_extract file content
  | gin => exact ⟨by simp [Framework.extractorOf, Gin.extract], .nil⟩
  | echo => exact Echo.ascending_extract file content
  | fastApi => exact FastApi.ascending_extract file content
  | flask | flaskRestful => exact Flask.ascending_extract file content

theorem Catalogue.ascending_endpoints? {frameworks : List Framework} {path : Path} {content : Text}
    {endpoints : List Endpoint}
    (taken : (Catalogue.ofList frameworks).endpoints? path content = some endpoints) :
    ∃ extractor, Ascending extractor path (Text.lines content).length endpoints := by
  obtain ⟨extractor, selected, rfl⟩ := Option.map_eq_some_iff.mp taken
  simp only [select?, Option.bind_eq_bind, Option.bind_eq_some_iff] at selected
  obtain ⟨_, _, found⟩ := selected
  obtain ⟨framework, _, rfl⟩ := List.mem_map.mp (List.mem_of_find?_eq_some found)
  exact ⟨_, ascending_extractorOf framework path content⟩

/-- Whatever the text, the endpoints that an extractor finds have composed routes, lie on lines of their
file and belong to its framework. They come in the order of their lines; where a line declares one
endpoint at most, no line comes twice, and no line has two endpoints for one method where it may declare
several. -/
theorem extract_wellFormed (framework : Framework) (file : Path) (content : Text) :
    (∀ endpoint ∈ framework.extractorOf.extract file content,
      Route.Composed endpoint.route ∧ endpoint.location.file = file ∧
        endpoint.location.line < (Text.lines content).length ∧
        endpoint.framework.map Framework.extractor = some framework.extractorOf.framework) ∧
    (framework.extractorOf.extract file content).Pairwise
      (fun first second => first.location.line ≤ second.location.line) ∧
    (framework = .jaxRs ∨ framework = .fastApi →
      (framework.extractorOf.extract file content).Pairwise
        fun first second => first.location.line < second.location.line) ∧
    (framework.extractorOf.framework = .flask →
      (framework.extractorOf.extract file content).Pairwise
        fun first second => ¬ (first.location.line = second.location.line ∧
          first.method = second.method)) := by
  have ascending := ascending_extractorOf framework file content
  refine ⟨?_, ascending.ordered, ?_, ?_⟩
  · intro endpoint member
    obtain ⟨line, less, declared⟩ := ascending.declared endpoint member
    refine ⟨declared.route, ?_, ?_, declared.framework⟩
    · rw [declared.location]
    · rw [declared.line_eq]
      exact less
  · intro single
    rcases single with rfl | rfl
    · exact (JaxRs.underway_extract file content).ordered
    · exact FastApi.pairwise_lt_extract file content
  · intro several
    have methods : ∀ {first second : Endpoint},
        (first.location.line = second.location.line → first.method ≠ second.method) →
          ¬ (first.location.line = second.location.line ∧ first.method = second.method) := by
      intro first second differ both
      exact differ both.1 both.2
    cases framework with
    | flask | flaskRestful => exact (Flask.pairwise_method_extract file content).imp methods
    | spring | jaxRs | gin | echo | fastApi => cases several

def sharedLine : Text := "a.add_resource(S, 's//')\n@a.route('b', methods=['GET', 'put'])"

def partedMarks : Text :=
  "class A \x7b\n@GET public int b() \x7b\x7d\n@Path(\"c/\")\n@PUT\npublic int d() \x7b\x7d\n\x7d"

theorem extract_wellFormed_of_sharedLine :
    (∃ endpoint ∈ Flask.extract ⟨"app.py"⟩ sharedLine, endpoint.framework = some .flaskRestful ∧
      Route.Composed endpoint.route ∧ endpoint.location.line < (Text.lines sharedLine).length ∧
      endpoint.framework.map Framework.extractor = some .flask) ∧
    (Flask.extract ⟨"app.py"⟩ sharedLine).map (·.location.line) = [0, 1, 1] ∧
    (Flask.extract ⟨"app.py"⟩ sharedLine).Pairwise (fun first second =>
      ¬ (first.location.line = second.location.line ∧ first.method = second.method)) ∧
    (JaxRs.extract ⟨"A.java"⟩ partedMarks).map (·.location.line) = [1, 2] ∧
    (JaxRs.extract ⟨"A.java"⟩ partedMarks).Pairwise (fun first second =>
      first.location.line < second.location.line) := by
  obtain ⟨each, _, _, methods⟩ := extract_wellFormed .flask ⟨"app.py"⟩ sharedLine
  obtain ⟨_, _, ascends, _⟩ := extract_wellFormed .jaxRs ⟨"A.java"⟩ partedMarks
  dsimp only [Framework.extractorOf] at each methods ascends
  have member : (⟨"/s", .get, ⟨⟨"app.py"⟩, 0⟩, "S", "get", some .flaskRestful⟩ : Endpoint) ∈
      Flask.extract ⟨"app.py"⟩ sharedLine := by
    decide +kernel
  obtain ⟨composed, _, inside, belongs⟩ := each _ member
  exact ⟨⟨_, member, rfl, composed, inside, belongs⟩, by decide +kernel, methods rfl,
    by decide +kernel, ascends (.inl rfl)⟩

end RouteAtlas
