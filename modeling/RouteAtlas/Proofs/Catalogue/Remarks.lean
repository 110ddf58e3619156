import RouteAtlas.Proofs.Catalogue.ClosedLists
import RouteAtlas.Proofs.Code.Insertion

namespace RouteAtlas

open Place

/-- The line does not set the keyword, since it gives none or a line in front of it does. -/
def LeavesKeyword (constructor keyword : Pattern) (front : List Text) (line : Text) (back : List Text) :
    Prop :=
  Indented.keywordAt? constructor keyword ⟨front.reverse, line, back⟩ = none ∨
    Indented.constructorKeyword? constructor keyword front ≠ none

section Constructors

variable {openings : Text → List Text} {constructor keyword : Pattern} {front back : List Text}
  {line : Text}

theorem constructorKeyword?_insert (closed : ¬ Call.OpenBehind (onLine openings) front)
    (called : ∀ line, ∀ found ∈ constructor.findAll line, found.rest ∈ openings line)
    (leaves : LeavesKeyword constructor keyword front line back) :
    Indented.constructorKeyword? constructor keyword (front ++ line :: back) =
      Indented.constructorKeyword? constructor keyword (front ++ back) := by
  rw [Indented.constructorKeyword?_append closed called, Indented.constructorKeyword?_append closed called,
    Indented.constructorKeyword?_cons front.reverse]
  rcases leaves with none | given
  · rw [none, Option.none_or]
  · obtain ⟨value, first⟩ := Option.ne_none_iff_exists'.mp given
    rw [first, Option.some_or, Option.some_or]

theorem rest_mem_of_findAll {found : Found} (more others : List Found)
    (written : found ∈ constructor.findAll line) :
    found.rest ∈ (constructor.findAll line ++ more ++ others).map (·.rest) :=
  List.mem_map_of_mem (List.mem_append_left _ (List.mem_append_left _ written))

theorem baseOf_insert (closed : ¬ Call.OpenBehind (onLine openings) front)
    (called : ∀ line, ∀ found ∈ constructor.findAll line, found.rest ∈ openings line)
    (leaves : LeavesKeyword constructor keyword front line back) :
    ((Indented.constructorKeyword? constructor keyword (front ++ line :: back)).map Route.base).getD [] =
      ((Indented.constructorKeyword? constructor keyword (front ++ back)).map Route.base).getD [] := by
  rw [constructorKeyword?_insert closed called leaves]

end Constructors

namespace FastApi

/-- What follows the names of the calls that are read on a line. -/
def openings (line : Text) : List Text :=
  (routerPattern.findAll line ++ (decoratorPattern.atStart? line).toList ++
    (Indented.decoratorPattern.atStart? line).toList).map (·.rest)

variable {front back : List Text} {line : Text} {place twin : Place} {file : Path} {base : Text}

theorem decoratorPattern_atStart?_eq_none (first : (Text.trimStart line).head? = some '#') :
    decoratorPattern.atStart? line = none := by
  have nowhere : decoratorPattern.runs ⟨none, line⟩ = [] := by
    refine Pattern.runs_eq_nil fun stop passes => ?_
    simp only [decoratorPattern, Pattern.blanks, Pattern.passes_seq, Pattern.passes_many,
      Pattern.passes_text] at passes
    obtain ⟨_, ⟨_, ⟨_, ⟨_, ⟨_, rfl, rest, found, _⟩, _⟩, _⟩, _⟩, _⟩ := passes
    have starts : (Text.trimStart line).head? = some '@' := congrArg List.head? found
    rw [first] at starts
    cases starts
  rw [Pattern.atStart?, Pattern.at?, nowhere]
  rfl

theorem endpointAt?_twin (remark : (Text.trimStart line).head? = some '#')
    (closed : ¬ Call.OpenBehind (onLine openings) front) (twins : Twin front line back place twin) :
    endpointAt? file base twin =
      (endpointAt? file base place).map (Endpoint.shift front.length) := by
  have decorated : ∀ line found, Indented.decoratorPattern.atStart? line = some found →
      found.rest ∈ openings line := by
    intro line found start
    simp [openings, start]
  have skipped := Indented.isRemark_of_first remark
  have classless : Indented.className? line = none := Indented.className?_eq_none remark (by decide)
  unfold endpointAt?
  rw [twins.line_eq, twins.number_eq, Indented.nearestClass?_twin twins classless]
  cases start : decoratorPattern.atStart? place.line with
  | none => rfl
  | some found =>
    have opened : found.rest ∈ openings place.line := by simp [openings, start]
    have same := twins.read?_eq closed opened
    cases named : found.part? 1 with
    | none => simp [named]
    | some verb =>
      cases read : Call.read? found.rest place.below with
      | none => simp [same, read]
      | some call =>
        have handler := Indented.handlerBelow_twin decorated skipped twins closed opened read
        cases given : Indented.routeLiteral? call.text with
        | none => simp [same, read, given]
        | some route =>
          simp only [same, read, given, named, handler, Option.bind_eq_bind, Option.bind_some]
          rfl

theorem endpointsBelow_insert (remark : (Text.trimStart line).head? = some '#')
    (closed : ¬ Call.OpenBehind (onLine openings) front) :
    (all (front ++ line :: back)).filterMap (endpointAt? file base) =
      ((all (front ++ back)).filterMap (endpointAt? file base)).map (Endpoint.shift front.length) := by
  have passes : (endpointAt? file base ⟨front.reverse, line, back⟩).toList = [] := by
    rw [endpointAt?, decoratorPattern_atStart?_eq_none remark]
    rfl
  rw [List.filterMap_eq_flatMap_toList, List.filterMap_eq_flatMap_toList]
  apply flatMap_all_insert (Endpoint.shift front.length)
  · exact passes
  · intro place twin twins
    rw [endpointAt?_twin remark closed twins, Option.toList_map]

end FastApi

namespace Flask

def openings (line : Text) : List Text :=
  (blueprintPattern.findAll line ++ ((declaration? line).map (·.1)).toList ++
    (Indented.decoratorPattern.atStart? line).toList).map (·.rest)

variable {front back lines : List Text} {line : Text} {place twin : Place} {file : Path} {base : Text}
  {known : List (Text × List Method)} {found : Found}

theorem bodyMethods_insert (skipped : Indented.isRemark (Text.trim line)) (indent : Nat)
    (methods : List Method) (lines back : List Text) :
    bodyMethods indent methods (lines ++ line :: back) = bodyMethods indent methods (lines ++ back) := by
  induction lines generalizing methods with
  | nil =>
    rw [List.nil_append, List.nil_append, bodyMethods]
    exact if_pos skipped
  | cons next lines ih => simp only [List.cons_append, bodyMethods, ih]

theorem resources_insert (remark : (Text.trimStart line).head? = some '#') :
    resources (front ++ line :: back) = resources (front ++ back) := by
  have skipped := Indented.isRemark_of_first remark
  have passes : (resourceAt? ⟨front.reverse, line, back⟩).toList = [] := by
    rw [resourceAt?, Indented.className?_eq_none remark (by decide)]
    rfl
  have alike : ∀ place twin, Twin front line back place twin →
      (resourceAt? twin).toList = (resourceAt? place).toList.map id := by
    intro place twin twins
    rw [List.map_id]
    cases twins with
    | late member => rfl
    | early member =>
      simp only [resourceAt?, addBelow]
      rw [bodyMethods_insert skipped]
  unfold resources
  rw [List.filterMap_eq_flatMap_toList, List.filterMap_eq_flatMap_toList,
    flatMap_all_insert id passes alike, List.map_id]

theorem resourceEndpoints_twin (closed : ¬ Call.OpenBehind (onLine openings) front)
    (twins : Twin front line back place twin) (opened : found.rest ∈ openings place.line) :
    resourceEndpoints file base known twin found =
      (resourceEndpoints file base known place found).map (Endpoint.shift front.length) := by
  unfold resourceEndpoints
  rw [twins.read?_eq closed opened, twins.number_eq]
  dsimp only
  split
  · rw [List.map_map]
    rfl
  · rfl

theorem routeEndpoints_twin {handlerOf handlerAt : Call → Text}
    (skipped : Indented.isRemark (Text.trim line))
    (closed : ¬ Call.OpenBehind (onLine openings) front) (twins : Twin front line back place twin)
    (opened : found.rest ∈ openings place.line)
    (handled : ∀ call, Call.read? found.rest place.below = some call → handlerAt call = handlerOf call) :
    routeEndpoints file base twin found handlerAt =
      (routeEndpoints file base place found handlerOf).map (Endpoint.shift front.length) := by
  unfold routeEndpoints
  rw [twins.read?_eq closed opened, twins.number_eq, Indented.enclosingClass?_twin skipped twins]
  cases read : Call.read? found.rest place.below with
  | none => rfl
  | some call =>
    cases given : Indented.routeLiteral? call.text with
    | none => simp [given]
    | some route =>
      simp only [given, Option.bind_eq_bind, Option.bind_some, Option.pure_def]
      rw [handled call read, List.map_map]
      rfl

theorem endpointsAt_twin (remark : (Text.trimStart line).head? = some '#')
    (closed : ¬ Call.OpenBehind (onLine openings) front) (twins : Twin front line back place twin) :
    endpointsAt file base known twin =
      (endpointsAt file base known place).map (Endpoint.shift front.length) := by
  have decorated : ∀ line found, Indented.decoratorPattern.atStart? line = some found →
      found.rest ∈ openings line := by
    intro line found start
    simp [openings, start]
  have declared : ∀ found literal?, declaration? place.line = some (found, literal?) →
      found.rest ∈ openings place.line := by
    intro found literal? here
    simp [openings, here]
  have skipped := Indented.isRemark_of_first remark
  unfold endpointsAt
  rw [twins.line_eq]
  by_cases comment : (Text.trimStart place.line).head? == some '#'
  · rw [if_pos comment, if_pos comment]
    rfl
  · rw [if_neg comment, if_neg comment]
    cases first : addResourcePattern.find? place.line with
    | some found =>
      have opened := declared found resourceRoute? (by simp [declaration?, comment, first])
      exact resourceEndpoints_twin closed twins opened
    | none =>
      cases second : routeDecoratorPattern.atStart? place.line with
      | some found =>
        have opened := declared found Indented.routeLiteral? (by
          simp [declaration?, comment, first, second])
        exact routeEndpoints_twin skipped closed twins opened fun call read =>
          Indented.handlerBelow_twin decorated skipped twins closed opened read
      | none =>
        cases third : addRulePattern.find? place.line with
        | some found =>
          have opened := declared found Indented.routeLiteral? (by
            simp [declaration?, comment, first, second, third])
          exact routeEndpoints_twin skipped closed twins opened fun _ _ => rfl
        | none => rfl

theorem endpointsBelow_insert (remark : (Text.trimStart line).head? = some '#')
    (closed : ¬ Call.OpenBehind (onLine openings) front) :
    (all (front ++ line :: back)).flatMap (endpointsAt file base known) =
      ((all (front ++ back)).flatMap (endpointsAt file base known)).map
        (Endpoint.shift front.length) := by
  apply flatMap_all_insert (Endpoint.shift front.length)
  · simp [endpointsAt, remark]
  · exact fun place twin twins => endpointsAt_twin remark closed twins

end Flask

/-- A comment on a line of its own may be put in anywhere but into a call that is still open, unless it
sets the route in front of all others: all endpoints stay the same, and those below are one line further
down. -/
theorem endpoints_of_inserted_remark {content longer line : Text} {front back : List Text} (file : Path)
    (remark : (Text.trimStart line).head? = some '#') (lines : Text.lines content = front ++ back)
    (inserted : Text.lines longer = front ++ line :: back) :
    (¬ Call.OpenBehind (onLine FastApi.openings) front →
      LeavesKeyword FastApi.routerPattern FastApi.basePattern front line back →
        FastApi.extract file longer =
          (FastApi.extract file content).map (Endpoint.shift front.length)) ∧
      (¬ Call.OpenBehind (onLine Flask.openings) front →
        LeavesKeyword Flask.blueprintPattern Flask.basePattern front line back →
          Flask.extract file longer =
            (Flask.extract file content).map (Endpoint.shift front.length)) := by
  constructor
  · intro closed leaves
    have base : FastApi.baseOf (front ++ line :: back) = FastApi.baseOf (front ++ back) :=
      baseOf_insert closed (fun _ _ written => rest_mem_of_findAll _ _ written) leaves
    unfold FastApi.extract
    rw [lines, inserted]
    dsimp only
    rw [base]
    exact FastApi.endpointsBelow_insert remark closed
  · intro closed leaves
    have base : Flask.baseOf (front ++ line :: back) = Flask.baseOf (front ++ back) :=
      baseOf_insert closed (fun _ _ written => rest_mem_of_findAll _ _ written) leaves
    have known : Flask.resources (front ++ line :: back) = Flask.resources (front ++ back) :=
      Flask.resources_insert remark
    unfold Flask.extract
    rw [lines, inserted]
    dsimp only
    rw [base, known]
    exact Flask.endpointsBelow_insert remark closed

def decoratorLines : List Text :=
  ["bp = Blueprint('a', __name__, url_prefix='/a')", "@bp.get('/x',", "    methods=['GET'])",
    "@bp.route('/y')"]

def functionLines : List Text := ["def show():", "    pass"]

def classRemark : Text := "# class B: APIRouter()"

def constructorRemark : Text := "  # class B: Blueprint('b', url_prefix='/b'); APIRouter(prefix='/b')"

theorem endpoints_of_inserted_remark_below_decorators :
    (Text.trimStart constructorRemark).head? = some '#' ∧
    ¬ Call.OpenBehind (onLine FastApi.openings) decoratorLines ∧
    ¬ Call.OpenBehind (onLine Flask.openings) decoratorLines ∧
    LeavesKeyword FastApi.routerPattern FastApi.basePattern decoratorLines
      classRemark functionLines ∧
    LeavesKeyword Flask.blueprintPattern Flask.basePattern decoratorLines constructorRemark
      functionLines ∧
    FastApi.extract ⟨"a.py"⟩
      (Text.join ['\n'] (decoratorLines ++ classRemark :: functionLines)) =
        [⟨"/x", .get, ⟨⟨"a.py"⟩, 1⟩, "main", "show", some .fastApi⟩] ∧
    Flask.extract ⟨"a.py"⟩ (Text.join ['\n'] (decoratorLines ++ constructorRemark :: functionLines)) =
      [⟨"/a/y", .get, ⟨⟨"a.py"⟩, 3⟩, "main", "show", some .flask⟩] := by
  have remark : (Text.trimStart constructorRemark).head? = some '#' := by decide +kernel
  have routers : ¬ Call.OpenBehind (onLine FastApi.openings) decoratorLines :=
    Call.not_openBehind_of_tails FastApi.openings (by decide +kernel) fun _ _ _ opened => opened
  have blueprints : ¬ Call.OpenBehind (onLine Flask.openings) decoratorLines :=
    Call.not_openBehind_of_tails Flask.openings (by decide +kernel) fun _ _ _ opened => opened
  have unset : LeavesKeyword FastApi.routerPattern FastApi.basePattern decoratorLines
      classRemark functionLines :=
    .inl (by decide +kernel)
  have kept : LeavesKeyword Flask.blueprintPattern Flask.basePattern decoratorLines constructorRemark
      functionLines :=
    .inr (by decide +kernel)
  have lines : Text.lines (Text.join ['\n'] (decoratorLines ++ functionLines)) =
      decoratorLines ++ functionLines := by
    decide +kernel
  have fast := (endpoints_of_inserted_remark ⟨"a.py"⟩ (by decide +kernel) lines
    (show Text.lines (Text.join ['\n'] (decoratorLines ++ classRemark :: functionLines)) =
      decoratorLines ++ "# class B: APIRouter()".toList :: functionLines by decide +kernel)).1 routers
        unset
  have flask := (endpoints_of_inserted_remark ⟨"a.py"⟩ remark lines
    (show Text.lines (Text.join ['\n'] (decoratorLines ++ constructorRemark :: functionLines)) =
      decoratorLines ++ constructorRemark :: functionLines by decide +kernel)).2 blueprints kept
  refine ⟨remark, routers, blueprints, unset, kept, fast.trans ?_, flask.trans ?_⟩
  · decide +kernel
  · decide +kernel

/-- Behind a comment with constructors, all routes start with the one that stands in the comment. -/
theorem endpoints_moved_by_remark :
    FastApi.extract ⟨"a.py"⟩ (Text.join ['\n'] ("@app.get('/x')".toList :: functionLines)) =
      [⟨"/x", .get, ⟨⟨"a.py"⟩, 0⟩, "main", "show", some .fastApi⟩] ∧
    FastApi.extract ⟨"a.py"⟩
      (Text.join ['\n'] (constructorRemark :: "@app.get('/x')".toList :: functionLines)) =
        [⟨"/b/x", .get, ⟨⟨"a.py"⟩, 1⟩, "main", "show", some .fastApi⟩] ∧
    Flask.extract ⟨"a.py"⟩ (Text.join ['\n'] ("@app.route('/x')".toList :: functionLines)) =
      [⟨"/x", .get, ⟨⟨"a.py"⟩, 0⟩, "main", "show", some .flask⟩] ∧
    Flask.extract ⟨"a.py"⟩
      (Text.join ['\n'] (constructorRemark :: "@app.route('/x')".toList :: functionLines)) =
        [⟨"/b/x", .get, ⟨⟨"a.py"⟩, 1⟩, "main", "show", some .flask⟩] := by
  decide +kernel

end RouteAtlas
