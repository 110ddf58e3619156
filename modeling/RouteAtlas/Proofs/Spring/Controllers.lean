import RouteAtlas.Extract.Spring
import RouteAtlas.Proofs.Code.ClassBody
import RouteAtlas.Proofs.Route

namespace RouteAtlas.Spring

open Pattern

inductive Stereotype where
  | controller
  | restController

def Stereotype.name : Stereotype → Identifier
  | .controller => ⟨"Controller", by decide, by decide⟩
  | .restController => ⟨"RestController", by decide, by decide⟩

def requestMapping : Identifier := ⟨"RequestMapping", by decide, by decide⟩

structure ClassMarks where
  stereotype : Option Stereotype
  base : Option Fragment

instance : Annotated ClassMarks where
  annotations marks := marks.stereotype.toList.map (fun stereotype => ⟨stereotype.name, none⟩) ++
    marks.base.toList.map fun base => ⟨requestMapping, some (.route base)⟩

theorem markLines_eq (marks : ClassMarks) : markLines marks =
    (marks.stereotype.toList.map fun stereotype => ⟨stereotype.name, none⟩).map Mark.text ++
      (marks.base.toList.map fun base => ⟨requestMapping, some (.route base)⟩).map Mark.text :=
  List.map_append

inductive Shorthand where
  | get
  | post
  | put
  | delete
  | patch

namespace Shorthand

def name : Shorthand → Identifier
  | .get => ⟨"GetMapping", by decide, by decide⟩
  | .post => ⟨"PostMapping", by decide, by decide⟩
  | .put => ⟨"PutMapping", by decide, by decide⟩
  | .delete => ⟨"DeleteMapping", by decide, by decide⟩
  | .patch => ⟨"PatchMapping", by decide, by decide⟩

def method : Shorthand → Method
  | .get => .get
  | .post => .post
  | .put => .put
  | .delete => .delete
  | .patch => .patch

end Shorthand

inductive Mapping where
  | shorthand (kind : Shorthand) (route : Option Fragment)
  | request (route : Fragment) (method : Identifier)

namespace Mapping

def mark : Mapping → Mark
  | .shorthand kind route => ⟨kind.name, route.map .route⟩
  | .request route method => ⟨requestMapping, some (.request route method)⟩

def method : Mapping → Method
  | .shorthand kind _ => kind.method
  | .request _ method => .ofToken method.text

def route : Mapping → Text
  | .shorthand _ route => (route.map Fragment.text).getD ['/']
  | .request route _ => route.text

end Mapping

theorem Shorthand.name_mem (kind : Shorthand) : kind.name.text ∈ mappings := by
  cases kind <;> decide

theorem Mapping.name_mem (mapping : Mapping) : mapping.mark.name.text ∈ mappings := by
  cases mapping with
  | shorthand kind route => exact kind.name_mem
  | request route method => exact (by decide : requestMapping.text ∈ mappings)

instance : Annotated (Option Mapping) where
  annotations mapping := mapping.toList.map Mapping.mark

/-- A mapped method of a controller declares one endpoint, and other methods declare none. -/
def declared (file : Path) : Option (Identifier × ClassMarks) → Option Mapping → Identifier → Nat →
    List Endpoint
  | some (owner, ⟨some _, base⟩), some mapping, handler, line =>
    [⟨Route.compose [(base.map Fragment.text).getD [], mapping.route], mapping.method,
      ⟨file, line⟩, owner.text, handler.text, some .spring⟩]
  | _, _, _, _ => []

section Arguments

theorem needs_namedRoutePattern : Needs '=' namedRoutePattern :=
  .left (.left (.left (.left (.left (.left (.right (.text (by decide))))))))

theorem mappingRoute?_route (fragment : Fragment) :
    mappingRoute? (quoted '"' fragment.text) = some fragment.text := by
  have signless : '=' ∉ quoted '"' fragment.text := by
    simp (disch := decide) [quoted, fragment.not_mem]
  have literal := firstDoubleQuoted?_quoted (fragment.quote_not_mem (.inl rfl)) []
  have positional : Text.trimStart ((Text.trimStart (quoted '"' fragment.text)).dropWhile (· == '{')) =
      quoted '"' fragment.text := rfl
  rw [List.append_nil] at literal
  rw [mappingRoute?, needs_namedRoutePattern.partIn?_eq_none signless]
  simp only [positional, literal]
  rfl

theorem reads_namedRoutePattern (fragment : Fragment) (rest : Text) :
    Reads namedRoutePattern none ("value = ".toList ++ quoted '"' fragment.text) rest
      [(1, fragment.text)] := by
  have space : ∀ c ∈ [' '], isBlank c := List.all_eq_true.mp (by decide)
  have unquoted : ∀ c ∈ fragment.text, (c != '"') = true := by
    intro c member
    exact bne_iff_ne.mpr (fragment.plain (.inl rfl) c member).1
  have pieces : "value = ".toList ++ quoted '"' fragment.text =
      [] ++ "value".toList ++ [' '] ++ ['='] ++ [' '] ++ [] ++ [] ++ ['"'] ++ fragment.text ++ ['"'] := by
    simp [quoted]
  rw [pieces]
  change Reads _ _ _ _ ([] ++ [] ++ [] ++ [] ++ [] ++ [] ++ [] ++ [] ++ [(1, fragment.text)] ++ [])
  refine .seq (.seq (.seq (.seq (.seq (.seq (.seq (.seq (.seq (.boundary ?_) (.left (.text _)))
    (.many space ?_)) (.text _)) (.many space ?_)) (.right rfl .nothing)) (.many (by simp) ?_))
    (.one (by decide))) (.capture 1 (.many unquoted ?_))) (.one (by decide))
  · exact (by decide : wordAt none ≠ wordAt (some 'v'))
  all_goals
    rintro c ⟨⟩
    decide

theorem mappingRoute?_request (fragment : Fragment) (method : Identifier) :
    mappingRoute? (Arguments.request fragment method).text = some fragment.text := by
  have named := (reads_namedRoutePattern fragment
    (", method = ".toList ++ ("RequestMethod.".toList ++ method.text))).partIn?_start 1
  rw [List.append_assoc] at named
  unfold mappingRoute? Arguments.text
  simp only [named]
  rfl

theorem Mapping.mappingRoute?_eq (mapping : Mapping) :
    (mappingRoute? mapping.mark.inner).getD ['/'] = mapping.route := by
  cases mapping with
  | shorthand kind route =>
    cases route with
    | none => rfl
    | some fragment => exact congrArg (·.getD ['/']) (mappingRoute?_route fragment)
  | request route method => exact congrArg (·.getD ['/']) (mappingRoute?_request route method)

theorem partIn?_requestMethodPattern (fragment : Fragment) (method : Identifier) :
    requestMethodPattern.partIn? 1 (Arguments.request fragment method).text = some method.text := by
  have read : Reads requestMethodPattern (lastOr none ("value = ".toList ++
      quoted '"' fragment.text ++ ", method = ".toList)) ("RequestMethod.".toList ++ method.text) []
        ([] ++ [(1, method.text)]) :=
    .seq (.text _) (.capture 1 (.many1 method.filled method.word (by simp)))
  have dotless : '.' ∉ "value = ".toList ++ quoted '"' fragment.text ++ ", method = ".toList := by
    simp (disch := decide) [quoted, fragment.not_mem]
  have found := read.partIn? (fun left c right same => runs_eq_nil fun stop passes => ?_) 1
  · rw [List.append_nil, List.append_assoc] at found
    exact found
  · obtain ⟨_, word, _⟩ := passes_seq.mp passes
    obtain ⟨rest, here, _⟩ := passes_text.mp word
    have split : (c :: right ++ "RequestMethod".toList) ++ '.' :: method.text =
        "RequestMethod".toList ++ '.' :: rest := by
      simpa using here
    have clear : '.' ∉ c :: right := by
      intro member
      rw [same] at dotless
      exact dotless (List.mem_append_right left member)
    obtain ⟨longer, _⟩ := Text.append_cons_inj (by simpa using clear) (by decide) split
    have length := congrArg List.length longer
    simp at length

theorem Mapping.mappingMethod?_eq (mapping : Mapping) :
    mappingMethod? mapping.mark.name.text mapping.mark.inner = some mapping.method := by
  cases mapping with
  | shorthand kind route => cases kind <;> rfl
  | request route method =>
    have named : mappingMethod? requestMapping.text (Arguments.request route method).text =
        some (((requestMethodPattern.partIn? 1 (Arguments.request route method).text).map
          Method.ofToken).getD .get) := rfl
    rw [partIn?_requestMethodPattern] at named
    exact named

end Arguments

section Lines

variable {file : Path} {place : Place} {state : State} {mark : Mark}

theorem readSite_scopes (site : AnnotationSite) :
    (readSite file place state site).scopes = state.scopes := by
  unfold readSite
  split
  · rfl
  · split
    · rfl
    · split
      · split <;> rfl
      · rfl

theorem readLine_mark (file : Path) (same : Text.trim place.line = mark.text)
    (settled : state.scopes.Settled) : ∃ back, (∀ c ∈ back, isBlank c) ∧
      readLine file state place =
        readSite file place state ⟨mark.name.text, mark.inner, 0, back⟩ := by
  obtain ⟨back, blank, sites⟩ := mark.annotationsOn_eq same place.below
  refine ⟨back, blank, ?_⟩
  have classless := mark.apart.className?_trim same
  have kept : (readSite file place state ⟨mark.name.text, mark.inner, 0, back⟩).scopes =
      state.scopes := readSite_scopes _
  have level := settled.advance_level (braceBalance_mark same)
  rw [← kept] at level
  simp only [readLine, same, isCommentOrBlank_mark, sites, List.foldl_cons, List.foldl_nil,
    openClass, classless, Bool.false_eq_true, if_false, level]

theorem readLine_stereotype {stereotype : Stereotype}
    (same : Text.trim place.line = (Mark.mk stereotype.name none).text)
    (settled : state.scopes.Settled) : readLine file state place =
      { state with pending := { state.pending with controller := true } } := by
  obtain ⟨back, _, read⟩ := readLine_mark file same settled
  rw [read, readSite, if_pos]
  cases stereotype
  · exact .inl rfl
  · exact .inr rfl

theorem readLine_base {base : Fragment}
    (same : Text.trim place.line = (Mark.mk requestMapping (some (.route base))).text)
    (heads : leadsToClass 0 place.below = true) (settled : state.scopes.Settled) :
    readLine file state place =
      { state with pending := { state.pending with base := Route.base base.text } } := by
  obtain ⟨back, _, read⟩ := readLine_mark file same settled
  have headsClass : annotatesClass place.line place.below 0 = true := by
    rw [annotatesClass_mark same, heads]
  have route : mappingRoute? (Mark.mk requestMapping (some (.route base))).inner =
      some base.text := mappingRoute?_route base
  have other : ¬ (requestMapping.text = "Controller".toList ∨
      requestMapping.text = "RestController".toList) := by decide
  rw [read, readSite, if_neg other, if_pos ⟨rfl, headsClass⟩]
  simp only [route, Option.map_some, Option.getD_some]

theorem readLine_classLine {name : Identifier} (same : Text.trim place.line = classLine name) :
    readLine file state place =
      ⟨state.scopes.enter name.text state.pending, .plain, state.endpoints⟩ := by
  have entered : (state.scopes.openClass name.text state.pending).advance place.line =
      state.scopes.enter name.text state.pending :=
    ClassScopes.advance_openClass (braceBalance_classLine same)
  simp only [readLine, same, isCommentOrBlank_classLine, annotationsOn_classLine same,
    List.foldl_nil, openClass, className?_classLine, Bool.false_eq_true, if_false, entered]

theorem readLine_methodLine {name : Identifier} (same : Text.trim place.line = methodLine name)
    (settled : state.scopes.Settled) :
    readLine file state place = { state with scopes := state.scopes.rise } := by
  have classless := (apart_methodLine name).className?_trim same
  have risen := settled.advance_rise (braceBalance_methodLine same)
  simp only [readLine, same, isCommentOrBlank_methodLine, annotationsOn_methodLine same,
    List.foldl_nil, openClass, classless, Bool.false_eq_true, if_false, risen]

theorem readLine_endLine (same : Text.trim place.line = endLine) :
    readLine file state place = { state with scopes := state.scopes.advance place.line } := by
  have classless := apart_endLine.className?_trim same
  simp only [readLine, same, isCommentOrBlank_endLine, annotationsOn_endLine same,
    List.foldl_nil, openClass, classless, Bool.false_eq_true, if_false]

theorem handlerIn_methodLine {back line : Text} {name : Identifier} (blank : ∀ c ∈ back, isBlank c)
    (same : Text.trim line = methodLine name) (below : List Text) :
    handlerIn (back :: line :: below) = name.text := by
  have empty := Text.trim_of_blank blank
  have passed : handlerIn (back :: line :: below) = handlerIn (line :: below) := by
    rw [handlerIn, empty]
    rfl
  rw [passed, handlerIn, same]
  simp only [afterVisibility?_methodLine, declaredName?_methodTail, Option.getD_some]

def header (marks : ClassMarks) : Header :=
  ⟨marks.stereotype.isSome, (marks.base.map fun base => Route.base base.text).getD []⟩

theorem compose_header (marks : ClassMarks) (route : Text) :
    Route.compose [(header marks).base, route] =
      Route.compose [(marks.base.map Fragment.text).getD [], route] := by
  rw [← Route.compose_base_getD, Option.map_map]
  rfl

theorem readLine_mapping {mapping : Mapping} {name : Identifier} {line : Text} {rest : List Text}
    {owner : Option (Identifier × ClassMarks)}
    (same : Text.trim place.line = mapping.mark.text) (below : place.below = line :: rest)
    (next : Text.trim line = methodLine name) (within : state.scopes.Within header owner) :
    readLine file state place = { state with
      endpoints := state.endpoints ++ declared file owner (some mapping) name place.number } := by
  obtain ⟨back, blank, read⟩ := readLine_mark file same within.settled
  have others : ∀ word ∈ mappings,
      ¬ (word = "Controller".toList ∨ word = "RestController".toList) := by decide
  have member : annotatesClass place.line place.below 0 = false := by
    rw [annotatesClass_mark same, below, leadsToClass_methodLine next]
  have handler := handlerIn_methodLine blank next rest
  rw [read, readSite, if_neg (others _ mapping.name_mem), if_neg (by simp [member])]
  simp only [mapping.mappingMethod?_eq, mapping.mappingRoute?_eq, below, List.drop_zero, handler]
  have current := within.current
  cases owner with
  | none =>
    have outside : state.scopes.current? = none := by simpa using current
    simp [outside, declared]
  | some owner =>
    obtain ⟨scope, inside, told⟩ := Option.map_eq_some_iff.mp current
    obtain ⟨named, headed⟩ := Prod.mk.inj told
    obtain ⟨owner, marks⟩ := owner
    simp only [inside, named, headed, compose_header]
    obtain ⟨stereotype, base⟩ := marks
    cases stereotype with
    | none => simp [header, declared]
    | some stereotype => simp [header, declared]

end Lines

section Run

variable (file : Path)

def settledState (scopes : ClassScopes Header) (endpoints : List Endpoint) : State :=
  ⟨scopes, .plain, endpoints⟩

variable {scopes : ClassScopes Header} {lines : List Text} (endpoints : List Endpoint)
  (above below : List Text)

theorem leads_stereotype (settled : scopes.Settled) {stereotype : Option Stereotype}
    (spelled : lines.map Text.trim =
      (stereotype.toList.map fun stereotype => ⟨stereotype.name, none⟩).map Mark.text) :
    Place.Leads (readLine file) above lines below (settledState scopes endpoints)
      ⟨scopes, ⟨stereotype.isSome, []⟩, endpoints⟩ :=
  .optional (fun stereotype : Option Stereotype => State.mk scopes ⟨stereotype.isSome, []⟩ endpoints)
    spelled fun _ _ same => readLine_stereotype same settled

theorem leads_base (settled : scopes.Settled) (controller : Bool) {base : Option Fragment}
    (spelled : lines.map Text.trim =
      (base.toList.map fun base => ⟨requestMapping, some (.route base)⟩).map Mark.text)
    (heads : leadsToClass 0 below = true) :
    Place.Leads (readLine file) above lines below ⟨scopes, ⟨controller, []⟩, endpoints⟩
      ⟨scopes, ⟨controller, (base.map fun base => Route.base base.text).getD []⟩, endpoints⟩ :=
  .optional (fun base : Option Fragment => State.mk scopes
    ⟨controller, (base.map fun base : Fragment => Route.base base.text).getD []⟩ endpoints) spelled
    fun _ _ same => readLine_base same heads settled

theorem leads_nested (settled : scopes.Settled) (marks : ClassMarks) (name : Identifier)
    (spelled : lines.map Text.trim = markLines marks ++ [classLine name]) :
    Place.Leads (readLine file) above lines below (settledState scopes endpoints)
      (settledState (scopes.enter name.text (header marks)) endpoints) := by
  obtain ⟨marked, last, rfl, markedSpelled, same⟩ := List.map_eq_append_iff.mp spelled
  obtain ⟨line, rfl, declares⟩ := List.map_eq_singleton_iff.mp same
  rw [markLines_eq] at markedSpelled
  obtain ⟨first, second, rfl, stereotyped, based⟩ := List.map_eq_append_iff.mp markedSpelled
  have heads : leadsToClass 0 ([line] ++ below) = true := leadsToClass_classLine declares
  have becomes := leads_stereotype file endpoints above (second ++ [line] ++ below) settled
    stereotyped
  have rebased := leads_base file endpoints (first.reverse ++ above) ([line] ++ below) settled
    marks.stereotype.isSome based heads
  have enters : Place.Leads (readLine file) (second.reverse ++ (first.reverse ++ above)) [line] below
      ⟨scopes, header marks, endpoints⟩
      (settledState (scopes.enter name.text (header marks)) endpoints) :=
    .single (readLine_classLine declares)
  rw [List.append_assoc]
  exact becomes.append (rebased.append enters)

theorem leads_method {owner : Option (Identifier × ClassMarks)} (within : scopes.Within header owner)
    (mapping : Option Mapping) (name : Identifier)
    (spelled : lines.map Text.trim = markLines mapping ++ [methodLine name]) :
    Place.Leads (readLine file) above lines below (settledState scopes endpoints)
      (settledState scopes.rise (endpoints ++ declared file owner mapping name above.length)) := by
  obtain ⟨marked, last, rfl, markedSpelled, same⟩ := List.map_eq_append_iff.mp spelled
  obtain ⟨line, rfl, declares⟩ := List.map_eq_singleton_iff.mp same
  cases mapping with
  | none =>
    obtain rfl : marked = [] := by simpa [markLines, Annotated.annotations] using markedSpelled
    have plain : declared file owner none name above.length = [] := by
      rcases owner with _ | ⟨owner, _ | _, base⟩ <;> rfl
    rw [plain, List.append_nil]
    exact .single (readLine_methodLine declares within.settled)
  | some mapping =>
    obtain ⟨first, rfl, mapped⟩ := List.map_eq_singleton_iff.mp
      (show marked.map Text.trim = [mapping.mark.text] from markedSpelled)
    exact .append (.single (readLine_mapping mapped rfl declares within))
      (.single (readLine_methodLine declares within.settled))

theorem follows : FollowsDeclarations (readLine file) settledState header (declared file) where
  nested settled marks name _ spelled endpoints above below :=
    leads_nested file endpoints above below settled marks name spelled
  method within mapping name _ spelled endpoints above below :=
    leads_method file endpoints above below within mapping name spelled
  ended same _ _ _ _ := readLine_endLine same

end Run

/-- A file of nested classes has the endpoints of the mapped methods of its controllers. -/
theorem extract_controllers {file : Path} {content : Text}
    {declarations : Declarations ClassMarks (Option Mapping)}
    (spelled : (Text.lines content).map Text.trim = declarations.lines) :
    extract file content = declarations.endpoints (declared file) none 0 := by
  have within : (ClassScopes.empty : ClassScopes Header).Within header none :=
    ⟨ClassScopes.settled_empty, rfl⟩
  have leads := (follows file).leads declarations spelled within [] [] []
  rw [extract, show State.initial = settledState .empty [] from rfl, leads.foldl_all]
  rfl

def nestedControllers : Declarations ClassMarks (Option Mapping) :=
  .nested ⟨some .restController, some ⟨"/outer", .refl true⟩⟩ ⟨"Outer", .refl true, .refl true⟩
    (.method (some (.shorthand .get (some ⟨"a", .refl true⟩))) ⟨"a", .refl true, .refl true⟩
    (.nested ⟨none, some ⟨"/lost", .refl true⟩⟩ ⟨"Helper", .refl true, .refl true⟩
      (.method (some (.shorthand .post none)) ⟨"lost", .refl true, .refl true⟩ .done)
    (.nested ⟨some .controller, none⟩ ⟨"Inner", .refl true, .refl true⟩
      (.method (some (.request ⟨"\x7bid\x7d//", .refl true⟩ ⟨"DELETE", .refl true, .refl true⟩))
        ⟨"drop", .refl true, .refl true⟩ .done)
    (.method none ⟨"plain", .refl true, .refl true⟩
    (.method (some (.shorthand .patch none)) ⟨"c", .refl true, .refl true⟩ .done)))))
    .done

theorem extract_controllers_of_nestedControllers :
    extract ⟨"A.java"⟩ (Text.join ['\n'] nestedControllers.lines) =
      [⟨"/outer/a", .get, ⟨⟨"A.java"⟩, 3⟩, "Outer", "a", some .spring⟩,
        ⟨"/\x7bid\x7d", .delete, ⟨⟨"A.java"⟩, 14⟩, "Inner", "drop", some .spring⟩,
        ⟨"/outer", .patch, ⟨⟨"A.java"⟩, 20⟩, "Outer", "c", some .spring⟩] := by
  have spelled : (Text.lines (Text.join ['\n'] nestedControllers.lines)).map Text.trim =
      nestedControllers.lines := by
    decide +kernel
  rw [extract_controllers spelled]
  decide +kernel

end RouteAtlas.Spring
