import RouteAtlas.Extract.JaxRs
import RouteAtlas.Proofs.Code.ClassBody
import RouteAtlas.Proofs.Code.Visibility
import RouteAtlas.Proofs.Route

namespace RouteAtlas.JaxRs

open Pattern

inductive Verb where
  | get
  | post
  | put
  | delete
  | patch
  | head
  | options

namespace Verb

def name : Verb → Identifier
  | .get => ⟨"GET", by decide, by decide⟩
  | .post => ⟨"POST", by decide, by decide⟩
  | .put => ⟨"PUT", by decide, by decide⟩
  | .delete => ⟨"DELETE", by decide, by decide⟩
  | .patch => ⟨"PATCH", by decide, by decide⟩
  | .head => ⟨"HEAD", by decide, by decide⟩
  | .options => ⟨"OPTIONS", by decide, by decide⟩

def method : Verb → Method
  | .get => .get
  | .post => .post
  | .put => .put
  | .delete => .delete
  | .patch => .patch
  | .head => .unknown
  | .options => .unknown

theorem name_mem (verb : Verb) : verb.name.text ∈ verbs := by
  cases verb <;> decide

theorem ofToken_name (verb : Verb) : Method.ofToken verb.name.text = verb.method := by
  cases verb <;> decide

end Verb

def pathName : Identifier := ⟨"Path", by decide, by decide⟩

def pathMark (fragment : Fragment) : Mark := ⟨pathName, some (.route fragment)⟩

def verbMark (verb : Verb) : Mark := ⟨verb.name, none⟩

structure ClassMarks where
  base : Option Fragment

instance : Annotated ClassMarks where
  annotations marks := marks.base.toList.map pathMark

structure MethodMarks where
  verb : Option Verb
  path : Option Fragment
  pathFirst : Bool

instance : Annotated MethodMarks where
  annotations marks :=
    if marks.pathFirst then marks.path.toList.map pathMark ++ marks.verb.toList.map verbMark
    else marks.verb.toList.map verbMark ++ marks.path.toList.map pathMark

/-- A method of a class with a mark of its own declares one endpoint, at the first of its marks. -/
def declared (file : Path) : Option (Identifier × ClassMarks) → MethodMarks → Identifier → Nat →
    List Endpoint
  | none, _, _, _ => []
  | some _, ⟨none, none, _⟩, _, _ => []
  | some (owner, ⟨base⟩), ⟨verb, path, _⟩, handler, line =>
    [⟨Route.compose [(base.map Fragment.text).getD [], (path.map Fragment.text).getD ['/']],
      (verb.map Verb.method).getD .unknown, ⟨file, line⟩, owner.text, handler.text, some .jaxRs⟩]

section Members

theorem paren_mem_of_isMember {declaration : Text} (member : isMember declaration = true) :
    '(' ∈ declaration := by
  induction declaration with
  | nil => cases member
  | cons c rest ih =>
    rw [isMember] at member
    split at member
    · rename_i same
      simp [same]
    · split at member
      · cases member
      · exact List.mem_cons_of_mem c (ih member)

theorem isMember_methodTail (name : Identifier) : isMember (methodTail name) = true := by
  have passes : ∀ front rest : Text, '(' ∉ front → '=' ∉ front →
      isMember (front ++ '(' :: rest) = true := by
    intro front rest
    induction front with
    | nil => simp [isMember]
    | cons c front ih =>
      intro paren equals
      simp only [List.mem_cons, not_or] at paren equals
      simp [isMember, Ne.symm paren.1, Ne.symm equals.1, ih paren.2 equals.2]
  have paren : '(' ∉ name.text := name.not_mem (by decide)
  have equals : '=' ∉ name.text := name.not_mem (by decide)
  have tail := passes (" String ".toList ++ name.text) ") \x7b".toList (by simp [paren])
    (by simp [equals])
  have pieces : methodTail name = (" String ".toList ++ name.text) ++ '(' :: ") \x7b".toList := by
    unfold methodTail
    simp
  rw [pieces, tail]

theorem filter_isMember_of_not_mem {line : Text} (free : '(' ∉ line) :
    (afterVisibility? line).filter isMember = none := by
  rw [Option.filter_eq_none_iff]
  intro declaration found member
  obtain ⟨left, word, _, rfl, _⟩ := exists_of_afterVisibility? found
  have paren := paren_mem_of_isMember member
  simp [paren] at free

/-- A path on a line of its own is no member, whatever it holds: a visibility word is too long to stand
before the parenthesis. -/
theorem filter_isMember_pathMark (fragment : Fragment) :
    (afterVisibility? (pathMark fragment).text).filter isMember = none := by
  rw [Option.filter_eq_none_iff]
  intro declaration found member
  obtain ⟨left, word, listed, split, _⟩ := exists_of_afterVisibility? found
  have lengths : ∀ text ∈ visibilityWords, 6 ≤ text.length := by decide
  have long := lengths word listed
  obtain ⟨front, rest, rfl⟩ := List.append_of_mem (paren_mem_of_isMember member)
  have inner : '(' ∉ quoted '"' fragment.text ++ [')'] := by
    simp (disch := decide) [quoted, fragment.not_mem]
  have spelled : (pathMark fragment).text =
      "@Path".toList ++ '(' :: (quoted '"' fragment.text ++ [')']) := rfl
  have place : "@Path".toList ++ '(' :: (quoted '"' fragment.text ++ [')']) =
      (left ++ (word ++ front)) ++ '(' :: rest := by
    rw [← spelled, split]
    simp
  obtain ⟨short, _⟩ := Text.append_cons_inj_single (by decide) inner place
  have length := congrArg List.length short
  simp only [List.length_append] at length
  have five : "@Path".toList.length = 5 := rfl
  omega

end Members

section Lines

variable {file : Path} {place : Place} {state : State} {mark : Mark}

theorem readSite_scopes (site : AnnotationSite) :
    (readSite place state site).scopes = state.scopes := by
  unfold readSite
  split
  · split <;> rfl
  · split <;> rfl

theorem readLine_mark (file : Path) (same : Text.trim place.line = mark.text)
    (unread : (afterVisibility? mark.text).filter isMember = none)
    (settled : state.scopes.Settled) : ∃ back, readLine file state place =
      readSite place state ⟨mark.name.text, mark.inner, 0, back⟩ := by
  obtain ⟨back, _, sites⟩ := mark.annotationsOn_eq same place.below
  refine ⟨back, ?_⟩
  have classless := mark.apart.className?_trim same
  have kept : (readSite place state ⟨mark.name.text, mark.inner, 0, back⟩).scopes =
      state.scopes := readSite_scopes _
  have level := settled.advance_level (braceBalance_mark same)
  rw [← kept] at level
  simp only [readLine, same, isCommentOrBlank_mark, sites, List.foldl_cons, List.foldl_nil,
    readDeclaration, classless, unread, Bool.false_eq_true, if_false, level]

theorem firstDoubleQuoted?_pathMark (fragment : Fragment) :
    firstDoubleQuoted? (pathMark fragment).inner = some fragment.text := by
  have literal := firstDoubleQuoted?_quoted (fragment.quote_not_mem (.inl rfl)) []
  rwa [List.append_nil] at literal

theorem readLine_base {fragment : Fragment}
    (same : Text.trim place.line = (pathMark fragment).text)
    (heads : leadsToClass 0 place.below = true) (settled : state.scopes.Settled) :
    readLine file state place = { state with classPath := Route.base fragment.text } := by
  obtain ⟨back, read⟩ := readLine_mark file same (filter_isMember_pathMark fragment) settled
  have named : (pathMark fragment).name.text = "Path".toList := rfl
  have headsClass : annotatesClass place.line place.below 0 = true := by
    rw [annotatesClass_mark same, heads]
  rw [read, readSite, if_pos named, if_pos headsClass]
  simp only [firstDoubleQuoted?_pathMark, Option.getD_some]

theorem readLine_path {fragment : Fragment}
    (same : Text.trim place.line = (pathMark fragment).text)
    (member : leadsToClass 0 place.below = false) (settled : state.scopes.Settled) :
    readLine file state place = { state with
      pending := { state.pending with path := some (fragment.text, place.number) } } := by
  obtain ⟨back, read⟩ := readLine_mark file same (filter_isMember_pathMark fragment) settled
  have named : (pathMark fragment).name.text = "Path".toList := rfl
  have headsNone : ¬ annotatesClass place.line place.below 0 = true := by
    rw [annotatesClass_mark same, member]
    decide
  rw [read, readSite, if_pos named, if_neg headsNone]
  simp only [firstDoubleQuoted?_pathMark, Option.getD_some]

theorem readLine_verb {verb : Verb} (same : Text.trim place.line = (verbMark verb).text)
    (settled : state.scopes.Settled) : readLine file state place = { state with
      pending := { state.pending with verb := some (verb.method, place.number) } } := by
  have free : '(' ∉ '@' :: verb.name.text := by
    simp (disch := decide) [verb.name.not_mem]
  obtain ⟨back, read⟩ := readLine_mark file same (filter_isMember_of_not_mem free) settled
  have named : (verbMark verb).name.text ∈ verbs := verb.name_mem
  have other : ∀ word ∈ verbs, word ≠ "Path".toList := by decide
  rw [read, readSite, if_neg (other _ named), if_pos named, verbMark, verb.ofToken_name]

theorem readLine_classLine {name : Identifier} (same : Text.trim place.line = classLine name) :
    readLine file state place =
      ⟨state.scopes.enter name.text state.classPath, [], .none, state.endpoints⟩ := by
  have entered : (state.scopes.openClass name.text state.classPath).advance place.line =
      state.scopes.enter name.text state.classPath :=
    ClassScopes.advance_openClass (braceBalance_classLine same)
  simp only [readLine, same, isCommentOrBlank_classLine, annotationsOn_classLine same,
    List.foldl_nil, readDeclaration, className?_classLine, Bool.false_eq_true, if_false, entered]

theorem readLine_methodLine {name : Identifier} (same : Text.trim place.line = methodLine name)
    (settled : state.scopes.Settled) :
    readLine file state place = ⟨state.scopes.rise, state.classPath, .none, state.endpoints ++
      (state.scopes.current?.bind fun scope =>
        memberEndpoint? file scope state.pending (methodTail name)).toList⟩ := by
  have classless := (apart_methodLine name).className?_trim same
  have risen := settled.advance_rise (braceBalance_methodLine same)
  have member : (some (methodTail name)).filter isMember = some (methodTail name) := by
    simp [isMember_methodTail]
  simp only [readLine, same, isCommentOrBlank_methodLine, annotationsOn_methodLine same,
    List.foldl_nil, readDeclaration, classless, afterVisibility?_methodLine, member,
    Bool.false_eq_true, if_false, risen]

theorem readLine_endLine (same : Text.trim place.line = endLine) :
    readLine file state place = { state with scopes := state.scopes.advance place.line } := by
  have classless := apart_endLine.className?_trim same
  have unread : (afterVisibility? endLine).filter isMember = none :=
    filter_isMember_of_not_mem (by decide)
  simp only [readLine, same, isCommentOrBlank_endLine, annotationsOn_endLine same,
    List.foldl_nil, readDeclaration, classless, unread, Bool.false_eq_true, if_false]

end Lines

section Marks

variable (file : Path)

def MethodMarks.pending (marks : MethodMarks) (line : Nat) : Pending :=
  ⟨marks.verb.map fun verb =>
      (verb.method, if marks.pathFirst then line + marks.path.toList.length else line),
    marks.path.map fun path =>
      (path.text, if marks.pathFirst then line else line + marks.verb.toList.length)⟩

theorem MethodMarks.method?_pending (marks : MethodMarks) (line : Nat) :
    (marks.pending line).method? = if marks.verb.isSome ∨ marks.path.isSome then
      some ((marks.verb.map Verb.method).getD .unknown, line) else none := by
  obtain ⟨verb, path, pathFirst⟩ := marks
  cases verb <;> cases path <;> cases pathFirst <;> simp [pending, Pending.method?]

def header (marks : ClassMarks) : Text := ((marks.base.map Fragment.text).map Route.base).getD []

theorem memberEndpoint?_eq {scopes : ClassScopes Text} {owner : Option (Identifier × ClassMarks)}
    (within : scopes.Within header owner) (marks : MethodMarks) (name : Identifier) (line : Nat) :
    (scopes.current?.bind fun scope =>
      memberEndpoint? file scope (marks.pending line) (methodTail name)).toList =
        declared file owner marks name line := by
  have current := within.current
  cases owner with
  | none =>
    have outside : scopes.current? = none := by simpa using current
    rw [outside]
    rfl
  | some owner =>
    obtain ⟨scope, inside, told⟩ := Option.map_eq_some_iff.mp current
    obtain ⟨named, headed⟩ := Prod.mk.inj told
    obtain ⟨owner, base⟩ := owner
    rw [inside, Option.bind_some, memberEndpoint?, marks.method?_pending, named, headed,
      declaredName?_methodTail, header]
    simp only [Route.compose_base_getD]
    obtain ⟨verb, path, pathFirst⟩ := marks
    cases verb <;> cases path <;> rfl

end Marks

section Run

variable (file : Path)

def settledState (scopes : ClassScopes Text) (endpoints : List Endpoint) : State :=
  ⟨scopes, [], .none, endpoints⟩

variable {scopes : ClassScopes Text} {lines : List Text} (endpoints : List Endpoint)
  (above below : List Text)

theorem leads_base (settled : scopes.Settled) {base : Option Fragment}
    (spelled : lines.map Text.trim = (base.toList.map pathMark).map Mark.text)
    (heads : leadsToClass 0 below = true) :
    Place.Leads (readLine file) above lines below (settledState scopes endpoints)
      ⟨scopes, header ⟨base⟩, .none, endpoints⟩ :=
  .optional (fun base : Option Fragment => State.mk scopes (header ⟨base⟩) .none endpoints) spelled
    fun _ _ same => readLine_base same heads settled

theorem leads_verb (settled : scopes.Settled) (path : Option (Text × Nat)) {verb : Option Verb}
    (spelled : lines.map Text.trim = (verb.toList.map verbMark).map Mark.text) :
    Place.Leads (readLine file) above lines below ⟨scopes, [], ⟨none, path⟩, endpoints⟩
      ⟨scopes, [], ⟨verb.map fun verb => (verb.method, above.length), path⟩, endpoints⟩ :=
  .optional (fun verb : Option Verb => State.mk scopes []
    ⟨verb.map fun verb => (verb.method, above.length), path⟩ endpoints) spelled
    fun _ _ same => readLine_verb same settled

theorem leads_path (settled : scopes.Settled) (verb : Option (Method × Nat)) {path : Option Fragment}
    (spelled : lines.map Text.trim = (path.toList.map pathMark).map Mark.text)
    (member : leadsToClass 0 below = false) :
    Place.Leads (readLine file) above lines below ⟨scopes, [], ⟨verb, none⟩, endpoints⟩
      ⟨scopes, [], ⟨verb, path.map fun path => (path.text, above.length)⟩, endpoints⟩ :=
  .optional (fun path : Option Fragment => State.mk scopes []
    ⟨verb, path.map fun path => (path.text, above.length)⟩ endpoints) spelled
    fun _ _ same => readLine_path same member settled

theorem leads_marks (settled : scopes.Settled) (marks : MethodMarks)
    (spelled : lines.map Text.trim = markLines marks) (member : leadsToClass 0 below = false) :
    Place.Leads (readLine file) above lines below (settledState scopes endpoints)
      ⟨scopes, [], marks.pending above.length, endpoints⟩ := by
  obtain ⟨verb, path, pathFirst⟩ := marks
  cases pathFirst with
  | true =>
    have parts : lines.map Text.trim = (path.toList.map pathMark).map Mark.text ++
        (verb.toList.map verbMark).map Mark.text := spelled.trans List.map_append
    obtain ⟨first, second, rfl, paths, verbs⟩ := List.map_eq_append_iff.mp parts
    -- on the way from the path to the method there may be the verb
    have memberFirst : leadsToClass 0 (second ++ below) = false := by
      rw [leadsToClass_marks verbs, member]
    have number : (first.reverse ++ above).length = above.length + path.toList.length := by
      have count := congrArg List.length paths
      simp only [List.length_map] at count
      simp [count, Nat.add_comm]
    have takesVerb := leads_verb file endpoints (first.reverse ++ above) below settled
      (path.map fun path => (path.text, above.length)) verbs
    rw [number] at takesVerb
    exact (leads_path file endpoints above (second ++ below) settled none paths memberFirst).append
      takesVerb
  | false =>
    have parts : lines.map Text.trim = (verb.toList.map verbMark).map Mark.text ++
        (path.toList.map pathMark).map Mark.text := spelled.trans List.map_append
    obtain ⟨first, second, rfl, verbs, paths⟩ := List.map_eq_append_iff.mp parts
    have number : (first.reverse ++ above).length = above.length + verb.toList.length := by
      have count := congrArg List.length verbs
      simp only [List.length_map] at count
      simp [count, Nat.add_comm]
    have takesPath := leads_path file endpoints (first.reverse ++ above) below settled
      (verb.map fun verb => (verb.method, above.length)) paths member
    rw [number] at takesPath
    exact (leads_verb file endpoints above (second ++ below) settled none verbs).append takesPath

theorem leads_nested (settled : scopes.Settled) (marks : ClassMarks) (name : Identifier)
    (spelled : lines.map Text.trim = markLines marks ++ [classLine name]) :
    Place.Leads (readLine file) above lines below (settledState scopes endpoints)
      (settledState (scopes.enter name.text (header marks)) endpoints) := by
  obtain ⟨marked, last, rfl, based, same⟩ := List.map_eq_append_iff.mp spelled
  obtain ⟨line, rfl, declares⟩ := List.map_eq_singleton_iff.mp same
  have heads : leadsToClass 0 ([line] ++ below) = true := leadsToClass_classLine declares
  exact (leads_base file endpoints above ([line] ++ below) settled based heads).append
    (.single (readLine_classLine declares))

theorem leads_method {owner : Option (Identifier × ClassMarks)} (within : scopes.Within header owner)
    (marks : MethodMarks) (name : Identifier)
    (spelled : lines.map Text.trim = markLines marks ++ [methodLine name]) :
    Place.Leads (readLine file) above lines below (settledState scopes endpoints)
      (settledState scopes.rise (endpoints ++ declared file owner marks name above.length)) := by
  obtain ⟨marked, last, rfl, markedSpelled, same⟩ := List.map_eq_append_iff.mp spelled
  obtain ⟨line, rfl, declares⟩ := List.map_eq_singleton_iff.mp same
  have member : leadsToClass 0 ([line] ++ below) = false := leadsToClass_methodLine declares
  have collects := leads_marks file endpoints above ([line] ++ below) within.settled marks
    markedSpelled member
  rw [← memberEndpoint?_eq file within marks name above.length]
  exact collects.append (.single (readLine_methodLine declares within.settled))

theorem follows : FollowsDeclarations (readLine file) settledState header (declared file) where
  nested settled marks name _ spelled endpoints above below :=
    leads_nested file endpoints above below settled marks name spelled
  method within marks name _ spelled endpoints above below :=
    leads_method file endpoints above below within marks name spelled
  ended same _ _ _ _ := readLine_endLine same

end Run

/-- A file of nested classes has the endpoints of the methods that are marked with a verb or a path. -/
theorem extract_resourceClasses {file : Path} {content : Text}
    {declarations : Declarations ClassMarks MethodMarks}
    (spelled : (Text.lines content).map Text.trim = declarations.lines) :
    extract file content = declarations.endpoints (declared file) none 0 := by
  have within : (ClassScopes.empty : ClassScopes Text).Within header none :=
    ⟨ClassScopes.settled_empty, rfl⟩
  have leads := (follows file).leads declarations spelled within [] [] []
  rw [extract, show State.initial = settledState .empty [] from rfl, leads.foldl_all]
  rfl

def nestedResources : Declarations ClassMarks MethodMarks :=
  .nested ⟨some ⟨"/outer", by decide⟩⟩ ⟨"Outer", by decide, by decide⟩
    (.method ⟨some .get, some ⟨"\x7bid\x7d", by decide⟩, false⟩ ⟨"one", by decide, by decide⟩
    (.method ⟨none, none, false⟩ ⟨"plain", by decide, by decide⟩
    (.nested ⟨none⟩ ⟨"Inner", by decide, by decide⟩
      (.method ⟨some .head, none, true⟩ ⟨"probe", by decide, by decide⟩ .done)
    (.method ⟨some .delete, some ⟨"all/", by decide⟩, true⟩ ⟨"drop", by decide, by decide⟩
    (.method ⟨none, some ⟨"sub", by decide⟩, false⟩ ⟨"locate", by decide, by decide⟩ .done)))))
    .done

theorem extract_resourceClasses_of_nestedResources :
    extract ⟨"A.java"⟩ (Text.join ['\n'] nestedResources.lines) =
      [⟨"/outer/\x7bid\x7d", .get, ⟨⟨"A.java"⟩, 2⟩, "Outer", "one", some .jaxRs⟩,
        ⟨"/", .unknown, ⟨⟨"A.java"⟩, 9⟩, "Inner", "probe", some .jaxRs⟩,
        ⟨"/outer/all", .delete, ⟨⟨"A.java"⟩, 13⟩, "Outer", "drop", some .jaxRs⟩,
        ⟨"/outer/sub", .unknown, ⟨⟨"A.java"⟩, 17⟩, "Outer", "locate", some .jaxRs⟩] := by
  have spelled : (Text.lines (Text.join ['\n'] nestedResources.lines)).map Text.trim =
      nestedResources.lines := by
    decide +kernel
  rw [extract_resourceClasses spelled]
  decide +kernel

end RouteAtlas.JaxRs
