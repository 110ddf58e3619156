import Mathlib.Data.List.Induction
import RouteAtlas.Proofs.Code.Headers
import RouteAtlas.Proofs.Code.Reader

namespace RouteAtlas.JaxRs

def DeclaresMember (place : Place) (declaration : Text) : Prop :=
  isCommentOrBlank (Text.trim place.line) = false ∧ className? (Text.trim place.line) = none ∧
    (afterVisibility? (Text.trim place.line)).filter isMember = some declaration

def IsDeclaration (place : Place) : Prop :=
  place.IsClassHeader ∨ ∃ declaration, DeclaresMember place declaration

def HasVerb (verb : Method) (line : Nat) (place : Place) : Prop :=
  place.number = line ∧ place.HasAnnotation fun site =>
    site.name ∈ verbs ∧ verb = .ofToken site.name

/-- A path annotation is written on the line, and it belongs to no class. -/
def HasPath (route : Text) (line : Nat) (place : Place) : Prop :=
  place.number = line ∧ place.HasAnnotation fun site =>
    site.name = "Path".toList ∧ annotatesClass place.line place.below site.span = false ∧
      route = (firstDoubleQuoted? site.arguments).getD ['/']

structure Pending.Each (pending : Pending) (holds : (Place → Prop) → Prop) : Prop where
  verb : ∀ verb line, pending.verb = some (verb, line) → holds (HasVerb verb line)
  path : ∀ route line, pending.path = some (route, line) → holds (HasPath route line)

/-- A path annotation is written on the line, and it belongs to a class. -/
def HasClassPath (base : Text) (place : Place) : Prop :=
  place.HasAnnotation fun site =>
    site.name = "Path".toList ∧ annotatesClass place.line place.below site.span = true ∧
      base = Route.base ((firstDoubleQuoted? site.arguments).getD [])

/-- The path of the class on the line: that of its mark, or none when no class path waits for a class. -/
def ClassPath (lines : List Text) (base : Text) (place : Place) : Prop :=
  Place.MarkedBy lines Place.IsClassHeader (HasClassPath base) place ∨
    base = [] ∧ ∀ other, ¬ Place.Awaiting lines Place.IsClassHeader (HasClassPath other) place.number

structure HeaderAt (lines : List Text) (name base : Text) (place : Place) : Prop where
  member : place ∈ Place.all lines
  declares : place.DeclaresClass name
  path : ClassPath lines base place

/-- The endpoint is that of a member with marks of its own, in the class around the member and below the
path of this class. -/
def OfMarkedMember (file : Path) (lines : List Text) (endpoint : Endpoint) : Prop :=
  ∃ member ∈ Place.all lines, ∃ declaration scope pending around,
    DeclaresMember member declaration ∧
    (Place.classesBefore lines member.number).current? = some around ∧ scope.name = around.name ∧
    HeaderAt lines around.name scope.header around.header ∧
    memberEndpoint? file scope pending declaration = some endpoint ∧
    pending.Each fun is => Place.MarkedBy lines IsDeclaration is member

/-- The path that waits for a class in front of the line with this number. -/
def NextClassPath (lines : List Text) (number : Nat) (base : Text) : Prop :=
  Place.Awaiting lines Place.IsClassHeader (HasClassPath base) number ∨
    base = [] ∧ ∀ mark ∈ Place.all lines, ∀ other, HasClassPath other mark → mark.number < number →
      ¬ Place.Undeclared lines Place.IsClassHeader mark number

structure Traced (file : Path) (lines : List Text) (number : Nat) (state : State) : Prop where
  scopes : state.scopes.Matches (HeaderAt lines) (Place.classesBefore lines number)
  classPath : NextClassPath lines number state.classPath
  pending : state.pending.Each fun is => Place.Awaiting lines IsDeclaration is number
  endpoints : ∀ endpoint ∈ state.endpoints, OfMarkedMember file lines endpoint

variable {lines : List Text} {file : Path} {place : Place} {state : State} {base : Text}

theorem Pending.each_none (holds : (Place → Prop) → Prop) : Pending.none.Each holds where
  verb := by
    intro verb line noted
    cases noted
  path := by
    intro route line noted
    cases noted

theorem Pending.Each.mono {pending : Pending} {holds others : (Place → Prop) → Prop}
    (each : pending.Each holds) (imp : ∀ is, holds is → others is) : pending.Each others where
  verb verb line noted := imp _ (each.verb verb line noted)
  path route line noted := imp _ (each.path route line noted)

/-- The last class path on a line is the one that waits. -/
theorem exists_classPath_foldl (place : Place) (sites : List AnnotationSite) (state : State)
    (found : ∃ site ∈ sites, site.name = "Path".toList ∧
      annotatesClass place.line place.below site.span = true) :
    ∃ site ∈ sites, site.name = "Path".toList ∧
      annotatesClass place.line place.below site.span = true ∧
      (sites.foldl (JaxRs.readSite place) state).classPath =
        Route.base ((firstDoubleQuoted? site.arguments).getD []) := by
  induction sites using List.reverseRecOn with
  | nil =>
    obtain ⟨_, none, _⟩ := found
    cases none
  | append_singleton sites last ih =>
    rw [List.foldl_append, List.foldl_cons, List.foldl_nil]
    by_cases ofClass : last.name = "Path".toList ∧
        annotatesClass place.line place.below last.span = true
    · refine ⟨last, by simp, ofClass.1, ofClass.2, ?_⟩
      rw [JaxRs.readSite, if_pos ofClass.1, if_pos ofClass.2]
    · have earlier : ∃ site ∈ sites, site.name = "Path".toList ∧
          annotatesClass place.line place.below site.span = true := by
        obtain ⟨site, member, named⟩ := found
        rcases List.mem_append.mp member with inside | same
        · exact ⟨site, inside, named⟩
        · rw [List.mem_singleton.mp same] at named
          exact absurd named ofClass
      obtain ⟨site, member, named, heads, kept⟩ := ih earlier
      refine ⟨site, List.mem_append_left _ member, named, heads, Eq.trans ?_ kept⟩
      unfold JaxRs.readSite
      split
      · rename_i path
        rw [if_neg fun heads => ofClass ⟨path, heads⟩]
      · split <;> rfl

theorem NextClassPath.classPath (next : NextClassPath lines place.number base)
    (member : place ∈ Place.all lines)
    (here : ∀ other, HasClassPath other place → HasClassPath base place) :
    ClassPath lines base place := by
  rcases next with awaiting | ⟨rfl, clear⟩
  · exact .inl awaiting.markedBy
  by_cases marked : ∃ other, HasClassPath other place
  · obtain ⟨other, marks⟩ := marked
    exact .inl (Place.awaiting_here member (here other marks)).markedBy
  · refine .inr ⟨rfl, ?_⟩
    intro other awaiting
    obtain ⟨mark, present, marks, above, undeclared⟩ := awaiting
    rcases Nat.lt_or_eq_of_le above with earlier | same
    · exact clear mark present other marks earlier undeclared
    · rw [Place.eq_of_number_eq present member same] at marks
      exact marked ⟨other, marks⟩

theorem ClassPath.next (path : ClassPath lines base place) (member : place ∈ Place.all lines)
    (plain : ¬ place.IsClassHeader) : NextClassPath lines (place.number + 1) base := by
  rcases path with ⟨mark, present, marks, above, undeclared, _⟩ | ⟨rfl, clear⟩
  · have awaiting : Place.Awaiting lines Place.IsClassHeader (HasClassPath base) place.number :=
      ⟨mark, present, marks, above, undeclared⟩
    exact .inl (awaiting.next member plain)
  · refine .inr ⟨rfl, ?_⟩
    intro mark present other marks above undeclared
    exact clear other ⟨mark, present, marks, Nat.le_of_lt_succ above,
      fun place inside after before => undeclared place inside after (by omega)⟩

theorem nextClassPath_of_header (member : place ∈ Place.all lines) (header : place.IsClassHeader) :
    NextClassPath lines (place.number + 1) [] := by
  refine .inr ⟨rfl, ?_⟩
  intro mark _ _ _ above undeclared
  exact undeclared place member (Nat.le_of_lt_succ above) (Nat.lt_succ_self _) header

theorem traced_initial : Traced file lines 0 .initial where
  scopes := ClassScopes.matches_empty
  classPath := .inr ⟨rfl, fun _ _ _ _ above => absurd above (Nat.not_lt_zero _)⟩
  pending := Pending.each_none _
  endpoints := by
    intro endpoint found
    cases found

namespace Traced

theorem readSite (traced : Traced file lines place.number state) (member : place ∈ Place.all lines)
    (code : isCommentOrBlank (Text.trim place.line) = false) {site : AnnotationSite}
    (written : site ∈ annotationsOn place.line place.below) :
    Traced file lines place.number (JaxRs.readSite place state site) := by
  unfold JaxRs.readSite
  split
  · rename_i named
    split
    · rename_i ofClass
      have marked : HasClassPath (Route.base ((firstDoubleQuoted? site.arguments).getD [])) place :=
        ⟨code, site, written, named, ofClass, rfl⟩
      exact ⟨traced.scopes, .inl (Place.awaiting_here member marked), traced.pending,
        traced.endpoints⟩
    · rename_i ofMember
      refine ⟨traced.scopes, traced.classPath, ⟨traced.pending.verb, ?_⟩, traced.endpoints⟩
      intro route line noted
      cases noted
      exact Place.awaiting_here member
        ⟨rfl, code, site, written, named, by simpa using ofMember, rfl⟩
  · split
    · rename_i named
      refine ⟨traced.scopes, traced.classPath, ⟨?_, traced.pending.path⟩, traced.endpoints⟩
      intro verb line noted
      cases noted
      exact Place.awaiting_here member ⟨rfl, code, site, written, named, rfl⟩
    · exact traced

theorem pending_next (traced : Traced file lines place.number state) (member : place ∈ Place.all lines)
    (plain : ¬ IsDeclaration place) :
    state.pending.Each fun is => Place.Awaiting lines IsDeclaration is (place.number + 1) :=
  traced.pending.mono fun _ awaiting => awaiting.next member plain

theorem readDeclaration (traced : Traced file lines place.number state)
    (member : place ∈ Place.all lines) (code : isCommentOrBlank (Text.trim place.line) = false)
    (path : ClassPath lines state.classPath place) :
    Traced file lines (place.number + 1)
      { JaxRs.readDeclaration file state (Text.trim place.line) with
        scopes := (JaxRs.readDeclaration file state (Text.trim place.line)).scopes.advance
          place.line } := by
  unfold JaxRs.readDeclaration
  cases declared : className? (Text.trim place.line) with
  | some name =>
    have declares : place.DeclaresClass name := ⟨code, declared⟩
    exact ⟨Place.matches_of_header traced.scopes member declares ⟨member, declares, path⟩,
      nextClassPath_of_header member ⟨name, declares⟩, Pending.each_none _, traced.endpoints⟩
  | none =>
    have scopes := Place.matches_of_plain traced.scopes member code declared
    have next := path.next member (Place.not_isClassHeader_of_plain declared)
    dsimp only
    cases visible : (afterVisibility? (Text.trim place.line)).filter isMember with
    | none =>
      have plain : ¬ IsDeclaration place := by
        intro declaration
        rcases declaration with header | ⟨declaration, _, _, found⟩
        · exact Place.not_isClassHeader_of_plain declared header
        · rw [visible] at found
          cases found
      exact ⟨scopes, next, traced.pending_next member plain, traced.endpoints⟩
    | some declaration =>
      refine ⟨scopes, next, Pending.each_none _, ?_⟩
      intro endpoint present
      rcases List.mem_append.mp present with earlier | new
      · exact traced.endpoints endpoint earlier
      · obtain ⟨scope, inside, found⟩ := Option.bind_eq_some_iff.mp (Option.mem_toList.mp new)
        obtain ⟨around, outer, same⟩ := traced.scopes.current? inside
        have header : HeaderAt lines around.name scope.header around.header := same.name ▸ same.header
        have own := traced.pending.mono fun _ awaiting => awaiting.markedBy
        exact ⟨place, member, declaration, scope, state.pending, around, ⟨code, declared, visible⟩,
          outer, same.name, header, found, own⟩

theorem comment (traced : Traced file lines place.number state) (member : place ∈ Place.all lines)
    (comment : isCommentOrBlank (Text.trim place.line) = true) :
    Traced file lines (place.number + 1) state := by
  have header := Place.not_isClassHeader_of_comment comment
  have plain : ¬ IsDeclaration place := by
    intro declaration
    rcases declaration with declared | ⟨declaration, code, _⟩
    · exact header declared
    · rw [comment] at code
      cases code
  have path : ClassPath lines state.classPath place := by
    apply traced.classPath.classPath member
    intro other marked
    have code := marked.1
    rw [comment] at code
    cases code
  exact ⟨Place.matches_of_comment traced.scopes member comment, path.next member header,
    traced.pending_next member plain, traced.endpoints⟩

end Traced

theorem keeps_traced (file : Path) (lines : List Text) :
    (reader file).Keeps lines (Traced file lines) := by
  refine LineReader.keeps_annotated (fun _ member comment _ traced => traced.comment member comment)
    (fun _ member code _ written _ traced => traced.readSite member code written) ?_
  intro place member code state read _ same traced
  apply traced.readDeclaration member code
  apply traced.classPath.classPath member
  intro other marked
  obtain ⟨_, site, written, named, heads, _⟩ := marked
  obtain ⟨last, found, ofPath, ofClass, base⟩ :=
    exists_classPath_foldl place _ state ⟨site, written, named, heads⟩
  exact ⟨code, last, found, ofPath, ofClass, same ▸ base⟩

/-- An endpoint has the marks of a member. They stand in the annotations of this member unless they head
no class and no member at all. -/
theorem ofMarkedMember_of_mem_extract {content : Text} {endpoint : Endpoint}
    (found : endpoint ∈ extract file content) :
    OfMarkedMember file (Text.lines content) endpoint := by
  have traced : Traced file (Text.lines content) (Text.lines content).length
      ((Place.all (Text.lines content)).foldl (readLine file) .initial) := by
    rw [readLine_eq_reader]
    exact (keeps_traced file (Text.lines content)).foldl_all traced_initial
  exact traced.endpoints endpoint found

def orderResource : Text :=
  Text.join ['\n'] ["@Path(\"/orders\")", "public class OrderResource \x7b", "    @GET", "",
    "    @Path(\"/open\")", "    public String open() \x7b return \"\"; \x7d", "    @DELETE // all",
    "    public void clear() \x7b\x7d", "\x7d"]

theorem ofMarkedMember_of_mem_extract_of_orderResource :
    (⟨"/orders", .delete, ⟨⟨"A.java"⟩, 6⟩, "OrderResource", "clear", some .jaxRs⟩ : Endpoint) ∈
        extract ⟨"A.java"⟩ orderResource ∧
      OfMarkedMember ⟨"A.java"⟩ (Text.lines orderResource)
        ⟨"/orders", .delete, ⟨⟨"A.java"⟩, 6⟩, "OrderResource", "clear", some .jaxRs⟩ := by
  have found : (⟨"/orders", .delete, ⟨⟨"A.java"⟩, 6⟩, "OrderResource", "clear", some .jaxRs⟩ :
      Endpoint) ∈ extract ⟨"A.java"⟩ orderResource := by
    decide +kernel
  exact ⟨found, ofMarkedMember_of_mem_extract found⟩

def hiddenResource : Text :=
  Text.join ['\n'] ["@Path(\"/r\")", "public class R \x7b", "    @GET",
    "    String hidden() \x7b return \"\"; \x7d", "",
    "    public String helper() \x7b return \"\"; \x7d", "\x7d"]

/-- The verb of a method without a visibility word makes the unmarked method after it an endpoint. -/
theorem endpoint_of_unmarked_member :
    (⟨"/r", .get, ⟨⟨"R.java"⟩, 2⟩, "R", "helper", some .jaxRs⟩ : Endpoint) ∈
        extract ⟨"R.java"⟩ hiddenResource ∧
      ∃ member ∈ Place.all (Text.lines hiddenResource),
        ((afterVisibility? (Text.trim member.line)).filter isMember).bind declaredName? =
            some "helper".toList ∧
          ∀ mark ∈ Place.all (Text.lines hiddenResource),
            (∃ site ∈ annotationsOn mark.line mark.below, site.name ∈ verbs ∨ site.name = "Path".toList) →
              ¬ mark.Heads member := by
  decide +kernel

end RouteAtlas.JaxRs
