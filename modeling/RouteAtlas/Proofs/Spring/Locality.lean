import RouteAtlas.Proofs.Code.Headers
import RouteAtlas.Proofs.Code.Reader

namespace RouteAtlas.Spring

def IsControllerMark (place : Place) : Prop :=
  place.HasAnnotation fun site =>
    site.name = "Controller".toList ∨ site.name = "RestController".toList

instance (place : Place) : Decidable (IsControllerMark place) :=
  inferInstanceAs (Decidable (_ ∧ _))

/-- The class around an endpoint is marked as a controller. -/
def InController (lines : List Text) (endpoint : Endpoint) : Prop :=
  ∃ scope, (Place.classesBefore lines endpoint.location.line).current? = some scope ∧
    scope.name = endpoint.owner ∧ scope.header ∈ Place.all lines ∧
    scope.header.DeclaresClass endpoint.owner ∧
    Place.MarkedBy lines Place.IsClassHeader IsControllerMark scope.header

structure HeaderAt (lines : List Text) (name : Text) (header : Header) (place : Place) : Prop where
  member : place ∈ Place.all lines
  declares : place.DeclaresClass name
  marked : header.controller = true →
    Place.MarkedBy lines Place.IsClassHeader IsControllerMark place

structure Traced (lines : List Text) (number : Nat) (state : State) : Prop where
  scopes : state.scopes.Matches (HeaderAt lines) (Place.classesBefore lines number)
  pending : state.pending.controller = true →
    Place.Awaiting lines Place.IsClassHeader IsControllerMark number
  endpoints : ∀ endpoint ∈ state.endpoints, InController lines endpoint

variable {lines : List Text} {file : Path} {place : Place} {state : State}

theorem traced_initial : Traced lines 0 .initial where
  scopes := ClassScopes.matches_empty
  pending := by
    intro controller
    cases controller
  endpoints := by
    intro endpoint found
    cases found

namespace Traced

theorem readSite (traced : Traced lines place.number state) (member : place ∈ Place.all lines)
    (code : isCommentOrBlank (Text.trim place.line) = false) {site : AnnotationSite}
    (written : site ∈ annotationsOn place.line place.below) :
    Traced lines place.number (Spring.readSite file place state site) := by
  unfold Spring.readSite
  split
  · rename_i stereotype
    have marked : IsControllerMark place := ⟨code, site, written, stereotype⟩
    exact ⟨traced.scopes, fun _ => Place.awaiting_here member marked, traced.endpoints⟩
  · split
    · exact ⟨traced.scopes, traced.pending, traced.endpoints⟩
    · split
      · rename_i scope _ inside
        split
        · rename_i controller
          -- the flag that lets the endpoint in was set at the header of the class around it
          obtain ⟨around, found, same⟩ := traced.scopes.current? inside
          have header := same.header
          refine ⟨traced.scopes, traced.pending, ?_⟩
          intro endpoint present
          rcases List.mem_append.mp present with earlier | new
          · exact traced.endpoints endpoint earlier
          · rw [List.mem_singleton.mp new]
            exact ⟨around, found, same.name.symm, header.member, header.declares,
              header.marked controller⟩
        · exact traced
      · exact traced

theorem pending_next (traced : Traced lines place.number state) (member : place ∈ Place.all lines)
    (plain : ¬ place.IsClassHeader) (controller : state.pending.controller = true) :
    Place.Awaiting lines Place.IsClassHeader IsControllerMark (place.number + 1) :=
  (traced.pending controller).next member plain

theorem readHeader (traced : Traced lines place.number state) (member : place ∈ Place.all lines)
    (code : isCommentOrBlank (Text.trim place.line) = false) :
    Traced lines (place.number + 1)
      { openClass state (Text.trim place.line) with
        scopes := (openClass state (Text.trim place.line)).scopes.advance place.line } := by
  unfold openClass
  cases declared : className? (Text.trim place.line) with
  | none =>
    have plain := Place.not_isClassHeader_of_plain declared
    exact ⟨Place.matches_of_plain traced.scopes member code declared,
      traced.pending_next member plain, traced.endpoints⟩
  | some name =>
    have declares : place.DeclaresClass name := ⟨code, declared⟩
    have header : HeaderAt lines name state.pending place :=
      ⟨member, declares, fun controller => (traced.pending controller).markedBy⟩
    refine ⟨Place.matches_of_header traced.scopes member declares header, ?_, traced.endpoints⟩
    intro controller
    cases controller

end Traced

theorem keeps_traced (file : Path) (lines : List Text) : (reader file).Keeps lines (Traced lines) :=
  LineReader.keeps_annotated
    (fun _ member comment _ traced =>
      have plain := Place.not_isClassHeader_of_comment comment
      ⟨Place.matches_of_comment traced.scopes member comment, traced.pending_next member plain,
        traced.endpoints⟩)
    (fun _ member code _ written _ traced => traced.readSite member code written)
    (fun _ member code _ _ _ _ read => read.readHeader member code)

theorem traced_extract (file : Path) (content : Text) :
    Traced (Text.lines content) (Text.lines content).length
      ((Place.all (Text.lines content)).foldl (readLine file) .initial) := by
  rw [readLine_eq_reader]
  exact (keeps_traced file (Text.lines content)).foldl_all traced_initial

/-- The class around an endpoint is marked as a controller. The mark stands in the header of this class
unless it heads no class at all. -/
theorem inController_of_mem_extract {content : Text} {endpoint : Endpoint}
    (found : endpoint ∈ extract file content) : InController (Text.lines content) endpoint :=
  (traced_extract file content).endpoints endpoint found

def userController : Text :=
  Text.join ['\n'] ["interface Users \x7b\x7d", "@RestController", "// all users",
    "@RequestMapping(", "    \"/users\")", "public class UserController \x7b",
    "    @GetMapping(\"/all\")", "    public String all() \x7b", "    \x7d", "\x7d"]

theorem inController_of_mem_extract_of_userController :
    (⟨"/users/all", .get, ⟨⟨"A.java"⟩, 6⟩, "UserController", "all", some .spring⟩ : Endpoint) ∈
        extract ⟨"A.java"⟩ userController ∧
      InController (Text.lines userController)
        ⟨"/users/all", .get, ⟨⟨"A.java"⟩, 6⟩, "UserController", "all", some .spring⟩ := by
  have found : (⟨"/users/all", .get, ⟨⟨"A.java"⟩, 6⟩, "UserController", "all", some .spring⟩ :
      Endpoint) ∈ extract ⟨"A.java"⟩ userController := by
    decide +kernel
  exact ⟨found, inController_of_mem_extract found⟩

def interfaceWithHelper : Text :=
  Text.join ['\n'] ["@RestController", "public interface Api \x7b", "\x7d", "public class Helper \x7b",
    "    @GetMapping(\"/x\")", "    public String x() \x7b return \"\"; \x7d", "\x7d"]

/-- The mark of an interface makes the class after it a controller, though no mark heads that class. -/
theorem controller_of_interface_mark :
    (⟨"/x", .get, ⟨⟨"Helper.java"⟩, 4⟩, "Helper", "x", some .spring⟩ : Endpoint) ∈
        extract ⟨"Helper.java"⟩ interfaceWithHelper ∧
      ∃ header ∈ Place.all (Text.lines interfaceWithHelper),
        (Place.classesBefore (Text.lines interfaceWithHelper) 4).current?.map (·.header) =
          some header ∧
        ∀ mark ∈ Place.all (Text.lines interfaceWithHelper), IsControllerMark mark →
          ¬ mark.Heads header := by
  decide +kernel

end RouteAtlas.Spring
