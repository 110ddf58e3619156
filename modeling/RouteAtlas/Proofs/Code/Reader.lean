import RouteAtlas.Extract.Echo
import RouteAtlas.Extract.JaxRs
import RouteAtlas.Extract.Spring
import RouteAtlas.Proofs.Code.Place

namespace RouteAtlas

/-- What a reader of files makes of a line of code, and then of the braces on this line. -/
structure LineReader (σ : Type) where
  code : σ → Place → σ
  braces : σ → Text → σ

namespace LineReader

variable {σ : Type} {reader : LineReader σ} {lines : List Text} {holds : Nat → σ → Prop} {before : σ}

def readLine (reader : LineReader σ) (state : σ) (place : Place) : σ :=
  if isCommentOrBlank (Text.trim place.line) then state
  else reader.braces (reader.code state place) place.line

def annotated (site : Place → σ → AnnotationSite → σ) (declare braces : σ → Text → σ) :
    LineReader σ where
  code state place :=
    declare ((annotationsOn place.line place.below).foldl (site place) state) (Text.trim place.line)
  braces := braces

/-- What holds in front of a line of the document holds in front of the next one. -/
structure Keeps (reader : LineReader σ) (lines : List Text) (holds : Nat → σ → Prop) : Prop where
  comment : ∀ place ∈ Place.all lines, isCommentOrBlank (Text.trim place.line) = true →
    ∀ state, holds place.number state → holds (place.number + 1) state
  code : ∀ place ∈ Place.all lines, isCommentOrBlank (Text.trim place.line) = false →
    ∀ state, holds place.number state →
      holds (place.number + 1) (reader.braces (reader.code state place) place.line)

theorem Keeps.foldl_all (keeps : reader.Keeps lines holds) (start : holds 0 before) :
    holds lines.length ((Place.all lines).foldl reader.readLine before) := by
  apply Place.foldl_all_induction_of_mem lines holds start
  intro place member state kept
  unfold readLine
  split
  · rename_i comment
    exact keeps.comment place member comment state kept
  · rename_i notComment
    exact keeps.code place member (by simpa using notComment) state kept

/-- Each annotation is read in front of the declaration on its line. What held before the annotations were
read is there as well, for what depends on all annotations of the line. -/
theorem keeps_annotated {site : Place → σ → AnnotationSite → σ} {declare braces : σ → Text → σ}
    (comment : ∀ place ∈ Place.all lines, isCommentOrBlank (Text.trim place.line) = true →
      ∀ state, holds place.number state → holds (place.number + 1) state)
    (sites : ∀ place ∈ Place.all lines, isCommentOrBlank (Text.trim place.line) = false →
      ∀ found ∈ annotationsOn place.line place.below, ∀ state, holds place.number state →
        holds place.number (site place state found))
    (declared : ∀ place ∈ Place.all lines, isCommentOrBlank (Text.trim place.line) = false →
      ∀ state read, holds place.number state →
        read = (annotationsOn place.line place.below).foldl (site place) state →
        holds place.number read →
          holds (place.number + 1) (braces (declare read (Text.trim place.line)) place.line)) :
    (annotated site declare braces).Keeps lines holds where
  comment := comment
  code place member code state kept := by
    refine declared place member code state _ kept rfl ?_
    exact List.foldlRecOn _ _ kept fun state kept found written =>
      sites place member code found written state kept

end LineReader

def Spring.reader (file : Path) : LineReader Spring.State :=
  .annotated (Spring.readSite file) Spring.openClass fun state line =>
    { state with scopes := state.scopes.advance line }

def JaxRs.reader (file : Path) : LineReader JaxRs.State :=
  .annotated JaxRs.readSite (JaxRs.readDeclaration file) fun state line =>
    { state with scopes := state.scopes.advance line }

def Echo.reader (file : Path) : LineReader Echo.State where
  code state place :=
    let owner := (Echo.structPattern.partAtStart? 1 place.line).getD state.owner
    let routes := Echo.routePattern.findAll place.line
    let chained := routes.any fun route => (route.part? 1).isNone
    let (groups, inline) := Echo.readGroups chained state.groups (Echo.groupPattern.findAll place.line)
    let found := routes.filterMap (Echo.routeEndpoint? file place.number owner groups inline)
    ⟨groups, owner, state.endpoints ++ found⟩
  braces state line := { state with groups := state.groups.advance line }

variable (file : Path)

theorem Spring.readLine_eq_reader : Spring.readLine file = (Spring.reader file).readLine := rfl

theorem JaxRs.readLine_eq_reader : JaxRs.readLine file = (JaxRs.reader file).readLine := rfl

theorem Echo.readLine_eq_reader : Echo.readLine file = (Echo.reader file).readLine := by
  funext state place
  dsimp only [Echo.readLine, LineReader.readLine, Echo.reader]

end RouteAtlas
