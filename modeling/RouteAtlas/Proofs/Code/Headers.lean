import Mathlib.Data.List.Forall2
import RouteAtlas.Code.ClassScope
import RouteAtlas.Proofs.Code.Annotations

namespace RouteAtlas

def isAnnotationLine (line : Text) (below : List Text) : Bool :=
  (Text.trim line).head? == some '@' && (annotationsOn line below).all fun site =>
    let after := Text.trim site.rest
    isCommentOrBlank after || after.head? == some '@'

/-- How many lines the comments and annotations at the start of the lines take, with the arguments of
the annotations. The first `skip` lines belong to an annotation further up. -/
def blockLength : (skip : Nat) → List Text → Nat
  | _, [] => 0
  | skip + 1, _ :: below => blockLength skip below + 1
  | 0, line :: below =>
    if isCommentOrBlank (Text.trim line) then blockLength 0 below + 1
    else if isAnnotationLine line below then
      blockLength (lastSpan (annotationsOn line below)) below + 1
    else 0

namespace Place

def Heads (mark declaration : Place) : Prop :=
  mark.number = declaration.number ∨
    mark.number < declaration.number ∧ isAnnotationLine mark.line mark.below = true ∧
      declaration.number ≤
        mark.number + 1 + blockLength (lastSpan (annotationsOn mark.line mark.below)) mark.below

instance (mark declaration : Place) : Decidable (mark.Heads declaration) :=
  inferInstanceAs (Decidable (_ ∨ _))

theorem Heads.number_le {mark declaration : Place} (heads : mark.Heads declaration) :
    mark.number ≤ declaration.number := by
  rcases heads with same | ⟨later, _, _⟩ <;> omega

theorem Heads.of_nearer {mark declaration nearer : Place} (heads : mark.Heads declaration)
    (below : mark.number ≤ nearer.number) (above : nearer.number ≤ declaration.number) :
    mark.Heads nearer := by
  rcases heads with same | ⟨_, annotation, reach⟩
  · exact .inl (by omega)
  · rcases Nat.eq_or_lt_of_le below with same | later
    · exact .inl same
    · exact .inr ⟨later, annotation, by omega⟩

section Marks

variable {lines : List Text} {declares is : Place → Prop} {number : Nat} {place : Place}

def Undeclared (lines : List Text) (declares : Place → Prop) (mark : Place) (number : Nat) : Prop :=
  ∀ place ∈ all lines, mark.number ≤ place.number → place.number < number → ¬ declares place

/-- A mark of this kind stands on the line with this number or above, with nothing declared since. -/
def Awaiting (lines : List Text) (declares is : Place → Prop) (number : Nat) : Prop :=
  ∃ mark ∈ all lines, is mark ∧ mark.number ≤ number ∧ Undeclared lines declares mark number

/-- A mark of this kind is taken for a declaration. It stands there or above, with nothing declared in
between, and if it heads any declaration then it heads this one. -/
def MarkedBy (lines : List Text) (declares is : Place → Prop) (declaration : Place) : Prop :=
  ∃ mark ∈ all lines, is mark ∧ mark.number ≤ declaration.number ∧
    Undeclared lines declares mark declaration.number ∧
    ((∃ other ∈ all lines, declares other ∧ mark.Heads other) → mark.Heads declaration)

theorem awaiting_here (member : place ∈ all lines) (marked : is place) :
    Awaiting lines declares is place.number :=
  ⟨place, member, marked, Nat.le_refl _, fun _ _ _ _ => by omega⟩

theorem Awaiting.next (awaiting : Awaiting lines declares is place.number)
    (member : place ∈ all lines) (plain : ¬ declares place) :
    Awaiting lines declares is (place.number + 1) := by
  obtain ⟨mark, present, marked, above, clear⟩ := awaiting
  refine ⟨mark, present, marked, by omega, ?_⟩
  intro other inside after before
  rcases Nat.lt_succ_iff_lt_or_eq.mp before with earlier | same
  · exact clear other inside after earlier
  · rwa [eq_of_number_eq inside member same]

theorem Awaiting.markedBy (awaiting : Awaiting lines declares is place.number) :
    MarkedBy lines declares is place := by
  obtain ⟨mark, present, marked, above, clear⟩ := awaiting
  refine ⟨mark, present, marked, above, clear, ?_⟩
  intro headed
  obtain ⟨other, inside, declared, heads⟩ := headed
  -- the declaration that the mark heads is not above this one, so its block of annotations reaches here
  have notBefore : ¬ other.number < place.number := fun before =>
    clear other inside heads.number_le before declared
  exact heads.of_nearer above (by omega)

end Marks

end Place

section Scopes

variable {α β : Type} {fits : Text → α → β → Prop}

structure ClassScope.Matches (fits : Text → α → β → Prop) (scope : ClassScope α)
    (other : ClassScope β) : Prop where
  name : scope.name = other.name
  openDepth : scope.openDepth = other.openDepth
  entered : scope.entered = other.entered
  header : fits scope.name scope.header other.header

namespace ClassScopes

structure Matches (fits : Text → α → β → Prop) (state : ClassScopes α) (other : ClassScopes β) :
    Prop where
  scopes : List.Forall₂ (ClassScope.Matches fits) state.scopes other.scopes
  depth : state.depth = other.depth

theorem matches_empty : (empty : ClassScopes α).Matches fits (empty : ClassScopes β) := ⟨.nil, rfl⟩

theorem forall₂_enterTop {scopes : List (ClassScope α)} {others : List (ClassScope β)}
    (same : List.Forall₂ (ClassScope.Matches fits) scopes others) :
    List.Forall₂ (ClassScope.Matches fits) (enterTop scopes) (enterTop others) := by
  cases same with
  | nil => exact .nil
  | cons top outer => exact .cons ⟨top.name, top.openDepth, rfl, top.header⟩ outer

theorem forall₂_dropClosed {scopes : List (ClassScope α)} {others : List (ClassScope β)} (depth : Int)
    (same : List.Forall₂ (ClassScope.Matches fits) scopes others) :
    List.Forall₂ (ClassScope.Matches fits)
      (scopes.dropWhile fun top => top.entered && depth ≤ top.openDepth)
      (others.dropWhile fun top => top.entered && depth ≤ top.openDepth) := by
  induction same with
  | nil => exact .nil
  | cons top outer ih =>
    rw [List.dropWhile_cons, List.dropWhile_cons, top.entered, top.openDepth]
    split
    · exact ih
    · exact .cons top outer

theorem exists_entered {scopes : List (ClassScope α)} {others : List (ClassScope β)}
    {scope : ClassScope α} (same : List.Forall₂ (ClassScope.Matches fits) scopes others)
    (found : scopes.find? (·.entered) = some scope) :
    ∃ other, others.find? (·.entered) = some other ∧ scope.Matches fits other := by
  induction same with
  | nil => cases found
  | @cons top other _ _ fit _ ih =>
    rw [List.find?_cons] at found ⊢
    rw [← fit.entered]
    cases entered : top.entered with
    | true =>
      rw [entered] at found
      cases found
      exact ⟨other, rfl, fit⟩
    | false =>
      rw [entered] at found
      exact ih found

namespace Matches

variable {state : ClassScopes α} {other : ClassScopes β} (same : state.Matches fits other)
include same

theorem openClass {name : Text} {header : α} {otherHeader : β} (fit : fits name header otherHeader) :
    (state.openClass name header).Matches fits (other.openClass name otherHeader) :=
  ⟨.cons ⟨rfl, same.depth, rfl, fit⟩ same.scopes, same.depth⟩

theorem advance (line : Text) : (state.advance line).Matches fits (other.advance line) := by
  have depth : state.depth + braceBalance line = other.depth + braceBalance line := by
    rw [same.depth]
  refine ⟨?_, depth⟩
  unfold ClassScopes.advance
  rw [depth]
  apply forall₂_dropClosed
  split
  · exact forall₂_enterTop same.scopes
  · exact same.scopes

theorem current? {scope : ClassScope α} (found : state.current? = some scope) :
    ∃ around, other.current? = some around ∧ scope.Matches fits around :=
  exists_entered same.scopes found

end Matches

end ClassScopes

end Scopes

namespace Place

def HasAnnotation (place : Place) (is : AnnotationSite → Prop) : Prop :=
  isCommentOrBlank (Text.trim place.line) = false ∧
    ∃ site ∈ annotationsOn place.line place.below, is site

def DeclaresClass (place : Place) (name : Text) : Prop :=
  isCommentOrBlank (Text.trim place.line) = false ∧ className? (Text.trim place.line) = some name

def IsClassHeader (place : Place) : Prop := ∃ name, place.DeclaresClass name

theorem not_isClassHeader_of_comment {place : Place}
    (comment : isCommentOrBlank (Text.trim place.line) = true) : ¬ place.IsClassHeader := by
  intro header
  obtain ⟨name, code, _⟩ := header
  rw [comment] at code
  cases code

theorem not_isClassHeader_of_plain {place : Place} (plain : className? (Text.trim place.line) = none) :
    ¬ place.IsClassHeader := by
  intro header
  obtain ⟨name, _, declared⟩ := header
  rw [plain] at declared
  cases declared

/-- Reads the class that a line declares and the braces of the line. A class is kept with the line that
declares it. -/
def readScopes (scopes : ClassScopes Place) (place : Place) : ClassScopes Place :=
  let trimmed := Text.trim place.line
  if isCommentOrBlank trimmed then scopes
  else
    let opened := match className? trimmed with
      | some name => scopes.openClass name place
      | none => scopes
    opened.advance place.line

def classesBefore (lines : List Text) (number : Nat) : ClassScopes Place :=
  ((all lines).take number).foldl readScopes .empty

section Scopes

variable {α : Type} {lines : List Text} {place : Place} {fits : Text → α → Place → Prop}
  {scopes : ClassScopes α}

theorem classesBefore_succ (member : place ∈ all lines) :
    classesBefore lines (place.number + 1) = readScopes (classesBefore lines place.number) place := by
  unfold classesBefore
  exact foldl_take_succ _ member

theorem matches_of_comment (same : scopes.Matches fits (classesBefore lines place.number))
    (member : place ∈ all lines) (comment : isCommentOrBlank (Text.trim place.line) = true) :
    scopes.Matches fits (classesBefore lines (place.number + 1)) := by
  rw [classesBefore_succ member, readScopes, if_pos comment]
  exact same

theorem matches_of_plain (same : scopes.Matches fits (classesBefore lines place.number))
    (member : place ∈ all lines) (code : isCommentOrBlank (Text.trim place.line) = false)
    (plain : className? (Text.trim place.line) = none) :
    (scopes.advance place.line).Matches fits (classesBefore lines (place.number + 1)) := by
  rw [classesBefore_succ member, readScopes, if_neg (by simp [code]), plain]
  exact same.advance place.line

theorem matches_of_header (same : scopes.Matches fits (classesBefore lines place.number))
    (member : place ∈ all lines) {name : Text} {header : α} (declares : place.DeclaresClass name)
    (fit : fits name header place) :
    ((scopes.openClass name header).advance place.line).Matches fits
      (classesBefore lines (place.number + 1)) := by
  rw [classesBefore_succ member, readScopes, if_neg (by simp [declares.1]), declares.2]
  exact (same.openClass fit).advance place.line

end Scopes

end Place

end RouteAtlas
