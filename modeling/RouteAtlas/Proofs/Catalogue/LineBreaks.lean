import Mathlib.Data.List.Find
import Mathlib.Data.List.Forall2
import RouteAtlas.Catalogue
import RouteAtlas.Proofs.Text.Pattern
import RouteAtlas.Proofs.Text.Pieces

namespace RouteAtlas

namespace Text

def withReturns (text : Text) : Text := text.flatMap fun c => if c = '\n' then ['\r', '\n'] else [c]

theorem withReturns_feed (text : Text) :
    withReturns ('\n' :: text) = '\r' :: '\n' :: withReturns text := rfl

theorem withReturns_cons {c : Char} (other : c ≠ '\n') (text : Text) :
    withReturns (c :: text) = c :: withReturns text := by
  simp [withReturns, other]

section Lines

def returned : List Text → List Text
  | [] => []
  | [last] => [last]
  | piece :: next :: pieces => (piece ++ ['\r']) :: returned (next :: pieces)

theorem returned_cons {pieces : List Text} (more : pieces ≠ []) (piece : Text) :
    returned (piece :: pieces) = (piece ++ ['\r']) :: returned pieces := by
  cases pieces with
  | nil => exact absurd rfl more
  | cons next pieces => rfl

theorem returned_pushFront {pieces : List Text} (filled : pieces ≠ []) (c : Char) :
    returned (pushFront c pieces) = pushFront c (returned pieces) := by
  cases pieces with
  | nil => exact absurd rfl filled
  | cons piece pieces => cases pieces <;> rfl

theorem splitOn_withReturns (text : Text) :
    splitOn '\n' (withReturns text) = returned (splitOn '\n' text) := by
  induction text with
  | nil => rfl
  | cons c text ih =>
    by_cases feed : c = '\n'
    · subst feed
      rw [withReturns_feed, splitOn_cons_of_ne (by decide), splitOn_cons_self, splitOn_cons_self,
        returned_cons (splitOn_ne_nil text), ih]
      rfl
    · rw [withReturns_cons feed, splitOn_cons_of_ne feed, splitOn_cons_of_ne feed,
        returned_pushFront (splitOn_ne_nil text), ih]

theorem dropReturn_append (line : Text) : dropReturn (line ++ ['\r']) = line := by
  simp [dropReturn]

theorem dropReturn_eq_self {line : Text} (plain : '\r' ∉ line) : dropReturn line = line := by
  have other : line.getLast? ≠ some '\r' := fun last => plain (List.mem_of_getLast? last)
  rw [dropReturn, if_neg other]

theorem linesOfPieces_returned {pieces : List Text} (plain : ∀ piece ∈ pieces, '\r' ∉ piece) :
    linesOfPieces (returned pieces) = linesOfPieces pieces := by
  induction pieces with
  | nil => rfl
  | cons piece pieces ih =>
    obtain ⟨here, rest⟩ := List.forall_mem_cons.mp plain
    cases pieces with
    | nil => rfl
    | cons next pieces =>
      have later := ih rest
      rw [returned_cons (by simp)]
      cases kept : returned (next :: pieces) with
      | nil => cases pieces <;> simp [returned] at kept
      | cons other others =>
        rw [kept] at later
        rw [linesOfPieces, linesOfPieces, dropReturn_append, dropReturn_eq_self here, later]

theorem lines_withReturns {text : Text} (plain : '\r' ∉ text) :
    lines (withReturns text) = lines text := by
  have pieces : ∀ piece ∈ splitOn '\n' text, '\r' ∉ piece := by
    intro piece member inside
    exact plain (mem_of_mem_splitOn member inside)
  rw [lines, splitOn_withReturns, linesOfPieces_returned pieces, lines]

end Lines

section Search

variable {needle : Text} (feed : '\n' ∉ needle) (plain : '\r' ∉ needle)
include feed plain

theorem isPrefixOf_withReturns (text : Text) :
    needle.isPrefixOf (withReturns text) = needle.isPrefixOf text := by
  induction needle generalizing text with
  | nil => rfl
  | cons d needle ih =>
    simp only [List.mem_cons, not_or] at feed plain
    cases text with
    | nil => rfl
    | cons c text =>
      by_cases breaks : c = '\n'
      · subst breaks
        have differ : (d == '\n') = false ∧ (d == '\r') = false :=
          ⟨beq_false_of_ne (Ne.symm feed.1), beq_false_of_ne (Ne.symm plain.1)⟩
        simp [withReturns_feed, List.isPrefixOf, differ]
      · simp [withReturns_cons breaks, List.isPrefixOf, ih feed.2 plain.2]

theorem contains_withReturns (text : Text) :
    contains (withReturns text) needle = contains text needle := by
  induction text with
  | nil => rfl
  | cons c text ih =>
    have here := isPrefixOf_withReturns feed plain (c :: text)
    by_cases breaks : c = '\n'
    · subst breaks
      rw [withReturns_feed] at here ⊢
      have between : needle.isPrefixOf ('\n' :: withReturns text) = needle.isPrefixOf ('\n' :: text) := by
        cases needle with
        | nil => rfl
        | cons d needle =>
          have differ : (d == '\n') = false := beq_false_of_ne fun same => feed (by simp [same])
          simp [List.isPrefixOf, differ]
      simp only [contains, here, between, ih, Bool.or_self_left]
    · rw [withReturns_cons breaks] at here ⊢
      simp only [contains, here, ih]

end Search

end Text

open Text

namespace Pattern

/-- No reading of the pattern ends inside a line break, whichever kind of break that is. -/
def keepsBreaks : Pattern → Bool
  | .empty => true
  | .one accepts => !accepts '\r' && !accepts '\n'
  | .many accepts => accepts '\r' == accepts '\n'
  | .seq first second | .alt first second => first.keepsBreaks && second.keepsBreaks
  | .capture _ body => body.keepsBreaks
  | .upToMany _ | .start | .boundary => false

theorem dropWhile_withReturns {accepts : Char → Bool} (alike : accepts '\r' = accepts '\n')
    (text : Text) : (withReturns text).dropWhile accepts = withReturns (text.dropWhile accepts) := by
  induction text with
  | nil => rfl
  | cons c text ih =>
    by_cases breaks : c = '\n'
    · subst breaks
      by_cases accepted : accepts '\n' <;> simp [withReturns_feed, alike, accepted, ih]
    · by_cases accepted : accepts c <;> simp [withReturns_cons breaks, accepted, ih]

/-- The reading leaves what the other one leaves, but for the returns. -/
def Leaves (twin reading : Reading) : Prop := twin.stop.rest = withReturns reading.stop.rest

theorem runs_withReturns {pattern : Pattern} (keeps : pattern.keepsBreaks) {twin place : Cursor}
    (same : twin.rest = withReturns place.rest) :
    List.Forall₂ Leaves (pattern.runs twin) (pattern.runs place) := by
  induction pattern generalizing twin place with
  | empty => exact .cons same .nil
  | one accepts =>
    simp only [keepsBreaks, Bool.and_eq_true, Bool.not_eq_true'] at keeps
    obtain ⟨before, rest⟩ := place
    obtain ⟨twinBefore, twinRest⟩ := twin
    have same : twinRest = withReturns rest := same
    subst same
    cases rest with
    | nil => exact .nil
    | cons c rest =>
      by_cases breaks : c = '\n'
      · subst breaks
        simp [withReturns_feed, keeps]
      · by_cases accepted : accepts c <;> simp [withReturns_cons breaks, accepted, Leaves]
  | many accepts =>
    have alike : accepts '\r' = accepts '\n' := by simpa [keepsBreaks] using keeps
    refine .cons ?_ .nil
    simp only [Leaves, Cursor.past_eq, same]
    exact dropWhile_withReturns alike place.rest
  | seq first second ihFirst ihSecond =>
    simp only [keepsBreaks, Bool.and_eq_true] at keeps
    apply List.rel_flatMap (ihFirst keeps.1 same)
    intro left right leaves
    rw [List.forall₂_map_left_iff, List.forall₂_map_right_iff]
    exact ihSecond keeps.2 leaves
  | alt first second ihFirst ihSecond =>
    simp only [keepsBreaks, Bool.and_eq_true] at keeps
    exact List.rel_append (ihFirst keeps.1 same) (ihSecond keeps.2 same)
  | capture slot body ih =>
    rw [runs_capture, runs_capture, List.forall₂_map_left_iff, List.forall₂_map_right_iff]
    exact ih keeps same
  | upToMany | start | boundary => cases keeps

theorem isSome_at?_withReturns {pattern : Pattern} (keeps : pattern.keepsBreaks)
    (twinBefore before : Option Char) (text : Text) :
    (pattern.at? ⟨twinBefore, withReturns text⟩).isSome = (pattern.at? ⟨before, text⟩).isSome := by
  have runs : List.Forall₂ Leaves (pattern.runs ⟨twinBefore, withReturns text⟩)
      (pattern.runs ⟨before, text⟩) := runs_withReturns keeps rfl
  unfold at?
  generalize pattern.runs ⟨twinBefore, withReturns text⟩ = twins at runs
  generalize pattern.runs ⟨before, text⟩ = readings at runs
  cases runs <;> rfl

theorem startsLineFrom_withReturns {pattern : Pattern} (keeps : pattern.keepsBreaks) (fresh : Bool)
    (twinBefore before : Option Char) (text : Text) :
    pattern.startsLineFrom fresh twinBefore (withReturns text) =
      pattern.startsLineFrom fresh before text := by
  induction text generalizing fresh twinBefore before with
  | nil => rfl
  | cons c text ih =>
    by_cases breaks : c = '\n'
    · subst breaks
      have feed : isBlank '\n' = true := by decide
      have plain : isBlank '\r' = true := by decide
      simp [withReturns_feed, startsLineFrom, feed, plain, ih true (some '\n') (some '\n')]
    · have here := isSome_at?_withReturns keeps twinBefore before (c :: text)
      rw [withReturns_cons breaks] at here ⊢
      simp only [startsLineFrom, here, ih _ (some c) (some c)]

end Pattern

theorem claims_withReturns (framework : Framework) (content : Text) :
    framework.extractorOf.claims (withReturns content) = framework.extractorOf.claims content := by
  have started : FastApi.anyDecoratorPattern.startsLineOf (withReturns content) =
      FastApi.anyDecoratorPattern.startsLineOf content :=
    Pattern.startsLineFrom_withReturns (by decide +kernel) true none none content
  cases framework <;>
    simp (disch := decide +kernel) only [Framework.extractorOf, Spring.claims, JaxRs.claims,
      Gin.claims, Echo.claims, FastApi.claims, Flask.claims, started, contains_withReturns]

theorem extract_withReturns {content : Text} (plain : '\r' ∉ content) (framework : Framework)
    (file : Path) : framework.extractorOf.extract file (withReturns content) =
      framework.extractorOf.extract file content := by
  have same := lines_withReturns plain
  cases framework <;>
    simp only [Framework.extractorOf, Spring.extract, JaxRs.extract, Gin.extract, Echo.extract,
      FastApi.extract, Flask.extract, same]

/-- Line feeds with and without carriage returns in front of them make no difference: the same extractor
is chosen for a file, and each extractor finds the same endpoints. -/
theorem choice_and_endpoints_withReturns (frameworks : List Framework) (path : Path) {content : Text}
    (plain : '\r' ∉ content) :
    (Catalogue.ofList frameworks).select? path (withReturns content) =
      (Catalogue.ofList frameworks).select? path content ∧
    ∀ extractor ∈ (Catalogue.ofList frameworks).extractors,
      extractor.extract path (withReturns content) = extractor.extract path content := by
  have claims : ∀ extractor ∈ (Catalogue.ofList frameworks).extractors,
      extractor.claims (withReturns content) = extractor.claims content := by
    intro extractor member
    obtain ⟨framework, _, rfl⟩ := List.mem_map.mp member
    exact claims_withReturns framework content
  constructor
  · unfold Catalogue.select?
    congr 1
    funext extension
    apply List.find?_congr
    intro extractor member
    rw [claims extractor member]
  · intro extractor member
    obtain ⟨framework, _, rfl⟩ := List.mem_map.mp member
    exact extract_withReturns plain framework path

def spreadCalls : Text := "from fastapi import APIRouter
router = APIRouter(
    prefix=\"/api\"
)

@router.get(
    \"/users\"
)
def users():
    pass
"

theorem choice_and_endpoints_withReturns_of_spreadCalls :
    '\r' ∉ spreadCalls ∧
    ((Catalogue.ofList [.flask, .fastApi]).select? ⟨"app.py"⟩ (withReturns spreadCalls)).map
      (·.framework) = some .fastApi ∧
    (Framework.fastApi.extractorOf.extract ⟨"app.py"⟩ (withReturns spreadCalls)).map (·.route) =
      ["/api/users".toList] := by
  have plain : '\r' ∉ spreadCalls := by decide +kernel
  obtain ⟨chosen, found⟩ := choice_and_endpoints_withReturns [.flask, .fastApi] ⟨"app.py"⟩ plain
  have same := found Framework.fastApi.extractorOf (List.mem_map_of_mem (by decide))
  rw [chosen, same]
  exact ⟨plain, by decide +kernel, by decide +kernel⟩

end RouteAtlas
