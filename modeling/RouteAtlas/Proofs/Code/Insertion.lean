import Mathlib.Data.List.Infix
import RouteAtlas.Endpoint
import RouteAtlas.Proofs.Code.ArgumentList
import RouteAtlas.Proofs.Code.Indented
import RouteAtlas.Proofs.Code.Place

namespace RouteAtlas

def shifted (count number : Nat) : Nat := if number < count then number else number + 1

def Endpoint.shift (count : Nat) (endpoint : Endpoint) : Endpoint :=
  { endpoint with location := ⟨endpoint.location.file, shifted count endpoint.location.line⟩ }

namespace Place

def addAbove (above : List Text) (place : Place) : Place := ⟨place.above ++ above, place.line, place.below⟩

def addBelow (below : List Text) (place : Place) : Place := ⟨place.above, place.line, place.below ++ below⟩

variable {front back lines : List Text} {line : Text}

theorem suffix_of_mem_allFrom {above : List Text} {place : Place} (member : place ∈ allFrom above lines) :
    place.line :: place.below <:+ lines := by
  induction lines generalizing above with
  | nil => cases member
  | cons line lines ih =>
    rcases List.mem_cons.mp member with rfl | later
    · exact List.suffix_refl _
    · exact (ih later).trans (List.suffix_cons line lines)

theorem allFrom_append (above front back : List Text) :
    allFrom above (front ++ back) =
      (allFrom above front).map (addBelow back) ++ allFrom (front.reverse ++ above) back := by
  induction front generalizing above with
  | nil => rfl
  | cons line front ih =>
    rw [List.cons_append, allFrom, ih (line :: above), allFrom, List.map_cons, List.cons_append,
      List.reverse_cons, List.append_assoc, List.singleton_append]
    rfl

theorem allFrom_append_above (above more lines : List Text) :
    allFrom (above ++ more) lines = (allFrom above lines).map (addAbove more) := by
  induction lines generalizing above with
  | nil => rfl
  | cons line lines ih =>
    rw [allFrom, ← List.cons_append, ih (line :: above), allFrom, List.map_cons]
    rfl

theorem all_append (front back : List Text) :
    all (front ++ back) = (all front).map (addBelow back) ++ (all back).map (addAbove front.reverse) := by
  rw [all, allFrom_append, List.append_nil, ← List.nil_append front.reverse, allFrom_append_above]
  rfl

theorem all_insert (front : List Text) (line : Text) (back : List Text) :
    all (front ++ line :: back) =
      (all front).map (addBelow (line :: back)) ++
        ⟨front.reverse, line, back⟩ :: (all back).map (addAbove (line :: front.reverse)) := by
  rw [all, allFrom_append, List.append_nil, allFrom, ← List.nil_append (line :: front.reverse),
    allFrom_append_above]
  rfl

/-- The place of a line, and its place in the document that has one more line behind the front. -/
inductive Twin (front : List Text) (line : Text) (back : List Text) : Place → Place → Prop
  | early {place : Place} : place ∈ all front →
      Twin front line back (place.addBelow back) (place.addBelow (line :: back))
  | late {place : Place} : place ∈ all back →
      Twin front line back (place.addAbove front.reverse) (place.addAbove (line :: front.reverse))

section Twins

variable {place twin : Place}

theorem Twin.line_eq (twins : Twin front line back place twin) : twin.line = place.line := by
  cases twins <;> rfl

theorem Twin.number_eq (twins : Twin front line back place twin) :
    twin.number = shifted front.length place.number := by
  cases twins with
  | early member =>
    have inside := number_lt_of_mem_all member
    exact (if_pos inside).symm
  | late member =>
    simp only [number, addAbove, shifted, List.length_append, List.length_cons, List.length_reverse]
    rw [if_neg (by omega)]
    omega

end Twins

section Reading

variable {α σ : Type} {find : Place → List α} {read : σ → Place → σ}

theorem flatMap_all_insert {again : Place → List α} (change : α → α)
    (passes : again ⟨front.reverse, line, back⟩ = [])
    (alike : ∀ place twin, Twin front line back place twin → again twin = (find place).map change) :
    (all (front ++ line :: back)).flatMap again = ((all (front ++ back)).flatMap find).map change := by
  rw [all_insert, all_append, List.flatMap_append, List.flatMap_cons, passes, List.nil_append,
    List.flatMap_append, List.map_append, List.map_flatMap, List.map_flatMap]
  simp only [List.flatMap_def, List.map_map, Function.comp_def]
  rw [List.map_congr_left fun place member => alike _ _ (.early member),
    List.map_congr_left fun place member => alike _ _ (.late member)]

end Reading

end Place

namespace Call

/-- A call that a reader finds on one of the lines is still open behind all of them. What follows the
name of a call on a line, above the lines below it, is given by `opens`. -/
def OpenBehind (opens : Text → List Text → Text → Prop) (lines : List Text) : Prop :=
  ∃ line below text, line :: below <:+ lines ∧ opens line below text ∧ StaysOpen text below

variable {opens : Text → List Text → Text → Prop} {lines more : List Text} {line text : Text}

theorem OpenBehind.of_suffix (suffix : lines <:+ more) (stays : OpenBehind opens lines) :
    OpenBehind opens more := by
  obtain ⟨line, below, text, inside, opened, still⟩ := stays
  exact ⟨line, below, text, inside.trans suffix, opened, still⟩

/-- It is enough to look at each line with the lines below it, at no fewer texts than are read there. -/
theorem not_openBehind_of_tails (texts : Text → List Text)
    (closed : ∀ tail ∈ lines.tails, ∀ text ∈ texts (tail.headD []), ¬ StaysOpen text tail.tail)
    (among : ∀ line below text, opens line below text → text ∈ texts line) :
    ¬ OpenBehind opens lines := by
  rintro ⟨line, below, text, suffix, opened, stays⟩
  exact closed _ ((List.mem_tails _ _).mpr suffix) text (among line below text opened) stays

theorem not_staysOpen (closed : ¬ OpenBehind opens (line :: lines)) (opened : opens line lines text) :
    ¬ StaysOpen text lines :=
  fun stays => closed ⟨line, lines, text, List.suffix_refl _, opened, stays⟩

theorem not_openBehind_cons (closed : ¬ OpenBehind opens (line :: lines)) : ¬ OpenBehind opens lines :=
  fun stays => closed (stays.of_suffix (List.suffix_cons line lines))

theorem not_openBehind_of_mem (closed : ¬ OpenBehind opens lines) {place : Place}
    (member : place ∈ Place.all lines) : ¬ OpenBehind opens (place.line :: place.below) :=
  fun stays => closed (stays.of_suffix (Place.suffix_of_mem_allFrom member))

end Call

section Annotations

variable {lines back : List Text} {line comment : Text} {site : AnnotationSite} {skip : Nat}

end Annotations

section Openings

variable {openings : Text → List Text} {lines front back : List Text} {line text : Text}

def onLine (openings : Text → List Text) (line : Text) (_below : List Text) (text : Text) : Prop :=
  text ∈ openings line

theorem read?_append_of_mem (closed : ¬ Call.OpenBehind (onLine openings) (line :: lines))
    (opened : text ∈ openings line) (more : List Text) :
    Call.read? text (lines ++ more) = Call.read? text lines :=
  Call.read?_append (Call.not_staysOpen closed opened) more

theorem Place.Twin.read?_eq {place twin : Place} (twins : Place.Twin front line back place twin)
    (closed : ¬ Call.OpenBehind (onLine openings) front) (opened : text ∈ openings place.line) :
    Call.read? text twin.below = Call.read? text place.below := by
  cases twins with
  | late member => rfl
  | early member =>
    have here := Call.not_openBehind_of_mem closed member
    exact (read?_append_of_mem here opened _).trans (read?_append_of_mem here opened _).symm

end Openings

namespace Indented

variable {openings : Text → List Text} {lines front back : List Text} {line remark text : Text}
  {skip : Nat}

theorem isRemark_of_first (first : (Text.trimStart line).head? = some '#') :
    isRemark (Text.trim line) = true := by
  simp [isRemark, head?_trim_of_trimStart first]

section Handlers

variable (decorated : ∀ line found, decoratorPattern.atStart? line = some found →
  found.rest ∈ openings line) (skipped : isRemark (Text.trim remark))
include decorated skipped

theorem handlerBelow_insert (closed : ¬ Call.OpenBehind (onLine openings) lines)
    (inside : skip ≤ lines.length) :
    handlerBelow skip (lines ++ remark :: back) = handlerBelow skip (lines ++ back) := by
  induction lines generalizing skip with
  | nil =>
    rw [Nat.le_zero.mp inside, List.nil_append, List.nil_append, handlerBelow]
    exact if_pos skipped
  | cons line lines ih =>
    have later := Call.not_openBehind_cons closed
    cases skip with
    | succ skip => exact ih later (Nat.le_of_succ_le_succ inside)
    | zero =>
      rw [List.cons_append, List.cons_append, handlerBelow, handlerBelow, ih later (Nat.zero_le _)]
      cases start : decoratorPattern.atStart? line with
      | none => rfl
      | some found =>
        have read := read?_append_of_mem closed (decorated line found start)
        dsimp only
        rw [read, read]
        cases called : Call.read? found.rest lines with
        | none => rfl
        | some call =>
          dsimp only
          rw [ih later (Call.span_le_of_read? called)]

theorem handlerBelow_twin {place twin : Place} {call : Call}
    (twins : Place.Twin front remark back place twin)
    (closed : ¬ Call.OpenBehind (onLine openings) front) (opened : text ∈ openings place.line)
    (read : Call.read? text place.below = some call) :
    handlerBelow 0 (twin.below.drop call.span) = handlerBelow 0 (place.below.drop call.span) := by
  cases twins with
  | late member => rfl
  | early member =>
    rename_i place
    have here := Call.not_openBehind_of_mem closed member
    have called : Call.read? text place.below = some call :=
      (read?_append_of_mem here opened back).symm.trans read
    -- the call has ended in front of the comment
    have inside : call.span ≤ place.below.length := Call.span_le_of_read? called
    have behind : ¬ Call.OpenBehind (onLine openings) (place.below.drop call.span) :=
      fun stays => Call.not_openBehind_cons here (stays.of_suffix (List.drop_suffix _ _))
    simp only [Place.addBelow]
    rw [List.drop_append_of_le_length inside, List.drop_append_of_le_length inside]
    exact handlerBelow_insert decorated skipped behind (Nat.zero_le _)

end Handlers

section Classes

variable {place twin : Place} (twins : Place.Twin front remark back place twin)
include twins

theorem nearestClass?_twin (classless : className? remark = none) :
    nearestClass? twin.above = nearestClass? place.above := by
  cases twins with
  | early member => rfl
  | late member => simp [nearestClass?, Place.addAbove, List.findSome?_append, classless]

end Classes

theorem enclosingFrom_insert (skipped : isRemark (Text.trim remark)) (indent : Nat)
    (lower upper : List Text) :
    enclosingFrom indent (lower ++ remark :: upper) = enclosingFrom indent (lower ++ upper) := by
  induction lower generalizing indent with
  | nil =>
    rw [List.nil_append, List.nil_append, enclosingFrom, if_pos skipped]
    -- at the margin the search is over before it looks at any line
    split
    · rename_i margin
      rw [margin]
      cases upper <;> rfl
    · rfl
  | cons line lower ih => simp only [List.cons_append, enclosingFrom, ih]

theorem enclosingClass?_twin {place twin : Place} (skipped : isRemark (Text.trim remark))
    (twins : Place.Twin front remark back place twin) :
    enclosingClass? twin = enclosingClass? place := by
  cases twins with
  | early member => rfl
  | late member => exact enclosingFrom_insert skipped _ _ _

section Constructors

variable {constructor keyword : Pattern}

theorem findSome?_congr_of_mem {α β : Type} {items : List α} {find again : α → Option β}
    (alike : ∀ item ∈ items, find item = again item) : items.findSome? find = items.findSome? again := by
  rw [← List.head?_filterMap, ← List.head?_filterMap, List.filterMap_congr alike]

theorem constructorKeyword?_eq (lines : List Text) :
    constructorKeyword? constructor keyword lines =
      (Place.all lines).findSome? (keywordAt? constructor keyword) := rfl

theorem constructorKeyword?_cons (above : List Text) :
    constructorKeyword? constructor keyword (line :: back) =
      (keywordAt? constructor keyword ⟨above, line, back⟩).or
        (constructorKeyword? constructor keyword back) := by
  have places : Place.all (line :: back) =
      ⟨[], line, back⟩ :: (Place.all back).map (Place.addAbove [line]) :=
    Place.all_insert [] line back
  have later : ((Place.all back).map (Place.addAbove [line])).findSome? (keywordAt? constructor keyword) =
      constructorKeyword? constructor keyword back := by
    rw [List.findSome?_map]
    rfl
  rw [constructorKeyword?_eq, places, List.findSome?_cons, later]
  change _ = (keywordAt? constructor keyword ⟨[], line, back⟩).or _
  cases keywordAt? constructor keyword ⟨[], line, back⟩ <;> rfl

theorem constructorKeyword?_append (closed : ¬ Call.OpenBehind (onLine openings) front)
    (called : ∀ line, ∀ found ∈ constructor.findAll line, found.rest ∈ openings line)
    (back : List Text) :
    constructorKeyword? constructor keyword (front ++ back) =
      (constructorKeyword? constructor keyword front).or
        (constructorKeyword? constructor keyword back) := by
  have early : ∀ place ∈ Place.all front, keywordAt? constructor keyword (place.addBelow back) =
      keywordAt? constructor keyword place := by
    intro place member
    have here := Call.not_openBehind_of_mem closed member
    have read : (constructor.findAll place.line).findSome? (fun found =>
        Call.read? found.rest (place.below ++ back)) =
          (constructor.findAll place.line).findSome? fun found => Call.read? found.rest place.below :=
      findSome?_congr_of_mem fun found written =>
        read?_append_of_mem here (called place.line found written) back
    rw [keywordAt?, keywordAt?]
    simp only [Place.addBelow]
    rw [read]
  rw [constructorKeyword?_eq, constructorKeyword?_eq, constructorKeyword?_eq, Place.all_append,
    List.findSome?_append, List.findSome?_map, List.findSome?_map, ← findSome?_congr_of_mem early]
  rfl

end Constructors

end Indented

end RouteAtlas
