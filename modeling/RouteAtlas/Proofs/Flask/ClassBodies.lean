import RouteAtlas.Extract.Flask
import RouteAtlas.Proofs.Code.Indented
import RouteAtlas.Proofs.Code.Place

namespace RouteAtlas

namespace Indented

def Deeper (header : Text) (lines : List Text) : Prop :=
  ∀ line ∈ lines, isRemark (Text.trim line) = false → indentOf header < indentOf line

section Upwards

variable {header line name : Text} {nearer above : List Text} {indent : Nat}

/-- The measure, and all code on the way up to the header, are deeper than the header. -/
def Spans (header : Text) (nearer : List Text) (indent : Nat) : Prop :=
  indentOf header < indent ∧ Deeper header nearer

/-- The measure after a line, which only code can lower. -/
def lowered (indent : Nat) (line : Text) : Nat :=
  if isRemark (Text.trim line) then indent else min indent (indentOf line)

theorem spans_cons :
    Spans header (line :: nearer) indent ↔ Spans header nearer (lowered indent line) := by
  unfold Spans Deeper lowered
  rw [List.forall_mem_cons]
  cases isRemark (Text.trim line) with
  | true => simp
  | false => simp only [forall_const, Bool.false_eq_true, if_false, Nat.lt_min, and_assoc]

theorem enclosingFrom_zero (above : List Text) : enclosingFrom 0 above = none := by
  cases above <;> rfl

theorem enclosingFrom_cons (indent : Nat) (line : Text) (above : List Text) :
    enclosingFrom indent (line :: above) =
      if indentOf line < indent then (className? line).or (enclosingFrom (lowered indent line) above)
      else enclosingFrom (lowered indent line) above := by
  unfold lowered
  rw [enclosingFrom]
  by_cases margin : indent = 0
  · subst margin
    simp [enclosingFrom_zero]
  rw [if_neg margin]
  cases remark : isRemark (Text.trim line) with
  | true => simp [className?_of_isRemark remark]
  | false =>
    by_cases left : indentOf line < indent
    · rw [Nat.min_eq_right (Nat.le_of_lt left), if_pos left, if_pos left]
      cases className? line <;> rfl
    · simp [left, Nat.min_eq_left (Nat.le_of_not_lt left)]

def Classless (indent : Nat) (lines : List Text) : Prop :=
  ∀ nearer header further, lines = nearer ++ header :: further → Spans header nearer indent →
    className? header = none

theorem Classless.nil : Classless indent [] := by
  intro nearer header further same
  cases nearer <;> cases same

theorem Classless.cons (first : indentOf line < indent → className? line = none)
    (rest : Classless (lowered indent line) nearer) : Classless indent (line :: nearer) := by
  intro front header further same spans
  cases front with
  | nil =>
    obtain ⟨rfl, rfl⟩ := List.cons.inj same
    exact first spans.1
  | cons other front =>
    obtain ⟨rfl, split⟩ := List.cons.inj same
    exact rest front header further split (spans_cons.mp spans)

theorem exists_of_enclosingFrom (found : enclosingFrom indent above = some name) :
    ∃ nearer header further, above = nearer ++ header :: further ∧ className? header = some name ∧
      Spans header nearer indent ∧ Classless indent nearer := by
  induction above generalizing indent with
  | nil => cases found
  | cons line above ih =>
    have further (first : indentOf line < indent → className? line = none)
        (rest : enclosingFrom (lowered indent line) above = some name) :
        ∃ nearer header further, line :: above = nearer ++ header :: further ∧
          className? header = some name ∧ Spans header nearer indent ∧ Classless indent nearer := by
      obtain ⟨nearer, header, further, rfl, named, spans, classless⟩ := ih rest
      exact ⟨line :: nearer, header, further, rfl, named, spans_cons.mpr spans, classless.cons first⟩
    rw [enclosingFrom_cons] at found
    split at found
    next left =>
      cases named : className? line with
      | none => exact further (fun _ => named) (by rwa [named] at found)
      | some other =>
        rw [named] at found
        exact ⟨[], line, above, rfl, named.trans found, ⟨left, by simp [Deeper]⟩, .nil⟩
    next deep => exact further (fun left => absurd left deep) found

theorem classless_of_enclosingFrom (nothing : enclosingFrom indent above = none) :
    Classless indent above := by
  induction above generalizing indent with
  | nil => exact .nil
  | cons line above ih =>
    rw [enclosingFrom_cons] at nothing
    split at nothing
    next =>
      obtain ⟨first, rest⟩ := Option.or_eq_none_iff.mp nothing
      exact (ih rest).cons fun _ => first
    next deep => exact (ih nothing).cons fun left => absurd left deep

end Upwards

section Around

variable {lines : List Text} {place header other : Place} {name : Text}

/-- A class further up, with all code from below its header down to the place indented deeper. -/
structure Around (lines : List Text) (place header : Place) : Prop where
  member : header ∈ Place.all lines
  declares : (className? header.line).isSome
  above : header.number < place.number
  deeper : ∀ other ∈ Place.all lines, header.number < other.number → other.number ≤ place.number →
    isRemark (Text.trim other.line) = false → indentOf header.line < indentOf other.line

def reach (header place : Place) : List Text := header.below.take (place.number - header.number)

theorem around_iff : Around lines place header ↔ header ∈ Place.all lines ∧
    (className? header.line).isSome ∧ header.number < place.number ∧
      Deeper header.line (reach header place) := by
  constructor
  · intro around
    refine ⟨around.member, around.declares, around.above, ?_⟩
    rw [Deeper, reach, Place.forall_take_below_iff around.member]
    intro other present after near
    have above := around.above
    exact around.deeper other present after (by omega)
  · rintro ⟨member, declares, above, deeper⟩
    rw [Deeper, reach, Place.forall_take_below_iff member] at deeper
    exact ⟨member, declares, above, fun other present after near => deeper other present after (by omega)⟩

theorem reach_eq {between : List Text}
    (above : place.above.reverse = header.above.reverse ++ header.line :: between)
    (below : header.below = between ++ place.line :: place.below) :
    reach header place = between ++ [place.line] := by
  have numbered := Place.number_of_between above
  rw [reach, show place.number - header.number = between.length + 1 by omega, below,
    List.take_length_add_append]
  rfl

theorem deeper_reach_iff {between : List Text} (code : isRemark (Text.trim place.line) = false) :
    Deeper header.line (between ++ [place.line]) ↔
      Spans header.line between.reverse (indentOf place.line) := by
  unfold Spans Deeper
  simp [or_imp, forall_and, code, and_comm]

theorem around_iff_spans (member : place ∈ Place.all lines)
    (code : isRemark (Text.trim place.line) = false) :
    Around lines place header ↔ header ∈ Place.all lines ∧ (className? header.line).isSome ∧
      ∃ nearer, place.above = nearer ++ header.line :: header.above ∧
        Spans header.line nearer (indentOf place.line) := by
  rw [around_iff]
  constructor
  · rintro ⟨present, declares, earlier, deeper⟩
    obtain ⟨between, above, below⟩ := Place.exists_between present member earlier
    rw [reach_eq above below, deeper_reach_iff code] at deeper
    exact ⟨present, declares, between.reverse, by simpa using congrArg List.reverse above, deeper⟩
  · rintro ⟨present, declares, nearer, split, spans⟩
    have earlier : header.number < place.number := by
      simp only [Place.number, split, List.length_append, List.length_cons]
      omega
    obtain ⟨between, above, below⟩ := Place.exists_between present member earlier
    have same : between = nearer.reverse := by
      simpa [split] using above.symm
    rw [reach_eq above below, deeper_reach_iff code, same, List.reverse_reverse]
    exact ⟨present, declares, earlier, spans⟩

theorem innermost_of_enclosingClass? (member : place ∈ Place.all lines)
    (code : isRemark (Text.trim place.line) = false) (found : enclosingClass? place = some name) :
    ∃ header, Around lines place header ∧ className? header.line = some name ∧
      ∀ other, Around lines place other → other.number ≤ header.number := by
  obtain ⟨nearer, line, further, split, named, spans, classless⟩ := exists_of_enclosingFrom found
  refine ⟨⟨further, line, nearer.reverse ++ place.line :: place.below⟩, ?_, named, ?_⟩
  · refine (around_iff_spans member code).mpr ⟨?_, Option.isSome_of_eq_some named, nearer, split, spans⟩
    rw [Place.mem_all_iff, Place.mem_all_iff.mp member, split]
    simp
  · intro other around
    obtain ⟨_, declares, nearest, again, inner⟩ := (around_iff_spans member code).mp around
    rw [split] at again
    rcases List.append_eq_append_iff.mp again with ⟨between, _, rest⟩ | ⟨between, longer, rest⟩
    · have sizes := congrArg List.length rest
      simp only [List.length_append, List.length_cons] at sizes
      show other.above.length ≤ further.length
      omega
    · cases between with
      | nil =>
        obtain ⟨_, same⟩ := List.cons.inj rest
        exact Nat.le_of_eq (congrArg List.length same)
      | cons first between =>
        -- a header still nearer would have been found first
        obtain ⟨rfl, _⟩ := List.cons.inj rest
        rw [classless nearest other.line between longer inner] at declares
        cases declares

theorem not_around_of_enclosingClass? (member : place ∈ Place.all lines)
    (code : isRemark (Text.trim place.line) = false) (nothing : enclosingClass? place = none)
    (header : Place) : ¬ Around lines place header := by
  intro around
  obtain ⟨_, declares, nearer, split, spans⟩ := (around_iff_spans member code).mp around
  rw [classless_of_enclosingFrom nothing nearer header.line header.above split spans] at declares
  cases declares

end Around

end Indented

namespace Flask

open Indented

section Downwards

variable {lines : List Text} {place header : Place} {name : Text}

def goesOn (indent : Nat) (line : Text) : Bool :=
  isRemark (Text.trim line) || decide (indent < indentOf line)

def bodyLines (header : Place) : List Text := header.below.takeWhile (goesOn (indentOf header.line))

def noteVerb (methods : List Method) (line : Text) : List Method :=
  match verbPattern.partAtStart? 1 line with
  | some verb => addMethod methods (.ofToken verb)
  | none => methods

theorem bodyMethods_eq_foldl (indent : Nat) (methods : List Method) (below : List Text) :
    bodyMethods indent methods below =
      ((below.takeWhile (goesOn indent)).filter fun line => !isRemark (Text.trim line)).foldl noteVerb
        methods := by
  induction below generalizing methods with
  | nil => rfl
  | cons line below ih =>
    rw [bodyMethods]
    cases remark : isRemark (Text.trim line) with
    | true => simp [goesOn, remark, ih]
    | false =>
      by_cases deeper : indent < indentOf line
      · simp only [Bool.false_eq_true, if_false, Nat.not_le.mpr deeper]
        rw [List.takeWhile_cons_of_pos (by simp [goesOn, deeper]), List.filter_cons_of_pos (by simp [remark]),
          List.foldl_cons, noteVerb]
        cases verbPattern.partAtStart? 1 line <;> exact ih _
      · simp [goesOn, remark, deeper, Nat.le_of_not_lt deeper]

theorem forall_take_iff_le_takeWhile {α : Type} {accepts : α → Bool} {items : List α} {count : Nat}
    (inside : count ≤ items.length) :
    (∀ item ∈ items.take count, accepts item) ↔ count ≤ (items.takeWhile accepts).length := by
  induction items generalizing count with
  | nil => simp_all
  | cons item items ih =>
    cases count with
    | zero => simp
    | succ count =>
      rw [List.take_succ_cons, List.forall_mem_cons, ih (Nat.le_of_succ_le_succ inside), List.takeWhile_cons]
      split <;> simp [*]

/-- The class around a line is around it in both directions: its body read downwards holds the line. -/
theorem around_iff_bodyLines (member : place ∈ Place.all lines) : Around lines place header ↔
    header ∈ Place.all lines ∧ (Indented.className? header.line).isSome ∧ header.number < place.number ∧
      place.number ≤ header.number + (bodyLines header).length := by
  rw [around_iff]
  refine and_congr_right fun present => and_congr_right fun _ => and_congr_right fun earlier => ?_
  obtain ⟨between, above, below⟩ := Place.exists_between present member earlier
  have numbered := Place.number_of_between above
  have inside : place.number - header.number ≤ header.below.length := by
    rw [below, List.length_append, List.length_cons]
    omega
  rw [bodyLines, ← Nat.sub_le_iff_le_add', ← forall_take_iff_le_takeWhile inside]
  simp [Deeper, reach, goesOn, or_iff_not_imp_left]

/-- The class around a line of code is the innermost one whose body holds the line: the class with the
last header above from which all code down to the line is indented deeper, which is to say that the
line is in the body from which the verbs of that class are read. -/
theorem enclosingClass?_innermost (member : place ∈ Place.all lines)
    (code : isRemark (Text.trim place.line) = false) :
    (∀ name, enclosingClass? place = some name ↔ ∃ header, Around lines place header ∧
      Indented.className? header.line = some name ∧
        ∀ other, Around lines place other → other.number ≤ header.number) ∧
    (enclosingClass? place = none ↔ ∀ header, ¬ Around lines place header) ∧
    (∀ header, Around lines place header ↔ header ∈ Place.all lines ∧
      (resourceAt? header).isSome ∧ header.number < place.number ∧
        place.number ≤ header.number + (bodyLines header).length) ∧
    ∀ header, resourceAt? header = (Indented.className? header.line).map fun name =>
      (name, ((bodyLines header).filter fun line => !isRemark (Text.trim line)).foldl noteVerb []) := by
  have read (header : Place) : resourceAt? header = (Indented.className? header.line).map fun name =>
      (name, ((bodyLines header).filter fun line => !isRemark (Text.trim line)).foldl noteVerb []) := by
    rw [resourceAt?, bodyMethods_eq_foldl]
    rfl
  refine ⟨fun name => ⟨innermost_of_enclosingClass? member code, ?_⟩,
    ⟨not_around_of_enclosingClass? member code, ?_⟩, fun header => ?_, read⟩
  · rintro ⟨header, around, named, last⟩
    cases found : enclosingClass? place with
    | none => exact absurd around (not_around_of_enclosingClass? member code found header)
    | some other =>
      obtain ⟨nearest, within, called, least⟩ := innermost_of_enclosingClass? member code found
      have same := Place.eq_of_number_eq around.member within.member
        (Nat.le_antisymm (least header around) (last nearest within))
      rw [← called, ← named, same]
  · intro nowhere
    cases found : enclosingClass? place with
    | none => rfl
    | some name =>
      obtain ⟨header, around, _⟩ := innermost_of_enclosingClass? member code found
      exact absurd around (nowhere header)
  · rw [around_iff_bodyLines member, read, Option.isSome_map]

def lateLine : Place where
  above := ["    async def put(self):", "# note", "        def get(self):", "    class Inner:", "",
    "class Outer:", "class Empty: pass"]
  line := "          return 1"
  below := ["  patch = 2", "class Other:"]

theorem enclosingClass?_innermost_of_lateLine :
    lateLine ∈ Place.all (lateLine.above.reverse ++ lateLine.line :: lateLine.below) ∧
      isRemark (Text.trim lateLine.line) = false ∧
      ∃ header, Around (lateLine.above.reverse ++ lateLine.line :: lateLine.below) lateLine header ∧
        resourceAt? header = some ("Outer".toList, [.get, .put]) ∧
        lateLine.number ≤ header.number + (bodyLines header).length := by
  have member : lateLine ∈ Place.all (lateLine.above.reverse ++ lateLine.line :: lateLine.below) :=
    Place.mem_all_iff.mpr rfl
  have code : isRemark (Text.trim lateLine.line) = false := by
    decide +kernel
  have verbs : ∀ header ∈ Place.all (lateLine.above.reverse ++ lateLine.line :: lateLine.below),
      Indented.className? header.line = some "Outer".toList →
        resourceAt? header = some ("Outer".toList, [.get, .put]) := by
    decide +kernel
  obtain ⟨innermost, _, bodies, _⟩ := enclosingClass?_innermost member code
  obtain ⟨header, around, named, _⟩ := (innermost "Outer".toList).mp (by decide +kernel)
  obtain ⟨present, _, _, holds⟩ := (bodies header).mp around
  exact ⟨member, code, header, around, verbs header present named, holds⟩

end Downwards

end Flask

end RouteAtlas
