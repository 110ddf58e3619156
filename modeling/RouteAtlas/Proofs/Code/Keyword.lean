import RouteAtlas.Extract.Flask
import RouteAtlas.Proofs.Code.Indented

namespace RouteAtlas

namespace Pattern

variable {pattern : Pattern}

theorem length_start_of_at? {place : Cursor} {found : Found} (here : pattern.at? place = some found) :
    found.start.rest.length = place.rest.length := by
  obtain ⟨reading, _, rfl⟩ := Option.map_eq_some_iff.mp here
  rfl

theorem length_start_le {skip : Nat} {before : Option Char} {text : Text} {found : Found}
    (member : found ∈ pattern.findAllFrom skip before text) :
    found.start.rest.length ≤ text.length := by
  induction text generalizing skip before with
  | nil =>
    cases skip with
    | zero => exact Nat.le_of_eq (length_start_of_at? (Option.mem_toList.mp member))
    | succ skip => cases member
  | cons c text ih =>
    rw [List.length_cons]
    cases skip with
    | succ skip => exact Nat.le_succ_of_le (ih member)
    | zero =>
      rw [findAllFrom] at member
      split at member
      · rename_i first here
        rcases List.mem_cons.mp member with rfl | later
        · exact Nat.le_of_eq (length_start_of_at? here)
        · exact Nat.le_succ_of_le (ih later)
      · exact Nat.le_succ_of_le (ih member)

theorem pairwise_findAllFrom (skip : Nat) (before : Option Char) (text : Text) :
    (pattern.findAllFrom skip before text).Pairwise fun found other =>
      other.start.rest.length < found.start.rest.length := by
  induction text generalizing skip before with
  | nil =>
    cases skip with
    | zero =>
      rw [findAllFrom]
      cases pattern.at? ⟨before, []⟩ with
      | none => exact .nil
      | some found => exact List.pairwise_singleton _ _
    | succ skip => exact .nil
  | cons c text ih =>
    cases skip with
    | succ skip => exact ih skip (some c)
    | zero =>
      rw [findAllFrom]
      split
      · rename_i first here
        refine .cons (fun other member => ?_) (ih _ _)
        have later := length_start_le member
        rw [length_start_of_at? here, List.length_cons]
        omega
      · exact ih _ _

end Pattern

/-- In a list that is in order, the first hit is the one with no hit before it in that order. -/
theorem findSome?_eq_some_iff_of_pairwise {α β : Type} {order : α → α → Prop} {items : List α}
    {find : α → Option β} {value : β} (asymm : ∀ a b, order a b → ¬ order b a)
    (sorted : items.Pairwise order) : items.findSome? find = some value ↔
      ∃ item ∈ items, find item = some value ∧ ∀ other ∈ items, order other item → find other = none := by
  rw [List.findSome?_eq_some_iff]
  constructor
  · rintro ⟨front, item, back, rfl, hit, missed⟩
    refine ⟨item, by simp, hit, fun other member earlier => ?_⟩
    obtain ⟨_, tail, _⟩ := List.pairwise_append.mp sorted
    rcases List.mem_append.mp member with before | after
    · exact missed other before
    · rcases List.mem_cons.mp after with rfl | after
      · exact absurd earlier (asymm _ _ earlier)
      · exact absurd earlier (asymm _ _ ((List.pairwise_cons.mp tail).1 other after))
  · rintro ⟨item, member, hit, missed⟩
    obtain ⟨front, back, rfl⟩ := List.append_of_mem member
    obtain ⟨_, _, across⟩ := List.pairwise_append.mp sorted
    refine ⟨front, item, back, rfl, hit, fun other before => ?_⟩
    exact missed other (by simp [before]) (across other before item (by simp))

namespace Indented

def LeftOf (other found : Found) : Prop := found.start.rest.length < other.start.rest.length

/-- What the call at a constructor passes for a keyword, when the call is complete. -/
def passed? (keyword : Pattern) (place : Place) (found : Found) : Option Text :=
  (Call.read? found.rest place.below).bind fun call => keyword.partIn? 1 call.text

def constructorsAt (constructor : Pattern) (place : Place) : List Found :=
  constructor.findAll place.line

/-- The first constructor on a line that opens a complete call. -/
def leadingAt (constructor : Pattern) (place : Place) : List Found :=
  ((constructorsAt constructor place).find? fun found =>
    (Call.read? found.rest place.below).isSome).toList

/-- The first candidate that passes the keyword, by lines and then by columns. -/
structure Earliest (keyword : Pattern) (candidates : Place → List Found) (lines : List Text)
    (place : Place) (found : Found) (value : Text) : Prop where
  present : place ∈ Place.all lines
  listed : found ∈ candidates place
  passes : passed? keyword place found = some value
  left : ∀ other ∈ candidates place, LeftOf other found → passed? keyword place other = none
  above : ∀ higher ∈ Place.all lines, higher.number < place.number →
    ∀ other ∈ candidates higher, passed? keyword higher other = none

variable {constructor keyword : Pattern} {lines : List Text} {candidates : Place → List Found}
  {place : Place} {found : Found} {value : Text}

theorem pairwise_constructorsAt (constructor : Pattern) (place : Place) :
    (constructorsAt constructor place).Pairwise LeftOf :=
  Pattern.pairwise_findAllFrom 0 none place.line

theorem mem_constructorsAt_of_leading (leading : found ∈ leadingAt constructor place) :
    found ∈ constructorsAt constructor place :=
  List.mem_of_find?_eq_some (Option.mem_toList.mp leading)

theorem pairwise_leadingAt (constructor : Pattern) (place : Place) :
    (leadingAt constructor place).Pairwise LeftOf := by
  unfold leadingAt
  cases (constructorsAt constructor place).find? _ with
  | none => exact .nil
  | some found => exact List.pairwise_singleton _ _

theorem exists_earliest_iff (sorted : ∀ place, (candidates place).Pairwise LeftOf) :
    (Place.all lines).findSome? (fun place => (candidates place).findSome? (passed? keyword place)) =
      some value ↔ ∃ place found, Earliest keyword candidates lines place found value := by
  have each (place : Place) : (candidates place).findSome? (passed? keyword place) = some value ↔
      ∃ found ∈ candidates place, passed? keyword place found = some value ∧
        ∀ other ∈ candidates place, LeftOf other found → passed? keyword place other = none :=
    findSome?_eq_some_iff_of_pairwise (fun _ _ => Nat.lt_asymm) (sorted place)
  have ordered : (Place.all lines).Pairwise fun place other => place.number < other.number :=
    Place.pairwise_number_allFrom [] lines
  rw [findSome?_eq_some_iff_of_pairwise (fun _ _ => Nat.lt_asymm) ordered]
  constructor
  · rintro ⟨place, present, hit, above⟩
    obtain ⟨found, listed, passes, left⟩ := (each place).mp hit
    exact ⟨place, found, present, listed, passes, left, fun higher member earlier =>
      List.findSome?_eq_none_iff.mp (above higher member earlier)⟩
  · rintro ⟨place, found, first⟩
    exact ⟨place, first.present, (each place).mpr ⟨found, first.listed, first.passes, first.left⟩,
      fun higher member earlier => List.findSome?_eq_none_iff.mpr (first.above higher member earlier)⟩

theorem keywordAt?_eq_leading (constructor keyword : Pattern) (place : Place) :
    keywordAt? constructor keyword place =
      (leadingAt constructor place).findSome? (passed? keyword place) := by
  unfold keywordAt? leadingAt constructorsAt passed?
  induction constructor.findAll place.line with
  | nil => rfl
  | cons found others ih =>
    rw [List.findSome?_cons, List.find?_cons]
    cases read : Call.read? found.rest place.below with
    | none => exact ih
    | some call => simp [read, Option.bind]

theorem constructorKeyword?_eq_some_iff : constructorKeyword? constructor keyword lines = some value ↔
    ∃ place found, Earliest keyword (leadingAt constructor) lines place found value := by
  rw [← exists_earliest_iff (pairwise_leadingAt constructor)]
  simp only [← keywordAt?_eq_leading]
  rfl

theorem constructorKeyword?_eq_none_iff : constructorKeyword? constructor keyword lines = none ↔
    ∀ place ∈ Place.all lines, ∀ found ∈ leadingAt constructor place,
      passed? keyword place found = none := by
  simp only [← List.findSome?_eq_none_iff, ← keywordAt?_eq_leading]
  rfl

theorem Earliest.of_leading (first : Earliest keyword (constructorsAt constructor) lines place found value)
    (leading : found ∈ leadingAt constructor place) :
    Earliest keyword (leadingAt constructor) lines place found value where
  present := first.present
  listed := leading
  passes := first.passes
  left other member := first.left other (mem_constructorsAt_of_leading member)
  above higher member earlier other listed :=
    first.above higher member earlier other (mem_constructorsAt_of_leading listed)

theorem eq_or_leftOf_of_leading {other : Found} (leading : other ∈ leadingAt constructor place)
    (listed : found ∈ constructorsAt constructor place)
    (complete : (Call.read? found.rest place.below).isSome) : found = other ∨ LeftOf other found := by
  obtain ⟨_, front, back, split, missed⟩ :=
    List.find?_eq_some_iff_append.mp (Option.mem_toList.mp leading)
  have sorted := pairwise_constructorsAt constructor place
  rw [split] at listed sorted
  rcases List.mem_append.mp listed with before | after
  · have incomplete := missed found before
    simp [complete] at incomplete
  · rcases List.mem_cons.mp after with same | after
    · exact .inl same
    · exact .inr ((List.pairwise_cons.mp (List.pairwise_append.mp sorted).2.1).1 found after)

/-- Where another call leads the line of the first call that passes the keyword, the search goes on
below this line. -/
theorem Earliest.lt_number {other : Place} {leader : Found} {given : Text}
    (first : Earliest keyword (constructorsAt constructor) lines place found value)
    (hidden : found ∉ leadingAt constructor place)
    (taken : Earliest keyword (leadingAt constructor) lines other leader given) :
    place.number < other.number := by
  have listed := mem_constructorsAt_of_leading taken.listed
  have passes := taken.passes
  rcases Nat.lt_trichotomy place.number other.number with later | same | earlier
  · exact later
  · obtain rfl := Place.eq_of_number_eq first.present taken.present same
    have complete : (Call.read? found.rest place.below).isSome := by
      obtain ⟨call, read, _⟩ := Option.bind_eq_some_iff.mp first.passes
      rw [read]
      rfl
    rcases eq_or_leftOf_of_leading taken.listed first.listed complete with rfl | left
    · exact absurd taken.listed hidden
    · rw [first.left leader listed left] at passes
      cases passes
  · rw [first.above other taken.present earlier leader listed] at passes
    cases passes

theorem exists_earliest (present : place ∈ Place.all lines) (listed : found ∈ constructorsAt constructor place)
    (passes : passed? keyword place found = some value) : ∃ place found value,
      Earliest keyword (constructorsAt constructor) lines place found value := by
  cases hit : (Place.all lines).findSome? fun place =>
      (constructorsAt constructor place).findSome? (passed? keyword place) with
  | some value =>
    obtain ⟨place, found, first⟩ := (exists_earliest_iff (pairwise_constructorsAt constructor)).mp hit
    exact ⟨place, found, value, first⟩
  | none =>
    have missed := List.findSome?_eq_none_iff.mp (List.findSome?_eq_none_iff.mp hit place present)
    rw [missed found listed] at passes
    cases passes

/-- The search gives the keyword of the first complete call that passes it, provided that this call is
the first complete one on its line. In any case it gives the keyword of the first call that passes it
among those that are the first complete ones on their lines. -/
theorem constructorKeyword?_earliest (constructor keyword : Pattern) (lines : List Text) :
    ((∀ place found value, Earliest keyword (constructorsAt constructor) lines place found value →
        found ∈ leadingAt constructor place) →
      (∀ value, constructorKeyword? constructor keyword lines = some value ↔
        ∃ place found, Earliest keyword (constructorsAt constructor) lines place found value) ∧
      (constructorKeyword? constructor keyword lines = none ↔ ∀ place ∈ Place.all lines,
        ∀ found ∈ constructorsAt constructor place, passed? keyword place found = none)) ∧
    (∀ value, constructorKeyword? constructor keyword lines = some value ↔
      ∃ place found, Earliest keyword (leadingAt constructor) lines place found value) ∧
    (constructorKeyword? constructor keyword lines = none ↔ ∀ place ∈ Place.all lines,
      ∀ found ∈ leadingAt constructor place, passed? keyword place found = none) ∧
    ∀ place found value, Earliest keyword (constructorsAt constructor) lines place found value →
      found ∉ leadingAt constructor place → ∀ other leader given,
        Earliest keyword (leadingAt constructor) lines other leader given →
          place.number < other.number := by
  refine ⟨fun leads => ?_, fun value => constructorKeyword?_eq_some_iff, constructorKeyword?_eq_none_iff,
    fun place found value first hidden other leader given taken => first.lt_number hidden taken⟩
  have given {place : Place} {found : Found} {value : Text}
      (first : Earliest keyword (constructorsAt constructor) lines place found value) :
      constructorKeyword? constructor keyword lines = some value :=
    constructorKeyword?_eq_some_iff.mpr ⟨place, found, first.of_leading (leads place found value first)⟩
  refine ⟨fun value => ⟨fun hit => ?_, fun ⟨_, _, first⟩ => given first⟩, fun missed => ?_, fun nothing => ?_⟩
  · obtain ⟨place, found, taken⟩ := constructorKeyword?_eq_some_iff.mp hit
    have listed := mem_constructorsAt_of_leading taken.listed
    obtain ⟨first, opening, other, earliest⟩ := exists_earliest taken.present listed taken.passes
    have same : value = other := Option.some.inj (hit.symm.trans (given earliest))
    exact ⟨first, opening, same ▸ earliest⟩
  · intro place present found listed
    cases passes : passed? keyword place found with
    | none => rfl
    | some value =>
      obtain ⟨_, _, other, earliest⟩ := exists_earliest present listed passes
      rw [given earliest] at missed
      cases missed
  · refine constructorKeyword?_eq_none_iff.mpr fun place present found leading => ?_
    exact nothing place present found (mem_constructorsAt_of_leading leading)

def gatheredBlueprints : List Text :=
  ["from flask import Blueprint; a = Blueprint('a', __name__)", "b = Blueprint(",
    "    name('b'), __name__,", "    url_prefix='/b',", ")", "c = Blueprint('c', url_prefix='/c'"]

theorem constructorKeyword?_earliest_of_gatheredBlueprints :
    (∀ place found value, Earliest Flask.basePattern (constructorsAt Flask.blueprintPattern)
        gatheredBlueprints place found value → found ∈ leadingAt Flask.blueprintPattern place) ∧
      ∃ place found, Earliest Flask.basePattern (constructorsAt Flask.blueprintPattern)
        gatheredBlueprints place found "/b" := by
  have level : ∀ place ∈ Place.all gatheredBlueprints,
      ∀ found ∈ constructorsAt Flask.blueprintPattern place,
        passed? Flask.basePattern place found ≠ none → ∃ leader ∈ leadingAt Flask.blueprintPattern place,
          found.start.rest.length = leader.start.rest.length := by
    decide +kernel
  have leads : ∀ place found value, Earliest Flask.basePattern (constructorsAt Flask.blueprintPattern)
      gatheredBlueprints place found value → found ∈ leadingAt Flask.blueprintPattern place := by
    intro place found value first
    have passes := first.passes
    obtain ⟨leader, leading, same⟩ := level place first.present found first.listed (by simp [passes])
    obtain ⟨call, read, _⟩ := Option.bind_eq_some_iff.mp passes
    rcases eq_or_leftOf_of_leading leading first.listed (by rw [read]; rfl) with rfl | left
    · exact leading
    · exact absurd left (by simp [LeftOf, same])
  obtain ⟨given, _⟩ := constructorKeyword?_earliest Flask.blueprintPattern Flask.basePattern
    gatheredBlueprints
  exact ⟨leads, ((given leads).1 "/b").mp (by decide +kernel)⟩

def pairedBlueprints : List Text :=
  ["a = Blueprint('a', __name__); b = Blueprint('b', __name__, url_prefix='/b')"]

/-- The keyword of a call is lost behind a complete call on the same line. -/
theorem constructorKeyword?_lost_behind_call :
    (∃ place found, Earliest Flask.basePattern (constructorsAt Flask.blueprintPattern) pairedBlueprints
      place found "/b") ∧
      constructorKeyword? Flask.blueprintPattern Flask.basePattern pairedBlueprints = none :=
  ⟨(exists_earliest_iff (pairwise_constructorsAt _)).mp (by decide +kernel), by decide +kernel⟩

end Indented

end RouteAtlas
