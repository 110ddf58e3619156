import RouteAtlas.Glob.Shape
import RouteAtlas.Proofs.Text.Bytes

namespace RouteAtlas.Glob

mutual

def Item.Reads : Item → List UInt8 → Prop
  | .literal unit, units => units = [unit]
  | .one set, units => ∃ unit, units = [unit] ∧ set.accepts unit = true
  | .many set, units => ∀ unit ∈ units, set.accepts unit = true
  | .maybe unit, units => units = [] ∨ units = [unit]
  | .choice branches, units => BranchesRead branches units

/-- The units that items can read one after the other. -/
def ItemsRead : List Item → List UInt8 → Prop
  | [], units => units = []
  | item :: items, units => ∃ left right, units = left ++ right ∧ item.Reads left ∧
      ItemsRead items right

def BranchesRead : List (List Item) → List UInt8 → Prop
  | [], _ => False
  | branch :: branches, units => ItemsRead branch units ∨ BranchesRead branches units

end

namespace Marks

variable {accepts : UInt8 → Bool} {units front : List UInt8} {marks other : Marks}

/-- The place after these units is marked. -/
def Reach (marks : Marks) (front : List UInt8) : Prop := marks[front.length]? = some true

theorem reach_start (units front : List UInt8) : (start units).Reach front ↔ front = [] := by
  cases front with
  | nil => simp [Reach, start]
  | cons unit front =>
    simp only [reduceCtorEq, iff_false]
    intro here
    simpa using List.mem_of_getElem? (l := units.map fun _ => false) here

theorem not_reach_nowhere (units front : List UInt8) : ¬ (nowhere units).Reach front := by
  intro here
  simpa [nowhere] using List.mem_of_getElem? here

theorem reach_union (within : front <+: units) (size : marks.length = units.length + 1)
    (same : other.length = units.length + 1) :
    (marks.union other).Reach front ↔ marks.Reach front ∨ other.Reach front := by
  have bound := within.length_le
  have left : front.length < marks.length := by omega
  have right : front.length < other.length := by omega
  simp [Reach, union, List.getElem?_zipWith, List.getElem?_eq_getElem left,
    List.getElem?_eq_getElem right]

theorem reach_advance (within : front <+: units) (size : marks.length = units.length + 1) :
    (marks.advance accepts units).Reach front ↔
      ∃ before unit, front = before ++ [unit] ∧ marks.Reach before ∧ accepts unit = true := by
  obtain ⟨rest, rfl⟩ := within
  rcases List.eq_nil_or_concat front with rfl | ⟨before, unit, rfl⟩
  · simp [Reach, advance]
  · have inside : before.length < marks.length := by simp at size; omega
    have last : (marks.advance accepts (before.concat unit ++ rest)).Reach (before.concat unit) ↔
        marks.Reach before ∧ accepts unit = true := by
      simp [Reach, advance, List.getElem?_zipWith, List.getElem?_eq_getElem inside]
    rw [last]
    constructor
    · exact fun here => ⟨before, unit, List.concat_eq_append, here⟩
    · rintro ⟨other, read, same, here⟩
      obtain ⟨rfl, rfl⟩ : before = other ∧ unit = read := by simpa using same
      exact here

theorem reach_spread {reached : Bool} (within : front <+: units)
    (size : marks.length = units.length + 1) :
    (marks.spread accepts reached units).Reach front ↔
      (∃ before read, front = before ++ read ∧ marks.Reach before ∧
        ∀ unit ∈ read, accepts unit = true) ∨
      reached = true ∧ ∀ unit ∈ front, accepts unit = true := by
  obtain ⟨rest, rfl⟩ := within
  -- the carried flag says that a span which was entered earlier has not met a unit outside the set
  induction front generalizing marks reached with
  | nil =>
    cases marks with
    | nil => simp at size
    | cons mark marks =>
      have first : (spread accepts reached ([] ++ rest) (mark :: marks)).Reach [] ↔
          reached = true ∨ mark = true := by
        cases rest <;> simp [Reach, spread]
      rw [first]
      constructor
      · rintro (here | here)
        · exact .inr ⟨here, by simp⟩
        · exact .inl ⟨[], [], rfl, by simp [Reach, here], by simp⟩
      · rintro (⟨before, read, same, here, _⟩ | ⟨here, _⟩)
        · obtain ⟨rfl, rfl⟩ := List.append_eq_nil_iff.mp same.symm
          exact .inr (by simpa [Reach] using here)
        · exact .inl here
  | cons unit front ih =>
    cases marks with
    | nil => simp at size
    | cons mark marks =>
      have shorter : marks.length = (front ++ rest).length + 1 := by simpa using size
      have later := @ih marks ((reached || mark) && accepts unit) shorter
      have stepped : (spread accepts reached (unit :: front ++ rest) (mark :: marks)).Reach
          (unit :: front) ↔
          (spread accepts ((reached || mark) && accepts unit) (front ++ rest) marks).Reach front := by
        simp [Reach, spread]
      rw [stepped, later]
      constructor
      · rintro (⟨before, read, rfl, here, all⟩ | ⟨reaches, all⟩)
        · exact .inl ⟨unit :: before, read, rfl, by simpa [Reach] using here, all⟩
        · simp only [Bool.and_eq_true, Bool.or_eq_true] at reaches
          obtain ⟨reached | mark, accepted⟩ := reaches
          · exact .inr ⟨reached, by simpa [accepted] using all⟩
          · exact .inl ⟨[], unit :: front, rfl, by simp [Reach, mark], by simpa [accepted] using all⟩
      · rintro (⟨before, read, same, here, all⟩ | ⟨reaches, all⟩)
        · cases before with
          | nil =>
            obtain rfl : unit :: front = read := same
            simp only [List.forall_mem_cons] at all
            exact .inr ⟨by simpa [Reach, all.1] using Or.inr here, all.2⟩
          | cons head before =>
            obtain ⟨rfl, rfl⟩ := List.cons.inj same
            exact .inl ⟨before, read, rfl, by simpa [Reach] using here, all⟩
        · simp only [List.forall_mem_cons] at all
          exact .inr ⟨by simp [reaches, all.1], all.2⟩

theorem length_advance (size : marks.length = units.length + 1) :
    (marks.advance accepts units).length = units.length + 1 := by
  simp [advance, size]

theorem length_union (size : marks.length = units.length + 1)
    (same : other.length = units.length + 1) : (marks.union other).length = units.length + 1 := by
  simp [union, size, same]

theorem length_spread {reached : Bool} (size : marks.length = units.length + 1) :
    (marks.spread accepts reached units).length = units.length + 1 := by
  induction units generalizing marks reached with
  | nil =>
    cases marks with
    | nil => simp at size
    | cons mark marks => simp [spread]
  | cons unit units ih =>
    cases marks with
    | nil => simp at size
    | cons mark marks =>
      have later := @ih marks ((reached || mark) && accepts unit) (by simpa using size)
      simp [spread, later]

end Marks

section Run

variable {units : List UInt8}

mutual

theorem length_run {marks : Marks} (item : Item) (size : marks.length = units.length + 1) :
    (item.run units marks).length = units.length + 1 := by
  cases item with
  | literal unit => exact Marks.length_advance size
  | one set => exact Marks.length_advance size
  | many set => exact Marks.length_spread size
  | maybe unit => exact Marks.length_union size (Marks.length_advance size)
  | choice branches => exact length_runBranches branches size

theorem length_runItems {marks : Marks} (items : List Item) (size : marks.length = units.length + 1) :
    (runItems units marks items).length = units.length + 1 := by
  cases items with
  | nil => exact size
  | cons item items => exact length_runItems items (length_run item size)

theorem length_runBranches {marks : Marks} (branches : List (List Item))
    (size : marks.length = units.length + 1) :
    (runBranches units marks branches).length = units.length + 1 := by
  cases branches with
  | nil => simp [runBranches, Marks.nowhere]
  | cons branch branches =>
    exact Marks.length_union (length_runItems branch size) (length_runBranches branches size)

end

mutual

/-- An item goes from a marked place to the places behind what it can read there. -/
theorem reach_run {marks : Marks} {front : List UInt8} (item : Item)
    (within : front <+: units) (size : marks.length = units.length + 1) :
    (item.run units marks).Reach front ↔
      ∃ before read, front = before ++ read ∧ marks.Reach before ∧ item.Reads read := by
  cases item with
  | literal unit =>
    simp only [Item.run, Marks.reach_advance within size, Item.Reads, beq_iff_eq]
    constructor
    · rintro ⟨before, read, rfl, here, rfl⟩
      exact ⟨before, [read], rfl, here, rfl⟩
    · rintro ⟨before, _, rfl, here, rfl⟩
      exact ⟨before, unit, rfl, here, rfl⟩
  | one set =>
    simp only [Item.run, Marks.reach_advance within size, Item.Reads]
    constructor
    · rintro ⟨before, unit, rfl, here, accepted⟩
      exact ⟨before, [unit], rfl, here, unit, rfl, accepted⟩
    · rintro ⟨before, _, rfl, here, unit, rfl, accepted⟩
      exact ⟨before, unit, rfl, here, accepted⟩
  | many set =>
    simp only [Item.run, Marks.reach_spread within size, Item.Reads, Bool.false_eq_true, false_and,
      or_false]
  | maybe unit =>
    simp only [Item.run, Marks.reach_union within size (Marks.length_advance size),
      Marks.reach_advance within size, Item.Reads, beq_iff_eq]
    constructor
    · rintro (here | ⟨before, read, rfl, here, rfl⟩)
      · exact ⟨front, [], (List.append_nil front).symm, here, .inl rfl⟩
      · exact ⟨before, [read], rfl, here, .inr rfl⟩
    · rintro ⟨before, _, rfl, here, rfl | rfl⟩
      · exact .inl (by rwa [List.append_nil])
      · exact .inr ⟨before, unit, rfl, here, rfl⟩
  | choice branches => exact reach_runBranches branches within size

theorem reach_runItems {marks : Marks} {front : List UInt8} (items : List Item)
    (within : front <+: units) (size : marks.length = units.length + 1) :
    (runItems units marks items).Reach front ↔
      ∃ before read, front = before ++ read ∧ marks.Reach before ∧ ItemsRead items read := by
  cases items with
  | nil =>
    simp only [runItems, ItemsRead]
    constructor
    · exact fun here => ⟨front, [], (List.append_nil front).symm, here, rfl⟩
    · rintro ⟨before, _, rfl, here, rfl⟩
      rwa [List.append_nil]
  | cons item items =>
    rw [runItems, reach_runItems items within (length_run item size)]
    -- the place between the item and the others is marked by the item, and the others go on from there
    constructor
    · rintro ⟨middle, right, rfl, here, later⟩
      have inside : middle <+: units := (List.prefix_append middle right).trans within
      obtain ⟨before, left, rfl, there, first⟩ := (reach_run item inside size).mp here
      exact ⟨before, left ++ right, List.append_assoc before left right, there, left, right, rfl,
        first, later⟩
    · rintro ⟨before, _, rfl, here, left, right, rfl, first, later⟩
      rw [← List.append_assoc] at within ⊢
      have inside : before ++ left <+: units := (List.prefix_append _ right).trans within
      exact ⟨before ++ left, right, rfl, (reach_run item inside size).mpr
        ⟨before, left, rfl, here, first⟩, later⟩

theorem reach_runBranches {marks : Marks} {front : List UInt8} (branches : List (List Item))
    (within : front <+: units) (size : marks.length = units.length + 1) :
    (runBranches units marks branches).Reach front ↔
      ∃ before read, front = before ++ read ∧ marks.Reach before ∧ BranchesRead branches read := by
  cases branches with
  | nil => simp [runBranches, BranchesRead, Marks.not_reach_nowhere]
  | cons branch branches =>
    rw [runBranches, Marks.reach_union within (length_runItems branch size)
      (length_runBranches branches size), reach_runItems branch within size,
      reach_runBranches branches within size]
    simp only [BranchesRead]
    constructor
    · rintro (⟨before, read, same, here, first⟩ | ⟨before, read, same, here, later⟩)
      · exact ⟨before, read, same, here, .inl first⟩
      · exact ⟨before, read, same, here, .inr later⟩
    · rintro ⟨before, read, same, here, first | later⟩
      · exact .inl ⟨before, read, same, here, first⟩
      · exact .inr ⟨before, read, same, here, later⟩

end

end Run

section Reading

theorem itemsRead_append {items more : List Item} {units : List UInt8} :
    ItemsRead (items ++ more) units ↔
      ∃ left right, units = left ++ right ∧ ItemsRead items left ∧ ItemsRead more right := by
  induction items generalizing units with
  | nil =>
    constructor
    · exact fun reads => ⟨[], units, rfl, rfl, reads⟩
    · rintro ⟨_, right, rfl, rfl, reads⟩
      exact reads
  | cons item items ih =>
    simp only [List.cons_append, ItemsRead, ih]
    constructor
    · rintro ⟨first, _, rfl, here, left, right, rfl, inner, reads⟩
      exact ⟨first ++ left, right, (List.append_assoc first left right).symm,
        ⟨first, left, rfl, here, inner⟩, reads⟩
    · rintro ⟨_, right, rfl, ⟨first, left, rfl, here, inner⟩, reads⟩
      exact ⟨first, left ++ right, List.append_assoc first left right, here, left, right, rfl, inner,
        reads⟩

theorem itemsRead_literals {literals units : List UInt8} :
    ItemsRead (literals.map .literal) units ↔ units = literals := by
  induction literals generalizing units with
  | nil => rfl
  | cons unit literals ih =>
    simp only [List.map_cons, ItemsRead, Item.Reads, ih]
    constructor
    · rintro ⟨_, _, rfl, rfl, rfl⟩
      rfl
    · rintro rfl
      exact ⟨[unit], literals, rfl, rfl, rfl⟩

theorem itemsRead_everything {items : List Item} {units : List UInt8} :
    ItemsRead (.many .all :: items) units ↔ ∃ left right, units = left ++ right ∧
      ItemsRead items right := by
  simp [ItemsRead, Item.Reads, UnitSet.accepts]

theorem ofTokens_append (options : GlobOptions) (tokens more : List GlobToken) :
    ofTokens options (tokens ++ more) = ofTokens options tokens ++ ofTokens options more := by
  induction tokens with
  | nil => rfl
  | cons token tokens ih => rw [List.cons_append, ofTokens, ofTokens, ih, List.append_assoc]

theorem ofTokens_literals (options : GlobOptions) (text : Text) :
    ofTokens options (text.map .literal) = (Text.bytes text).map .literal := by
  induction text with
  | nil => rfl
  | cons c text ih =>
    rw [List.map_cons, ofTokens, ih, Text.bytes_cons, List.map_append]
    rfl

theorem ofTokens_inside (options : GlobOptions) (directory : Text) :
    ofTokens options (directory.map .literal ++ [.inside]) =
      (Text.bytes (directory ++ ['/'])).map .literal ++ [.many .all] := by
  rw [ofTokens_append, ofTokens_literals, Text.bytes_append, List.map_append, List.append_assoc]
  rfl

end Reading

/-- A pattern matches a text just when its items read all of it. -/
theorem matchesText_iff (glob : Glob) (text : Text) :
    glob.matchesText text = true ↔ ItemsRead glob.items (Text.bytes text) := by
  have size : (Marks.start (Text.bytes text)).length = (Text.bytes text).length + 1 := by
    simp [Marks.start]
  have whole := length_runItems glob.items size
  have last : (runItems (Text.bytes text) (.start (Text.bytes text)) glob.items).atEnd = true ↔
      (runItems (Text.bytes text) (.start (Text.bytes text)) glob.items).Reach (Text.bytes text) := by
    simp [Marks.atEnd, Marks.Reach, List.getLastD_eq_getLast?, List.getLast?_eq_getElem?, whole]
  rw [matchesText, last, reach_runItems glob.items (List.prefix_refl _) size]
  constructor
  · rintro ⟨before, read, same, here, reads⟩
    obtain rfl := (Marks.reach_start _ before).mp here
    rwa [same]
  · intro reads
    exact ⟨[], Text.bytes text, rfl, (Marks.reach_start _ []).mpr rfl, reads⟩

end RouteAtlas.Glob
