import RouteAtlas.Path

namespace RouteAtlas

open Std

theorem Text.compare_eq_compareLex : Text.compare = List.compareLex (compareOn Char.toNat) := by
  funext left right
  induction left generalizing right with
  | nil => cases right <;> rfl
  | cons c rest ih =>
    cases right with
    | nil => rfl
    | cons d more =>
      rw [Text.compare, List.compareLex_cons_cons, ih]
      rcases Nat.lt_trichotomy c.toNat d.toNat with less | equal | greater
      · simp [less, compareOn, Nat.compare_eq_lt.mpr less]
      · simp [equal, compareOn]
      · simp [greater, Nat.not_lt_of_gt greater, compareOn, Nat.compare_eq_gt.mpr greater]

instance : TransCmp Text.compare := by
  rw [Text.compare_eq_compareLex]
  infer_instance

theorem Text.compare_eq_iff (left right : Text) : Text.compare left right = .eq ↔ left = right := by
  induction left generalizing right with
  | nil => cases right <;> simp [Text.compare]
  | cons c rest ih =>
    cases right with
    | nil => simp [Text.compare]
    | cons d more =>
      have sameCode : c.toNat = d.toNat ↔ c = d := Char.toNat_inj
      rcases Nat.lt_trichotomy c.toNat d.toNat with less | equal | greater
      · have differ : c ≠ d := fun h => by rw [h] at less; omega
        simp [Text.compare, less, differ]
      · simp [Text.compare, sameCode.mp equal, ih]
      · have differ : c ≠ d := fun h => by rw [h] at greater; omega
        simp [Text.compare, greater, differ, Nat.not_lt_of_gt greater]

def Component.nameText : Component → Text
  | .name text => text
  | _ => []

theorem Component.compare_eq_compareLex : Component.compare =
    compareLex (compareOn Component.rank) fun left right =>
      Text.compare left.nameText right.nameText := by
  funext left right
  cases left <;> cases right <;>
    simp [Component.compare, compareLex, compareOn, Component.rank, Component.nameText, Text.compare]
  all_goals rfl

instance : TransCmp Component.compare := by
  have names : TransCmp fun left right : Component => Text.compare left.nameText right.nameText :=
    { eq_swap := fun {left right} =>
        @OrientedCmp.eq_swap _ Text.compare _ left.nameText right.nameText
      isLE_trans := fun {first second third} => @TransCmp.isLE_trans _ Text.compare _
        first.nameText second.nameText third.nameText }
  rw [Component.compare_eq_compareLex]
  infer_instance

theorem Component.compare_eq_iff (left right : Component) :
    left.compare right = .eq ↔ left = right := by
  cases left <;> cases right <;> simp [Component.compare, Component.rank, Text.compare_eq_iff]

namespace Path

theorem compareSteps_eq_compareLex : compareSteps = List.compareLex Component.compare := by
  funext left right
  induction left generalizing right with
  | nil => cases right <;> rfl
  | cons step steps ih =>
    cases right with
    | nil => rfl
    | cons other others => rw [compareSteps, List.compareLex_cons_cons, ih]

instance : TransCmp compareSteps := by
  rw [compareSteps_eq_compareLex]
  infer_instance

theorem compareSteps_eq_iff (left right : List Component) :
    compareSteps left right = .eq ↔ left = right := by
  induction left generalizing right with
  | nil => cases right <;> simp [compareSteps]
  | cons step steps ih =>
    cases right with
    | nil => simp [compareSteps]
    | cons other others =>
      simp [compareSteps, Ordering.then_eq_eq, Component.compare_eq_iff, ih]

theorem le_trans (first second third : Path) (left : first.le second = true)
    (right : second.le third = true) : first.le third = true :=
  @TransCmp.isLE_trans _ compareSteps _ _ _ _ left right

theorem le_total (first second : Path) : (first.le second || second.le first) = true := by
  have swapped : second.compare first = (first.compare second).swap :=
    @OrientedCmp.eq_swap _ compareSteps _ _ _
  rw [le, le, swapped]
  cases first.compare second <;> rfl

theorem compare_eq_lt_of_le {first second : Path} (order : first.le second = true)
    (differ : first.components ≠ second.components) : first.compare second = .lt := by
  have unequal : first.compare second ≠ .eq := fun same =>
    differ ((compareSteps_eq_iff _ _).mp same)
  unfold le at order
  cases result : first.compare second with
  | lt => rfl
  | eq => exact absurd result unequal
  | gt =>
    rw [result] at order
    cases order

theorem pairwise_compare_mergeSort {paths : List Path}
    (differ : paths.Pairwise fun first second => first.components ≠ second.components) :
    (paths.mergeSort le).Pairwise fun first second => first.compare second = .lt := by
  have sorted : (paths.mergeSort le).Pairwise fun first second => first.le second = true :=
    List.pairwise_mergeSort le_trans le_total paths
  have kept : (paths.mergeSort le).Pairwise fun first second =>
      first.components ≠ second.components :=
    ((List.mergeSort_perm paths le).pairwise_iff Ne.symm).mpr differ
  exact sorted.imp₂ (fun _ _ order apart => compare_eq_lt_of_le order apart) kept

end Path

end RouteAtlas
