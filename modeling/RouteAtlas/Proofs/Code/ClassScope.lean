import RouteAtlas.Code.ClassScope

namespace RouteAtlas

theorem braceCounts_pos_of_rise {line : Text} (rises : 0 < braceBalance line) :
    0 < (braceCounts line).1 := by
  unfold braceBalance at rises
  omega

namespace ClassScopes

variable {α : Type} {state : ClassScopes α} {line : Text}

def Settled (state : ClassScopes α) : Prop :=
  ∀ scope, state.scopes.head? = some scope → scope.entered ∧ scope.openDepth < state.depth

def enter (state : ClassScopes α) (name : Text) (header : α) : ClassScopes α :=
  ⟨⟨name, header, state.depth, true⟩ :: state.scopes, state.depth + 1⟩

def rise (state : ClassScopes α) : ClassScopes α := { state with depth := state.depth + 1 }

theorem settled_empty : (empty : ClassScopes α).Settled := by
  intro scope first
  cases first

theorem settled_enter (name : Text) (header : α) : (state.enter name header).Settled := by
  rintro scope ⟨⟩
  refine ⟨rfl, ?_⟩
  change state.depth < state.depth + 1
  omega

def openAt (depth : Int) (scopes : List (ClassScope α)) : List (ClassScope α) :=
  scopes.dropWhile fun top => top.entered && depth ≤ top.openDepth

theorem advance_eq {depth : Int} (reached : state.depth + braceBalance line = depth) :
    state.advance line =
      ⟨openAt depth (if 0 < (braceCounts line).1 then enterTop state.scopes else state.scopes),
        depth⟩ := by
  subst reached
  rfl

namespace Settled

variable (settled : state.Settled)
include settled

theorem rise : state.rise.Settled := by
  intro scope first
  obtain ⟨entered, deeper⟩ := settled scope first
  refine ⟨entered, ?_⟩
  change scope.openDepth < state.depth + 1
  omega

theorem enterTop_eq : enterTop state.scopes = state.scopes := by
  cases scopes : state.scopes with
  | nil => rfl
  | cons top outer =>
    have entered := (settled top (by simp [scopes])).1
    obtain ⟨name, header, depth, flag⟩ := top
    simp only at entered
    simp [enterTop, entered]

theorem openAt_eq {depth : Int} (above : state.depth ≤ depth) :
    openAt depth state.scopes = state.scopes := by
  unfold openAt
  cases scopes : state.scopes with
  | nil => rfl
  | cons top outer =>
    have deeper := (settled top (by simp [scopes])).2
    rw [List.dropWhile_cons_of_neg]
    simp only [Bool.and_eq_true, decide_eq_true_eq, not_and]
    omega

theorem advance_of_le {depth : Int} (reached : state.depth + braceBalance line = depth)
    (above : state.depth ≤ depth) : state.advance line = ⟨state.scopes, depth⟩ := by
  rw [advance_eq reached, settled.enterTop_eq, ite_self, settled.openAt_eq above]

theorem advance_level (balance : braceBalance line = 0) : state.advance line = state :=
  settled.advance_of_le (by omega) (Int.le_refl _)

theorem advance_rise (balance : braceBalance line = 1) : state.advance line = state.rise :=
  settled.advance_of_le (by omega) (by omega)

theorem advance_fall (balance : braceBalance line = -1) : state.rise.advance line = state := by
  have reached : state.rise.depth + braceBalance line = state.depth := by
    change state.depth + 1 + _ = _
    omega
  rw [advance_eq reached, settled.rise.enterTop_eq, ite_self]
  exact congrArg (ClassScopes.mk · state.depth) (settled.openAt_eq (Int.le_refl _))

theorem advance_leave {name : Text} {header : α} (balance : braceBalance line = -1) :
    (state.enter name header).advance line = state := by
  have reached : (state.enter name header).depth + braceBalance line = state.depth := by
    change state.depth + 1 + _ = _
    omega
  rw [advance_eq reached, (settled_enter name header).enterTop_eq, ite_self, enter, openAt,
    List.dropWhile_cons_of_pos (by simp)]
  exact congrArg (ClassScopes.mk · state.depth) (settled.openAt_eq (Int.le_refl _))

end Settled

theorem advance_openClass {name : Text} {header : α} (balance : braceBalance line = 1) :
    (state.openClass name header).advance line = state.enter name header := by
  have reached : (state.openClass name header).depth + braceBalance line = state.depth + 1 := by
    change state.depth + _ = _
    omega
  have above : ¬ state.depth + 1 ≤ state.depth := by omega
  rw [advance_eq reached, if_pos (braceCounts_pos_of_rise (by omega)), openClass, enterTop, openAt,
    List.dropWhile_cons_of_neg (by simp [above]), enter]

theorem advance_openClass_of_braceless {name : Text} {header : α}
    (braceless : braceCounts line = (0, 0)) :
    (state.openClass name header).advance line = state.openClass name header := by
  have reached : (state.openClass name header).depth + braceBalance line = state.depth := by
    simp [braceBalance, braceless, openClass]
  rw [advance_eq reached, braceless, if_neg (by decide), openClass, openAt,
    List.dropWhile_cons_of_neg (by simp)]

end ClassScopes

end RouteAtlas
