import RouteAtlas.Proofs.Code.Nesting

namespace RouteAtlas.ClassScopes

variable {α : Type} {state : ClassScopes α} {scopes : List (ClassScope α)} {line : Text}

/-- No class that has been entered lies below one that has not. -/
def Unblocked (state : ClassScopes α) : Prop :=
  state.scopes.Pairwise fun inner outer => outer.entered → inner.entered

/-- Each header is followed by its body: by lines without braces, and then by a line that opens one. -/
inductive Bodied : List (Step α) → Prop where
  | nil : Bodied []
  | line {steps : List (Step α)} (text : Text) : Bodied steps → Bodied (.line text :: steps)
  | header {steps : List (Step α)} (name : Text) (header : α) {gap : List Text} {opening : Text} :
    (∀ line ∈ gap, braceCounts line = (0, 0)) → 0 < (braceCounts opening).1 → Bodied steps →
      Bodied (.header name header :: (gap.map .line ++ .line opening :: steps))

section Entered

theorem proper_openAt (entered : ∀ scope ∈ scopes, scope.entered)
    (ordered : scopes.Pairwise fun inner outer => outer.openDepth < inner.openDepth) (depth : Int) :
    (⟨openAt depth scopes, depth⟩ : ClassScopes α).Proper := by
  have suffix : openAt depth scopes <:+ scopes := List.dropWhile_suffix _
  refine ⟨fun scope member => entered scope (suffix.subset member), ?_, ordered.sublist suffix.sublist⟩
  intro scope member
  induction scopes with
  | nil => cases member
  | cons top outer ih =>
    obtain ⟨above, later⟩ := List.pairwise_cons.mp ordered
    simp only [openAt, List.dropWhile_cons, entered top List.mem_cons_self, Bool.true_and,
      decide_eq_true_eq] at member
    split at member
    · exact ih (fun other inside => entered other (List.mem_cons_of_mem top inside)) later
        (List.dropWhile_suffix _) member
    · -- this class is open at the depth, and the ones around it even more so
      rename_i stays
      rcases List.mem_cons.mp member with rfl | inside
      · exact Int.not_le.mp stays
      · exact Int.lt_trans (above scope inside) (Int.not_le.mp stays)

theorem proper_empty : (empty : ClassScopes α).Proper := ⟨by simp [empty], by simp [empty], .nil⟩

theorem Proper.advance (proper : state.Proper) (line : Text) : (state.advance line).Proper := by
  rw [advance_eq rfl, proper.settled.enterTop_eq, ite_self]
  exact proper_openAt proper.entered proper.ordered _

theorem Proper.advance_openClass (proper : state.Proper) (name : Text) (header : α)
    (opens : 0 < (braceCounts line).1) : ((state.openClass name header).advance line).Proper := by
  rw [advance_eq rfl, if_pos opens]
  refine proper_openAt ?_ (.cons proper.below proper.ordered) _
  intro scope member
  rcases List.mem_cons.mp member with rfl | inside
  · rfl
  · exact proper.entered scope inside

def BodiesOpen (state : ClassScopes α) : Prop :=
  ∀ scope ∈ state.scopes, scope.entered → scope.openDepth < state.depth

theorem Proper.bodiesOpen (proper : state.Proper) : state.BodiesOpen :=
  fun scope member _ => proper.below scope member

theorem Proper.bodiesOpen_openClass (proper : state.Proper) (name : Text) (header : α) :
    (state.openClass name header).BodiesOpen := by
  intro scope member entered
  rcases List.mem_cons.mp member with rfl | inside
  · cases entered
  · exact proper.below scope inside

theorem Bodied.bodiesOpen {steps before : List (Step α)} (bodied : Bodied steps)
    (proper : state.Proper) (start : before <+: steps) : (state.run before).BodiesOpen := by
  induction bodied generalizing state before with
  | nil =>
    rw [List.prefix_nil.mp start]
    exact proper.bodiesOpen
  | line text _ ih =>
    rcases List.prefix_cons_iff.mp start with rfl | ⟨rest, rfl, inside⟩
    · exact proper.bodiesOpen
    · have later := ih (proper.advance text) inside
      exact later
  | @header steps name header gap opening braceless opens _ ih =>
    rcases List.prefix_cons_iff.mp start with rfl | ⟨rest, rfl, inside⟩
    · exact proper.bodiesOpen
    have waits : ∀ lines : List Text, (∀ line ∈ lines, line ∈ gap) →
        (state.openClass name header).run (lines.map .line) = state.openClass name header :=
      fun lines among => (Leads.still fun line member =>
        advance_openClass_of_braceless (braceless line (among line member))).1
    rcases List.prefix_or_prefix_of_prefix inside
      (List.prefix_append (gap.map Step.line) (.line opening :: steps)) with within | ⟨behind, rfl⟩
    · -- still in front of the opening brace
      obtain ⟨lines, shorter, rfl⟩ := List.prefix_map_iff.mp within
      have kept := waits lines fun line member => shorter.subset member
      change ((state.openClass name header).run (lines.map .line)).BodiesOpen
      rw [kept]
      exact proper.bodiesOpen_openClass name header
    · have kept := waits gap fun line member => member
      have split : state.run (.header name header :: (gap.map .line ++ behind)) =
          (state.openClass name header).run behind := by
        change (gap.map Step.line ++ behind).foldl step (state.openClass name header) = _
        rw [List.foldl_append]
        exact congrArg (run · behind) kept
      rw [split]
      rcases List.prefix_cons_iff.mp ((List.prefix_append_right_inj _).mp inside) with
        rfl | ⟨others, rfl, later⟩
      · exact proper.bodiesOpen_openClass name header
      · have settles := ih (proper.advance_openClass name header opens) later
        exact settles

end Entered

section Blocked

theorem unblocked_openAt {depth : Int} (unblocked : (⟨scopes, depth⟩ : ClassScopes α).Unblocked)
    (reached : Int) : (⟨openAt reached scopes, reached⟩ : ClassScopes α).Unblocked :=
  List.Pairwise.sublist (List.dropWhile_suffix _).sublist unblocked

theorem Unblocked.enterTop {depth : Int} (unblocked : (⟨scopes, depth⟩ : ClassScopes α).Unblocked) :
    (⟨enterTop scopes, depth⟩ : ClassScopes α).Unblocked := by
  cases scopes with
  | nil => exact unblocked
  | cons top outer =>
    obtain ⟨_, later⟩ := List.pairwise_cons.mp unblocked
    exact .cons (fun _ _ _ => rfl) later

theorem Unblocked.advance (unblocked : state.Unblocked) (line : Text) :
    (state.advance line).Unblocked := by
  rw [advance_eq rfl]
  have same : (⟨if 0 < (braceCounts line).1 then ClassScopes.enterTop state.scopes else state.scopes,
      state.depth⟩ : ClassScopes α).Unblocked := by
    split
    · exact unblocked.enterTop
    · exact unblocked
  exact unblocked_openAt same _

/-- Only the innermost class decides whether all that have been entered are open. -/
theorem Unblocked.current_open {scope : ClassScope α} (unblocked : state.Unblocked) (line : Text)
    (current : (state.advance line).current? = some scope) :
    scope.openDepth < (state.advance line).depth := by
  have still := unblocked.advance line
  rw [advance_eq rfl] at still current ⊢
  generalize (if 0 < (braceCounts line).1 then ClassScopes.enterTop state.scopes else state.scopes) =
    scopes at still current ⊢
  generalize state.depth + braceBalance line = depth at still current ⊢
  cases left : openAt depth scopes with
  | nil =>
    rw [left] at current
    cases current
  | cons top outer =>
    rw [left] at still current
    obtain ⟨above, _⟩ := List.pairwise_cons.mp still
    have entered : scope.entered := List.find?_some current
    have first : top.entered := by
      rcases List.mem_cons.mp (List.mem_of_find?_eq_some current) with rfl | inside
      · exact entered
      · exact above scope inside entered
    obtain rfl : top = scope := by
      simpa [current?, first] using current
    -- the class on top would have been closed otherwise
    have kept := List.head?_dropWhile_not (fun top => top.entered && depth ≤ top.openDepth) scopes
    rw [show scopes.dropWhile _ = top :: outer from left] at kept
    simpa [first] using kept

theorem exists_depth_le (scopes : List (ClassScope α)) (depth : Int) :
    ∃ count : Nat, ∀ scope ∈ scopes, depth - count ≤ scope.openDepth := by
  induction scopes with
  | nil => exact ⟨0, by simp⟩
  | cons top outer ih =>
    obtain ⟨count, deep⟩ := ih
    refine ⟨count + (depth - top.openDepth).toNat, fun scope member => ?_⟩
    rcases List.mem_cons.mp member with rfl | inside
    · omega
    · have bound := deep scope inside
      omega

theorem braceCounts_closing (count : Nat) : braceCounts (List.replicate count '}') = (0, count) := by
  have code : ∀ previous, codeOf (.code previous) (List.replicate count '}') =
      List.replicate count '}' := by
    induction count with
    | zero => exact fun _ => rfl
    | succ count ih =>
      intro previous
      simp [List.replicate_succ, codeOf, Zone.isCode, Zone.step, Zone.isQuote, ih]
  simp [braceCounts, code, List.count_replicate]

theorem unblocked_of_open (always : ∀ line scope, (state.advance line).current? = some scope →
    scope.openDepth < (state.advance line).depth) : state.Unblocked := by
  obtain ⟨count, deep⟩ := exists_depth_le state.scopes state.depth
  have counts := braceCounts_closing count
  have reached : state.depth + braceBalance (List.replicate count '}') = state.depth - count := by
    simp only [braceBalance, counts]
    omega
  have after : state.advance (List.replicate count '}') =
      ⟨openAt (state.depth - count) state.scopes, state.depth - count⟩ := by
    rw [advance_eq reached, counts, if_neg (Nat.lt_irrefl 0)]
  have suffix : openAt (state.depth - count) state.scopes <:+ state.scopes := List.dropWhile_suffix _
  have idle : ∀ scope ∈ openAt (state.depth - count) state.scopes, ¬ scope.entered := by
    apply List.find?_eq_none.mp
    rw [Option.eq_none_iff_forall_ne_some]
    intro scope current
    have opened := always (List.replicate count '}') scope (by rwa [after])
    rw [after] at opened
    have bound := deep scope (suffix.subset (List.mem_of_find?_eq_some current))
    exact absurd opened (Int.not_lt.mpr bound)
  -- what has been closed had been entered
  have closed : ∀ scope ∈ state.scopes.takeWhile fun top =>
      top.entered && state.depth - count ≤ top.openDepth, scope.entered := by
    intro scope member
    have both := List.all_eq_true.mp List.all_takeWhile scope member
    rw [Bool.and_eq_true] at both
    exact both.1
  unfold Unblocked
  rw [← List.takeWhile_append_dropWhile (l := state.scopes)
    (p := fun top => top.entered && state.depth - count ≤ top.openDepth), List.pairwise_append]
  refine ⟨?_, ?_, ?_⟩
  · exact List.pairwise_of_forall_mem_list fun inner inside outer _ _ => closed inner inside
  · exact List.pairwise_of_forall_mem_list fun inner _ outer inside entered =>
      absurd entered (idle outer inside)
  · exact fun inner inside outer _ _ => closed inner inside

end Blocked

/-- Whatever has been read, the innermost class is open behind the next line, whichever line that is, just
when no class that has been entered lies below one that has not. Where each header is followed by its
body, all classes that have been entered are open at every step, so that the brace depth stays above that
of their headers from their opening brace on. -/
theorem open_of_current (steps : List (Step α)) :
    ((∀ line scope, ((run empty steps).advance line).current? = some scope →
      scope.openDepth < ((run empty steps).advance line).depth) ↔ (run empty steps).Unblocked) ∧
    (Bodied steps → ∀ before, before <+: steps → ∀ scope ∈ (run empty before).scopes,
      scope.entered → scope.openDepth < (run empty before).depth) := by
  constructor
  · constructor
    · exact unblocked_of_open
    · intro unblocked line scope current
      exact unblocked.current_open line current
  · intro bodied before start
    exact bodied.bodiesOpen proper_empty start

def nestedBodies : List (Step Nat) :=
  [.header "A" 1, .line "class A \x7b", .line "  void a() \x7b", .line "  \x7d", .header "B" 2,
    .line "  static class B", .line "  // inner", .line "  \x7b", .line "  \x7d\x7d", .line "\x7d"]

theorem open_of_current_of_nestedBodies : Bodied nestedBodies ∧
    ∀ before, before <+: nestedBodies → ∀ scope ∈ (run empty before).scopes,
      scope.entered → scope.openDepth < (run empty before).depth := by
  have atOnce : ∀ line ∈ ([] : List Text), braceCounts line = (0, 0) := by simp
  have late : ∀ line ∈ (["  static class B", "  // inner"] : List Text),
      braceCounts line = (0, 0) := by decide
  have inner : Bodied (nestedBodies.drop 4) :=
    .header "B" 2 late (by decide) (.line _ (.line _ .nil))
  have bodied : Bodied nestedBodies :=
    .header "A" 1 atOnce (by decide) (.line _ (.line _ inner))
  exact ⟨bodied, (open_of_current nestedBodies).2 bodied⟩

/-- A class whose closing brace is followed by a remark that reads like a header. -/
def remarkedBrace : List (Step Nat) :=
  [.header "A" 1, .line "public class A \x7b", .header "A" 2, .line "\x7d // class A"]

theorem current_behind_closing_brace : ∃ scope, (run empty remarkedBrace).current? = some scope ∧
    ¬ scope.openDepth < (run empty remarkedBrace).depth :=
  ⟨⟨"A", 1, 0, true⟩, by decide, by decide⟩

end RouteAtlas.ClassScopes
