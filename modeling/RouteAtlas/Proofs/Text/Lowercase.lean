import Mathlib.Data.List.Infix
import RouteAtlas.Text.Basic
import RouteAtlas.Text.Lowercase

namespace RouteAtlas

namespace Text

variable {text needle front back : Text}

theorem contains_iff_infix : contains text needle = true ↔ needle <:+: text := by
  induction text with
  | nil => simp [contains]
  | cons c text ih =>
    rw [contains, Bool.or_eq_true, ih, List.isPrefixOf_iff_prefix, List.infix_cons_iff]

end Text

/-- Lower-cases a text that follows `before` (nearest first) and precedes `after`. -/
def lowerBetween (before : Text) : (text after : Text) → Text
  | [], _ => []
  | c :: rest, after => lowerChar before c (rest ++ after) ++ lowerBetween (c :: before) rest after

def isDecided (text : Text) : Bool := text.any fun c => !inRanges caseIgnorableRanges c.toNat

/-- True when a capital sigma between these texts has one form, whatever stands further out. -/
def settlesSigma (before after : Text) : Bool :=
  (isDecided before && (isDecided after || !startsCased before)) ||
    (isDecided after && startsCased after)

/-- Each capital sigma of the text has one form, whatever stands around the text. -/
def Settled (text : Text) : Prop :=
  ∀ front back, text = front ++ 'Σ' :: back → settlesSigma front.reverse back

variable {text front back before after : Text} {c : Char}

theorem settled_iff : Settled text ↔ ∀ n < text.length, text[n]? = some 'Σ' →
    settlesSigma (text.take n).reverse (text.drop (n + 1)) := by
  constructor
  · intro settled n inside here
    refine settled _ _ ?_
    rw [List.getElem?_eq_getElem inside, Option.some.injEq] at here
    rw [← here, List.getElem_cons_drop, List.take_append_drop]
  · rintro each front back rfl
    simpa using each front.length (by simp) (by simp)

instance (text : Text) : Decidable (Settled text) := decidable_of_iff _ settled_iff.symm

theorem settled_of_not_mem (free : 'Σ' ∉ text) : Settled text := by
  rintro front back rfl
  simp at free

theorem startsCased_append : startsCased (front ++ back) =
    if isDecided front then startsCased front else startsCased back := by
  induction front with
  | nil => rfl
  | cons c front ih =>
    rw [List.cons_append, startsCased, startsCased, isDecided, List.any_cons, ih]
    cases inRanges caseIgnorableRanges c.toNat <;> simp [isDecided]

theorem startsCased_of_not_decided (undecided : isDecided text = false) : startsCased text = false := by
  have same : startsCased (text ++ []) = startsCased [] := by
    rw [startsCased_append, undecided]
    rfl
  rwa [List.append_nil] at same

theorem lowerChar_sigma : lowerChar before 'Σ' after =
    [if startsCased before && !startsCased after then 'ς' else 'σ'] := rfl

theorem lowerChar_of_ne (other : c ≠ 'Σ') (before after : Text) :
    lowerChar before c after = lowerChar [] c [] := by
  simp [lowerChar, other]

theorem lowerFrom_append (before text after : Text) : lowerFrom before (text ++ after) =
    lowerBetween before text after ++ lowerFrom (text.reverse ++ before) after := by
  induction text generalizing before with
  | nil => rfl
  | cons c text ih => simp [lowerFrom, lowerBetween, ih]

theorem lowerFrom_eq_between (before text : Text) : lowerFrom before text = lowerBetween before text [] := by
  have whole := lowerFrom_append before text []
  rwa [List.append_nil, lowerFrom, List.append_nil] at whole

theorem lowerBetween_append (before front back after : Text) :
    lowerBetween before (front ++ back) after = lowerBetween before front (back ++ after) ++
      lowerBetween (front.reverse ++ before) back after := by
  induction front generalizing before with
  | nil => rfl
  | cons c front ih => simp [lowerBetween, ih]

theorem length_lowerBetween (text before after outer further : Text) :
    (lowerBetween before text after).length = (lowerBetween outer text further).length := by
  induction text generalizing before outer with
  | nil => rfl
  | cons c text ih =>
    have one : (lowerChar before c (text ++ after)).length =
        (lowerChar outer c (text ++ further)).length := by
      by_cases sigma : c = 'Σ'
      · subst sigma
        rfl
      · rw [lowerChar_of_ne sigma, lowerChar_of_ne sigma outer]
    rw [lowerBetween, lowerBetween, List.length_append, List.length_append, one, ih]

theorem lowerChar_settled (settled : settlesSigma front back) (before after : Text) :
    lowerChar (front ++ before) 'Σ' (back ++ after) = lowerChar front 'Σ' back := by
  rw [lowerChar_sigma, lowerChar_sigma, startsCased_append, startsCased_append]
  simp only [settlesSigma] at settled
  cases left : isDecided front <;> cases right : isDecided back <;>
    simp [left, right, startsCased_of_not_decided] at settled ⊢ <;> simp [settled]

/-- A settled text has one lower-case form. -/
theorem Settled.lowerBetween_eq (settled : Settled text) (before after : Text) :
    lowerBetween before text after = lower text := by
  -- by induction on what is still to be lowered, with what a sigma looks back at in front
  have rest : ∀ front back, text = front ++ back →
      lowerBetween (front.reverse ++ before) back after = lowerBetween front.reverse back [] := by
    intro front back split
    induction back generalizing front with
    | nil => rfl
    | cons c back ih =>
      have later := ih (front ++ [c]) (by simp [split])
      rw [List.reverse_append] at later
      have here : lowerChar (front.reverse ++ before) c (back ++ after) =
          lowerChar front.reverse c (back ++ []) := by
        rw [List.append_nil]
        by_cases sigma : c = 'Σ'
        · subst sigma
          exact lowerChar_settled (settled front back split) before after
        · rw [lowerChar_of_ne sigma, lowerChar_of_ne sigma front.reverse]
      rw [lowerBetween, lowerBetween, here]
      exact congrArg _ later
  rw [lower, lowerFrom_eq_between]
  exact rest [] text rfl

theorem Settled.lower_infix (settled : Settled text) {whole : Text} (inside : text <:+: whole) :
    lower text <:+: lower whole := by
  obtain ⟨front, back, rfl⟩ := inside
  have parts : lower (front ++ text ++ back) = lowerBetween [] front (text ++ back) ++
      (lower text ++ lowerFrom (text.reverse ++ front.reverse) back) := by
    rw [lower, List.append_assoc, lowerFrom_append, lowerFrom_append, List.append_nil,
      settled.lowerBetween_eq]
  rw [parts, ← List.append_assoc]
  exact List.infix_append _ _ _

section Unsettled

theorem toNat_ofNat_cases (code : Nat) :
    (Char.ofNat code).toNat = code ∨ (Char.ofNat code).toNat = 0 := by
  by_cases valid : code.isValidChar
  · left
    rw [Char.ofNat, dif_pos valid]
    rfl
  · right
    rw [Char.ofNat, dif_neg valid]
    rfl

theorem lowerCode_ne {code : Nat} (high : 128 ≤ code) : lowerCode code ≠ 97 := by
  have images : ∀ run ∈ lowerRuns, 97 < run.2.2.2 := by decide +kernel
  unfold lowerCode
  split
  · rename_i first last step image found
    have bound := images _ (List.mem_of_find?_eq_some found)
    dsimp only at bound
    omega
  · omega

theorem not_mem_lowerChar (ignorable : inRanges caseIgnorableRanges c.toNat) (before after : Text) :
    'a' ∉ lowerChar before c after := by
  have letters : ∀ code < 128, (Char.ofNat code).toLower = 'a' →
      inRanges caseIgnorableRanges code = false := by
    decide +kernel
  unfold lowerChar
  split
  · rename_i low
    rw [List.mem_singleton]
    intro same
    have letter := letters c.toNat low (by rw [Char.ofNat_toNat, same])
    rw [ignorable] at letter
    cases letter
  · rename_i high
    split
    · split <;> decide
    · split
      · decide
      · rw [List.mem_singleton]
        intro same
        rcases toNat_ofNat_cases (lowerCode c.toNat) with code | zero
        · rw [← same] at code
          exact lowerCode_ne (Nat.le_of_not_lt high) code.symm
        · rw [← same] at zero
          cases zero

theorem lowerChar_ne_nil (before : Text) (c : Char) (after : Text) : lowerChar before c after ≠ [] := by
  unfold lowerChar
  split
  · exact List.cons_ne_nil _ _
  · split
    · exact List.cons_ne_nil _ _
    · split <;> exact List.cons_ne_nil _ _

/-- A text that starts or ends at a sigma, or at a character that is looked through, does not get an `a`
there. -/
theorem not_mem_lowerChar_edge (edge : c = 'Σ' ∨ inRanges caseIgnorableRanges c.toNat)
    (before after : Text) : 'a' ∉ lowerChar before c after := by
  rcases edge with rfl | ignorable
  · rw [lowerChar_sigma]
    split <;> decide
  · exact not_mem_lowerChar ignorable before after

theorem cases_of_not_settlesSigma (unsettled : settlesSigma before after = false) :
    (isDecided before = false ∧
      lowerChar (before ++ ['a']) 'Σ' (after ++ []) ≠ lowerChar before 'Σ' after) ∨
    (isDecided after = false ∧
      lowerChar (before ++ []) 'Σ' (after ++ ['a']) ≠ lowerChar before 'Σ' after) := by
  have small : startsCased ['a'] = true := by decide +kernel
  simp only [lowerChar_sigma, startsCased_append, List.append_nil, small]
  simp only [settlesSigma] at unsettled
  cases left : isDecided before <;> cases right : isDecided after <;>
    simp [left, right, startsCased_of_not_decided] at unsettled ⊢ <;> simp [unsettled]

theorem lowerBetween_ne {outer further : Text} (split : text = front ++ 'Σ' :: back)
    (moved : lowerChar (front.reverse ++ outer) 'Σ' (back ++ further) ≠
      lowerChar front.reverse 'Σ' back) : lowerBetween outer text further ≠ lower text := by
  intro same
  rw [lower, lowerFrom_eq_between, split, lowerBetween_append, lowerBetween_append, lowerBetween,
    lowerBetween, List.append_nil, List.append_nil] at same
  have rest := (List.append_inj same (length_lowerBetween front _ _ _ _)).2
  rw [List.append_nil] at rest
  exact moved (List.append_inj rest rfl).1

theorem length_lower (text outer further : Text) :
    (lower text).length = (lowerBetween outer text further).length := by
  rw [lower, lowerFrom_eq_between]
  exact length_lowerBetween text _ _ _ _

theorem lower_ne_nil (split : text = front ++ 'Σ' :: back) : lower text ≠ [] := by
  rw [split, lower, lowerFrom_append, lowerFrom, lowerChar_sigma]
  simp

theorem sigma_mem_lower (member : 'Σ' ∈ text) : 'σ' ∈ lower text ∨ 'ς' ∈ lower text := by
  obtain ⟨front, back, rfl⟩ := List.append_of_mem member
  rw [lower, lowerFrom_append, lowerFrom, lowerChar_sigma]
  split <;> simp

theorem ignorable_of_not_decided (undecided : isDecided text = false) (member : c ∈ text) :
    inRanges caseIgnorableRanges c.toNat := by
  have each := List.any_eq_false.mp undecided c member
  simpa using each

theorem lower_ne_cons {tail : Text} (edge : c = 'Σ' ∨ inRanges caseIgnorableRanges c.toNat) :
    lower (c :: text) ≠ 'a' :: tail := by
  intro same
  have parts : lowerChar [] c text ++ lowerFrom [c] text = 'a' :: tail := same
  cases image : lowerChar [] c text with
  | nil => exact lowerChar_ne_nil [] c text image
  | cons d more =>
    rw [image] at parts
    have free := not_mem_lowerChar_edge edge [] text
    rw [image, (List.cons.inj parts).1] at free
    exact free List.mem_cons_self

theorem lower_ne_concat {tail : Text} (edge : c = 'Σ' ∨ inRanges caseIgnorableRanges c.toNat) :
    lower (text ++ [c]) ≠ tail ++ ['a'] := by
  intro same
  have image := lowerChar_ne_nil (text.reverse ++ []) c []
  have free := not_mem_lowerChar_edge edge (text.reverse ++ []) []
  rw [lower, lowerFrom_append, lowerFrom, lowerFrom, List.append_nil] at same
  have last := congrArg List.getLast? same
  rw [List.getLast?_append, List.getLast?_concat, List.getLast?_eq_some_getLast image, Option.some_or] at last
  exact free (Option.some.inj last ▸ List.getLast_mem image)

theorem not_infix_of_front (split : text = front ++ 'Σ' :: back) (through : isDecided front.reverse = false)
    (moved : lowerChar (front.reverse ++ ['a']) 'Σ' (back ++ []) ≠ lowerChar front.reverse 'Σ' back) :
    ¬ lower text <:+: lower ('a' :: text) := by
  intro inside
  have parts : lower ('a' :: text) = 'a' :: lowerBetween ['a'] text [] :=
    congrArg ('a' :: ·) (lowerFrom_eq_between ['a'] text)
  rw [parts, List.infix_cons_iff] at inside
  rcases inside with starts | within
  · rcases List.prefix_cons_iff.mp starts with empty | ⟨tail, same, _⟩
    · exact absurd empty (lower_ne_nil split)
    · cases front with
      | nil => exact lower_ne_cons (.inl rfl) (split ▸ same)
      | cons c front =>
        have ignorable := ignorable_of_not_decided through (List.mem_reverse.mpr List.mem_cons_self)
        exact lower_ne_cons (.inr ignorable) (split ▸ same)
  · exact lowerBetween_ne split moved (within.eq_of_length (length_lower text _ _)).symm

theorem not_infix_of_back (split : text = front ++ 'Σ' :: back) (through : isDecided back = false)
    (moved : lowerChar (front.reverse ++ []) 'Σ' (back ++ ['a']) ≠ lowerChar front.reverse 'Σ' back) :
    ¬ lower text <:+: lower (text ++ ['a']) := by
  intro inside
  have parts : lower (text ++ ['a']) = lowerBetween [] text ['a'] ++ ['a'] := by
    rw [lower, lowerFrom_append]
    rfl
  rw [parts, List.infix_concat_iff] at inside
  rcases inside with ends | within
  · rcases List.suffix_concat_iff.mp ends with empty | ⟨tail, same, _⟩
    · exact absurd empty (lower_ne_nil split)
    · rcases List.eq_nil_or_concat back with rfl | ⟨more, c, rfl⟩
      · exact lower_ne_concat (.inl rfl) (split ▸ same)
      · rw [List.concat_eq_append] at through split
        have ignorable := ignorable_of_not_decided through List.mem_concat_self
        rw [split, ← List.cons_append, ← List.append_assoc] at same
        exact lower_ne_concat (.inr ignorable) same
  · exact lowerBetween_ne split moved (within.eq_of_length (length_lower text _ _)).symm

/-- A text that is not settled has another lower-case form within some longer text. -/
theorem exists_lower_not_infix (unsettled : ¬ Settled text) :
    ∃ whole, text <:+: whole ∧ ¬ lower text <:+: lower whole := by
  have found : ∃ front back, text = front ++ 'Σ' :: back ∧ settlesSigma front.reverse back = false := by
    by_contra nowhere
    refine unsettled fun front back split => ?_
    by_contra moves
    exact nowhere ⟨front, back, split, Bool.eq_false_iff.mpr moves⟩
  obtain ⟨front, back, split, moves⟩ := found
  rcases cases_of_not_settlesSigma moves with ⟨through, moved⟩ | ⟨through, moved⟩
  · exact ⟨'a' :: text, (List.suffix_cons 'a' text).isInfix, not_infix_of_front split through moved⟩
  · exact ⟨text ++ ['a'], (List.prefix_append text ['a']).isInfix, not_infix_of_back split through moved⟩

end Unsettled

end RouteAtlas
