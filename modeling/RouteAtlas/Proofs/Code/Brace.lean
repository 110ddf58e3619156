import RouteAtlas.Code.Brace

namespace RouteAtlas

/-- Adds no brace to a line, and opens nothing that it does not close. -/
def Calm (text : Text) : Prop :=
  ∀ previous rest, ∃ last code, codeOf (.code previous) (text ++ rest) =
    code ++ codeOf (.code last) rest ∧ '{' ∉ code ∧ '}' ∉ code

def isPlain (c : Char) : Bool := !Zone.isQuote c && !(['/', '{', '}'].contains c)

namespace Calm

theorem nil : Calm [] :=
  fun previous _ => ⟨previous, [], rfl, by simp, by simp⟩

theorem cons {c : Char} {text : Text} (plain : isPlain c) (calm : Calm text) : Calm (c :: text) := by
  have apart : Zone.isQuote c = false ∧ c ≠ '/' ∧ c ≠ '{' ∧ c ≠ '}' := by
    simpa [isPlain] using plain
  obtain ⟨quote, slash, opens, closes⟩ := apart
  intro previous rest
  obtain ⟨last, code, same, noOpen, noClose⟩ := calm c rest
  refine ⟨last, c :: code, ?_, ?_, ?_⟩
  · simp [codeOf, Zone.isCode, Zone.step, quote, slash, same]
  · simp [noOpen, Ne.symm opens]
  · simp [noClose, Ne.symm closes]

theorem append {left right : Text} (first : Calm left) (second : Calm right) :
    Calm (left ++ right) := by
  intro previous rest
  obtain ⟨middle, before, sameBefore, openBefore, closeBefore⟩ := first previous (right ++ rest)
  obtain ⟨last, after, sameAfter, openAfter, closeAfter⟩ := second middle rest
  refine ⟨last, before ++ after, ?_, ?_, ?_⟩
  · rw [List.append_assoc, sameBefore, sameAfter, List.append_assoc]
  · simp [openBefore, openAfter]
  · simp [closeBefore, closeAfter]

theorem of_plain {text : Text} (plain : text.all isPlain) : Calm text := by
  induction text with
  | nil => exact nil
  | cons c text ih =>
    rw [List.all_cons, Bool.and_eq_true] at plain
    exact cons plain.1 (ih plain.2)

theorem of_accepted {accepts : Char → Bool} {text : Text} (inside : ∀ c ∈ text, accepts c)
    (outside : ['"', '\'', '\x60', '/', '{', '}'].all fun c => !accepts c) : Calm text := by
  refine of_plain (List.all_eq_true.mpr fun c member => ?_)
  have differ : ∀ d ∈ ['"', '\'', '\x60', '/', '{', '}'], c ≠ d := by
    rintro d listed rfl
    have other := List.all_eq_true.mp outside c listed
    rw [inside c member] at other
    cases other
  simp [isPlain, Zone.isQuote, differ]

theorem of_blank {text : Text} (blank : ∀ c ∈ text, isBlank c) : Calm text :=
  of_accepted blank (by decide)

theorem quoted {quote : Char} {text : Text} (opens : Zone.isQuote quote)
    (inside : ∀ c ∈ text, c ≠ quote ∧ c ≠ '\\') : Calm (quote :: (text ++ [quote])) := by
  intro previous rest
  have closes : codeOf (.quoted quote false) (text ++ quote :: rest) =
      codeOf (.code quote) rest := by
    induction text with
    | nil =>
      have same : quote ≠ '\\' := by
        rintro rfl
        revert opens
        decide
      simp [codeOf, Zone.isCode, Zone.step, same]
    | cons c text ih =>
      obtain ⟨differ, plain⟩ := inside c (by simp)
      have later := ih fun d member => inside d (by simp [member])
      simpa [codeOf, Zone.isCode, Zone.step, differ, plain] using later
  refine ⟨quote, [quote], ?_, ?_, ?_⟩
  · simpa [codeOf, Zone.isCode, Zone.step, opens] using closes
  · rw [List.mem_singleton]
    rintro rfl
    revert opens
    decide
  · rw [List.mem_singleton]
    rintro rfl
    revert opens
    decide

theorem braceCounts_eq {text : Text} (calm : Calm text) : braceCounts text = (0, 0) := by
  obtain ⟨last, code, same, noOpen, noClose⟩ := calm '\x00' []
  rw [List.append_nil] at same
  simp [braceCounts, same, codeOf, List.count_eq_zero_of_not_mem noOpen,
    List.count_eq_zero_of_not_mem noClose]

theorem braceBalance_eq {text : Text} (calm : Calm text) : braceBalance text = 0 := by
  simp [braceBalance, calm.braceCounts_eq]

section Single

variable {left right : Text} (before : Calm left) (after : Calm right)
include before after

theorem exists_code_around {brace : Char} (single : brace = '{' ∨ brace = '}') :
    ∃ front back, codeOf (.code '\x00') (left ++ brace :: right) = front ++ brace :: back ∧
      '{' ∉ front ++ back ∧ '}' ∉ front ++ back := by
  obtain ⟨last, front, sameFront, openFront, closeFront⟩ := before '\x00' (brace :: right)
  obtain ⟨stop, back, sameBack, openBack, closeBack⟩ := after brace []
  refine ⟨front, back, ?_, by simp [openFront, openBack], by simp [closeFront, closeBack]⟩
  have step : codeOf (.code last) (brace :: right) = brace :: back := by
    rw [List.append_nil] at sameBack
    rcases single with rfl | rfl <;> simp [codeOf, Zone.isCode, Zone.step, Zone.isQuote, sameBack]
  rw [sameFront, step]

theorem braceCounts_single {brace : Char} (single : brace = '{' ∨ brace = '}') :
    braceCounts (left ++ brace :: right) = braceCounts [brace] := by
  obtain ⟨front, back, same, noOpen, noClose⟩ := before.exists_code_around after single
  have alone : codeOf (.code '\x00') [brace] = [brace] := by
    rcases single with rfl | rfl <;> rfl
  have count : ∀ c ∉ front ++ back, (front ++ brace :: back).count c = [brace].count c := by
    intro c outside
    rw [List.mem_append, not_or] at outside
    simp [List.count_cons, List.count_eq_zero_of_not_mem outside.1,
      List.count_eq_zero_of_not_mem outside.2]
  simp only [braceCounts, same, alone, count _ noOpen, count _ noClose]

theorem braceBalance_single {brace : Char} (single : brace = '{' ∨ brace = '}') :
    braceBalance (left ++ brace :: right) = braceBalance [brace] := by
  rw [braceBalance, before.braceCounts_single after single]
  rfl

end Single

end Calm

end RouteAtlas
