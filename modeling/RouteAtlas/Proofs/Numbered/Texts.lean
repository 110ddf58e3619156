import RouteAtlas.Code.Annotations
import RouteAtlas.Code.ClassScope
import RouteAtlas.Code.Indented
import RouteAtlas.Proofs.Numbered.Checked
import RouteAtlas.Text.Basic

namespace RouteAtlas.Numbered

section Literals

def firstQuoted (opens : Char → Bool) (text : Text) : Checked (Option Text) :=
  match locate? opens text with
  | none => return none
  | some (start, quote) => do
    let rest ← sliceFrom (start + 1) text
    match locate? (· == quote) rest with
    | none => return none
    | some (stop, _) => return some (← sliceUpTo stop rest)

def quotedAfter? (opens : Char → Bool) (text : Text) : Option Text :=
  match text.dropWhile (!opens ·) with
  | [] => none
  | quote :: rest => upToQuote? quote rest

variable {text : Text}

theorem upToQuote?_eq (quote : Char) (text : Text) :
    upToQuote? quote text = (text.dropWhile (!· == quote)).head?.map fun _ =>
      text.takeWhile (!· == quote) := by
  induction text with
  | nil => rfl
  | cons c rest ih =>
    by_cases ends : c = quote
    · simp [upToQuote?, ends]
    · simp [upToQuote?, ends, ih, Function.comp_def]

theorem quotedAfter?_cons (opens : Char → Bool) (c : Char) (rest : Text) :
    quotedAfter? opens (c :: rest) =
      if opens c then upToQuote? c rest else quotedAfter? opens rest := by
  cases opening : opens c <;> simp [quotedAfter?, opening]

theorem firstDoubleQuoted?_eq (text : Text) :
    firstDoubleQuoted? text = quotedAfter? (· == '"') text := by
  induction text with
  | nil => rfl
  | cons c rest ih =>
    rw [quotedAfter?_cons, firstDoubleQuoted?, ih]
    by_cases quote : c = '"' <;> simp [quote]

theorem firstLiteral?_eq (text : Text) : firstLiteral? text = quotedAfter? Indented.isQuote text := by
  induction text with
  | nil => rfl
  | cons c rest ih =>
    rw [quotedAfter?_cons, firstLiteral?, ih]
    simp [Indented.isQuote]

theorem firstQuoted_eq {opens : Char → Bool} (basic : ∀ c, opens c → c.utf8Size = 1) (text : Text) :
    firstQuoted opens text = .ok (quotedAfter? opens text) := by
  rw [firstQuoted, quotedAfter?, locate?_eq]
  cases behind : text.dropWhile (!opens ·) with
  | nil => rfl
  | cons quote rest =>
    have split : text = text.takeWhile (!opens ·) ++ quote :: rest := by
      rw [← behind, List.takeWhile_append_dropWhile]
    have opening : opens quote := by
      have stops := List.head?_dropWhile_not (!opens ·) text
      simpa [behind] using stops
    have starts : sliceFrom (Text.byteSize (text.takeWhile (!opens ·)) + 1) text = .ok rest := by
      refine sliceFrom_eq_ok_iff.mpr ⟨text.takeWhile (!opens ·) ++ [quote], ?_, ?_⟩
      · rwa [List.append_assoc]
      · rw [Text.byteSize_append, Text.byteSize, basic quote opening, Text.byteSize]
    simp only [List.head?_cons, Option.map_some, starts, ok_bind]
    rw [locate?_eq, upToQuote?_eq]
    cases ends : rest.dropWhile (!· == quote) with
    | nil => rfl
    | cons close more =>
      have inside : sliceUpTo (Text.byteSize (rest.takeWhile (!· == quote))) rest =
          .ok (rest.takeWhile (!· == quote)) := by
        have upTo := sliceUpTo_append (rest.takeWhile (!· == quote)) (rest.dropWhile (!· == quote))
        rwa [List.takeWhile_append_dropWhile] at upTo
      simp [inside]

theorem firstQuoted_double (text : Text) :
    firstQuoted (· == '"') text = .ok (firstDoubleQuoted? text) := by
  rw [firstDoubleQuoted?_eq]
  refine firstQuoted_eq (fun c opens => ?_) text
  rw [beq_iff_eq.mp opens]
  rfl

theorem firstQuoted_literal (text : Text) :
    firstQuoted Indented.isQuote text = .ok (firstLiteral? text) := by
  rw [firstLiteral?_eq]
  refine firstQuoted_eq (fun c opens => ?_) text
  rcases Bool.or_eq_true_iff.mp opens with double | single
  · rw [beq_iff_eq.mp double]
    rfl
  · rw [beq_iff_eq.mp single]
    rfl

end Literals

def indent (line : Text) : Checked Nat :=
  minus (Text.byteSize line) (Text.byteSize (Text.trimStart line))

theorem indent_eq (line : Text) : indent line = .ok (indentOf line) := by
  have size : Text.byteSize line = indentOf line + Text.byteSize (Text.trimStart line) := by
    rw [indentOf, ← Text.byteSize_append, Text.trimStart, List.takeWhile_append_dropWhile]
  rw [indent, minus, size, if_pos (Nat.le_add_left _ _), Nat.add_sub_cancel]

def afterVisibility (line : Text) : Checked (Option Text) :=
  match visibilityPattern.find? line with
  | none => return none
  | some found => return some (← sliceFrom (columnOf line found.reading.stop) line)

theorem rest_suffix_of_find? {pattern : Pattern} {text : Text} {found : Found}
    (here : pattern.find? text = some found) : found.rest <:+ text := by
  obtain ⟨left, right, split, passes⟩ := Pattern.exists_passes_of_findFrom here
  exact passes.suffix.trans ⟨left, split.symm⟩

theorem afterVisibility_eq (line : Text) : afterVisibility line = .ok (afterVisibility? line) := by
  rw [afterVisibility, afterVisibility?]
  cases here : visibilityPattern.find? line with
  | none => rfl
  | some found =>
    dsimp only
    rw [sliceFrom_eq_ok_iff.mpr (startsAt_columnOf (rest_suffix_of_find? here))]
    rfl

section Braces

/-- How many braces a text holds, in its code or not. -/
def braceCount (text : Text) : Nat := text.count '{' + text.count '}'

def countBrace : Int × Int → Char → Checked (Int × Int)
  | (opens, closes), c =>
    if c = '{' then do return (← signed (opens + 1), closes)
    else if c = '}' then do return (opens, ← signed (closes + 1))
    else return (opens, closes)

def braces (line : Text) : Checked (Int × Int) := (codeOf (.code '\x00') line).foldlM countBrace (0, 0)

/-- The number of opening braces of a line, and the brace depth behind it. -/
def descend (depth : Int) (line : Text) : Checked (Int × Int) := do
  let (opens, closes) ← braces line
  let balance ← signed (opens - closes)
  return (opens, ← signed (depth + balance))

variable {line : Text} {depth : Int}

theorem codeOf_sublist (zone : Zone) (line : Text) : (codeOf zone line).Sublist line := by
  induction line generalizing zone with
  | nil => exact List.Sublist.refl []
  | cons c rest ih =>
    rw [codeOf]
    split
    · exact (ih _).cons_cons c
    · exact (ih _).cons c

theorem braceCount_le_of_sublist {text : Text} (sublist : text.Sublist line) :
    braceCount text ≤ braceCount line :=
  Nat.add_le_add (sublist.count_le '{') (sublist.count_le '}')

theorem foldlM_countBrace (code : Text) (opens closes : Nat)
    (few : opens + closes + braceCount code < 2 ^ 31) :
    code.foldlM countBrace (opens, closes) =
      .ok (((opens + code.count '{' : Nat) : Int), ((closes + code.count '}' : Nat) : Int)) := by
  induction code generalizing opens closes with
  | nil => rfl
  | cons c code ih =>
    rw [List.foldlM_cons]
    unfold braceCount at few ih
    by_cases opening : c = '{'
    · subst opening
      simp only [List.count_cons_self, List.count_cons_of_ne (show '{' ≠ '}' by decide)] at few ⊢
      have step : countBrace (opens, closes) '{' = .ok (((opens + 1 : Nat) : Int), closes) := by
        rw [countBrace, if_pos rfl, ← Int.natCast_succ, signed_of_natAbs_lt (by omega)]
        rfl
      rw [step, ok_bind, ih (opens + 1) closes (by omega), Nat.add_assoc, Nat.add_comm 1]
    · by_cases closing : c = '}'
      · subst closing
        simp only [List.count_cons_self, List.count_cons_of_ne (show '}' ≠ '{' by decide)] at few ⊢
        have step : countBrace (opens, closes) '}' = .ok ((opens : Int), ((closes + 1 : Nat) : Int)) := by
          rw [countBrace, if_neg (by decide), if_pos rfl, ← Int.natCast_succ,
            signed_of_natAbs_lt (by omega)]
          rfl
        rw [step, ok_bind, ih opens (closes + 1) (by omega), Nat.add_assoc, Nat.add_comm 1]
      · simp only [List.count_cons_of_ne opening, List.count_cons_of_ne closing] at few ⊢
        have step : countBrace (opens, closes) c = .ok ((opens : Int), (closes : Int)) := by
          rw [countBrace, if_neg opening, if_neg closing]
          rfl
        rw [step, ok_bind, ih opens closes few]

theorem braces_eq (few : braceCount line < 2 ^ 31) :
    braces line = .ok (((braceCounts line).1 : Int), ((braceCounts line).2 : Int)) := by
  have fewer := braceCount_le_of_sublist (codeOf_sublist (.code '\x00') line)
  have counted := foldlM_countBrace (codeOf (.code '\x00') line) 0 0 (by omega)
  rw [Nat.zero_add, Nat.zero_add] at counted
  exact counted

theorem natAbs_braceBalance_le (line : Text) : (braceBalance line).natAbs ≤ braceCount line := by
  have fewer := braceCount_le_of_sublist (codeOf_sublist (.code '\x00') line)
  unfold braceBalance braceCounts
  unfold braceCount at fewer ⊢
  dsimp only
  omega

theorem descend_eq (few : depth.natAbs + braceCount line < 2 ^ 31) :
    descend depth line = .ok (((braceCounts line).1 : Int), depth + braceBalance line) := by
  have balance := natAbs_braceBalance_le line
  unfold braceBalance at balance ⊢
  rw [descend, braces_eq (by omega), ok_bind]
  dsimp only
  rw [signed_of_natAbs_lt (by omega), ok_bind, signed_of_natAbs_lt (by omega)]
  rfl

theorem sum_braceCount (lines : List Text) : (lines.map braceCount).sum = braceCount lines.flatten := by
  induction lines with
  | nil => rfl
  | cons line lines ih =>
    rw [List.map_cons, List.sum_cons, ih, List.flatten_cons]
    simp only [braceCount, List.count_append]
    omega

theorem flatten_splitOn_sublist (separator : Char) (text : Text) :
    (Text.splitOn separator text).flatten.Sublist text := by
  induction text with
  | nil => exact List.Sublist.refl []
  | cons c text ih =>
    by_cases same : c = separator
    · subst same
      rw [Text.splitOn_cons_self]
      exact ih.cons c
    · rw [Text.splitOn_cons_of_ne same]
      cases pieces : Text.splitOn separator text with
      | nil => exact absurd pieces (Text.splitOn_ne_nil text)
      | cons piece more =>
        rw [pieces] at ih
        exact ih.cons_cons c

theorem flatten_linesOfPieces_sublist (pieces : List Text) :
    (Text.linesOfPieces pieces).flatten.Sublist pieces.flatten := by
  induction pieces with
  | nil => exact List.Sublist.refl []
  | cons piece pieces ih =>
    cases pieces with
    | nil =>
      unfold Text.linesOfPieces
      split
      · exact List.nil_sublist _
      · exact List.Sublist.refl _
    | cons next pieces => exact (Text.dropReturn_prefix piece).sublist.append ih

theorem sum_braceCount_lines_le (content : Text) :
    ((Text.lines content).map braceCount).sum ≤ braceCount content := by
  rw [sum_braceCount]
  exact braceCount_le_of_sublist ((flatten_linesOfPieces_sublist _).trans (flatten_splitOn_sublist _ _))

/-- A reader of lines that is right as long as the braces that are left do not make the depth too large. -/
theorem foldlM_lines {σ : Type} {content : Text} {read : σ → Text × Nat → Checked σ}
    {value : σ → Place → σ} {initial : σ} (depth : σ → Int)
    (agree : ∀ place ∈ Place.all (Text.lines content), ∀ state,
      (depth state).natAbs + braceCount place.line < 2 ^ 31 →
        read state (place.line, place.number) = .ok (value state place))
    (moves : ∀ place state,
      (depth (value state place)).natAbs ≤ (depth state).natAbs + braceCount place.line)
    (start : depth initial = 0) (few : braceCount content < 2 ^ 31) :
    (Text.lines content).zipIdx.foldlM read initial =
      .ok ((Place.all (Text.lines content)).foldl value initial) := by
  have fewer := sum_braceCount_lines_le content
  have same : (Place.all (Text.lines content)).map (fun place => braceCount place.line) =
      (Text.lines content).map braceCount := by
    conv => rhs; rw [← Place.map_line_allFrom [] (Text.lines content), List.map_map]
    rfl
  rw [zipIdx_eq, List.foldlM_map]
  refine foldlM_eq_ok (fun state places => (∀ place ∈ places, place ∈ Place.all (Text.lines content)) ∧
    (depth state).natAbs + (places.map fun place => braceCount place.line).sum < 2 ^ 31) ?_
    ⟨fun _ member => member, by rw [same, start]; omega⟩
  intro state place places fits
  obtain ⟨among, left⟩ := fits
  rw [List.map_cons, List.sum_cons] at left
  have moved := moves place state
  exact ⟨agree place (among place List.mem_cons_self) state (by omega),
    fun other member => among other (List.mem_cons_of_mem place member), by omega⟩

end Braces

end RouteAtlas.Numbered
