import RouteAtlas.Proofs.Numbered.Checked

namespace RouteAtlas.Numbered

/-- Reads a text within a call from a column on, with what has been read of the arguments: these at its
end, or all of them and the column behind the call. -/
def scanColumns (arguments : Text) (state : CallState) (column : Nat) :
    Text → Checked (Text × CallState ⊕ Text × Nat)
  | [] => return .inl (arguments, state)
  | c :: rest =>
    if state.quote.isNone ∧ c = '(' ∧ state.depth = 0 then
      scanColumns arguments (state.step c) (column + c.utf8Size) rest
    else if state.quote.isNone ∧ c = ')' then do
      let depth ← minus state.depth 1
      if depth = 0 then return .inr (arguments, column + 1)
      else scanColumns (arguments ++ [c]) { state with depth } (column + c.utf8Size) rest
    else scanColumns (arguments ++ [c]) (state.step c) (column + c.utf8Size) rest

def scanLines (arguments : Text) (state : CallState) (number column : Nat) :
    List Text → Checked (Option CallArguments)
  | [] => return none
  | line :: below => do
    let tail ← sliceFrom column line
    match ← scanColumns arguments state column tail with
    | .inl (arguments, state) => scanLines (arguments ++ ['\n']) state (number + 1) 0 below
    | .inr (arguments, endColumn) => return some ⟨arguments, number, endColumn⟩

def callArguments (lines : List Text) (start column : Nat) : Checked (Option CallArguments) :=
  match lines[start]?.bind (Text.dropBytes? column) with
  | none => return none
  | some rest =>
    match locate? (!isBlank ·) rest with
    | none => return none
    | some (blanks, _) => do
      let line ← lineAt lines start
      let tail ← sliceFrom (column + blanks) line
      if Text.startsWith tail "(" then
        scanLines [] ⟨0, none, false⟩ start (column + blanks) ((lines.drop start).take Call.maxLines)
      else return none

variable {arguments line rest tail : Text} {state : CallState} {number column start : Nat}
  {below lines : List Text}

def scanned (arguments : Text) (column : Nat) (line : Text) :
    Except CallState Text → Text × CallState ⊕ Text × Nat
  | .error last => .inl (arguments ++ line, last)
  | .ok rest => .inr (arguments ++ Call.textBefore line rest,
      column + (Text.byteSize line - Text.byteSize rest))

section Line

variable {c : Char}

theorem scanColumns_of_closed (positive : 0 < state.depth) (closed : state.isClosedBy c) :
    scanColumns arguments state column (c :: line) = .ok (.inr (arguments, column + 1)) := by
  simp only [CallState.isClosedBy, Bool.and_eq_true, beq_iff_eq, decide_eq_true_eq] at closed
  obtain ⟨⟨code, rfl⟩, last⟩ := closed
  have one : state.depth = 1 := by omega
  simp [scanColumns, code, one, minus]

/-- A parenthesis that does not close the call leaves another one open, so that the depth is above one. -/
theorem scanColumns_of_goes (positive : 0 < state.depth) (goes : state.isClosedBy c = false) :
    scanColumns arguments state column (c :: line) =
      scanColumns (arguments ++ [c]) (state.step c) (column + c.utf8Size) line := by
  have opened : ¬ (state.quote.isNone ∧ c = '(' ∧ state.depth = 0) := by omega
  rw [scanColumns, if_neg opened]
  by_cases closing : state.quote.isNone ∧ c = ')'
  · obtain ⟨code, rfl⟩ := closing
    have deep : ¬ state.depth ≤ 1 := by simpa [CallState.isClosedBy, code] using goes
    have lowered : state.step ')' = { state with depth := state.depth - 1 } := by
      rw [CallState.step, Option.isNone_iff_eq_none.mp code]
      rfl
    have still : ¬ state.depth - 1 = 0 := by omega
    rw [if_pos ⟨code, rfl⟩, minus, if_pos (show 1 ≤ state.depth from positive), ok_bind, if_neg still,
      lowered]
  · rw [if_neg closing]

theorem scanColumns_eq (positive : 0 < state.depth) :
    scanColumns arguments state column line =
      .ok (scanned arguments column line (state.scanLine line)) := by
  induction line generalizing arguments state column with
  | nil => simp [scanColumns, CallState.scanLine, scanned]
  | cons c line ih =>
    cases goes : state.isClosedBy c with
    | true =>
      have behind := Call.textBefore_append [] line
      have size := Text.byteSize_close_sub [] line
      obtain rfl : c = ')' := ((CallState.isClosedBy_iff positive).mp goes).1
      rw [scanColumns_of_closed positive goes, CallState.scanLine, if_pos goes, scanned]
      rw [List.nil_append] at behind size
      rw [behind, size, List.append_nil]
      rfl
    | false =>
      have still := CallState.depth_step_pos positive goes
      rw [scanColumns_of_goes positive goes, ih still, CallState.scanLine, goes, if_neg (by simp)]
      cases result : (state.step c).scanLine line with
      | error last => simp [scanned]
      | ok rest =>
        obtain ⟨front, rfl, _⟩ := (CallState.scanLine_eq_ok_iff still).mp result
        have whole := Call.textBefore_append (c :: front) rest
        have size := Text.byteSize_close_sub (c :: front) rest
        rw [List.cons_append] at whole size
        rw [scanned, scanned, Call.textBefore_append, Text.byteSize_close_sub, whole, size, Text.byteSize]
        simp [Nat.add_assoc]

end Line

section Lines

variable {last : CallState}

theorem scanLines_of_ok (positive : 0 < state.depth) (starts : line.StartsAt column tail)
    (closed : state.scanLine tail = .ok rest) :
    scanLines arguments state number column (line :: below) =
      .ok (some ⟨arguments ++ Call.textBefore tail rest, number,
        Text.byteSize line - Text.byteSize rest⟩) := by
  rw [scanLines, sliceFrom_eq_ok_iff.mpr starts, ok_bind, scanColumns_eq positive, closed, scanned]
  obtain ⟨front, rfl, rfl⟩ := starts
  obtain ⟨inside, rfl, _⟩ := (CallState.scanLine_eq_ok_iff positive).mp closed
  have shorter : Text.byteSize rest ≤ Text.byteSize (inside ++ ')' :: rest) := by
    rw [Text.byteSize_append, Text.byteSize]
    omega
  rw [Text.byteSize_append front, Nat.add_sub_assoc shorter]
  rfl

theorem scanLines_of_error (positive : 0 < state.depth) (starts : line.StartsAt column tail)
    (opened : state.scanLine tail = .error last) :
    scanLines arguments state number column (line :: below) =
      scanLines (arguments ++ tail ++ ['\n']) last (number + 1) 0 below := by
  rw [scanLines, sliceFrom_eq_ok_iff.mpr starts, ok_bind, scanColumns_eq positive, opened, scanned]
  rfl

theorem scanLines_eq (positive : 0 < state.depth) (starts : line.StartsAt column tail) :
    scanLines arguments state number column (line :: below) = .ok (do
      let call ← Call.scan state tail below
      let last ← (line :: below)[call.span]?
      return ⟨arguments ++ call.text, number + call.span,
        Text.byteSize last - Text.byteSize call.rest⟩) := by
  induction below generalizing arguments state number column line tail with
  | nil =>
    cases result : state.scanLine tail with
    | ok rest =>
      rw [scanLines_of_ok positive starts result]
      simp [Call.scan, result]
    | error last =>
      rw [scanLines_of_error positive starts result]
      simp [Call.scan, result, scanLines]
  | cons next below ih =>
    cases result : state.scanLine tail with
    | ok rest =>
      rw [scanLines_of_ok positive starts result]
      simp [Call.scan, result]
    | error last =>
      obtain ⟨stays, reached⟩ := (CallState.scanLine_eq_error_iff positive).mp result
      have still : 0 < last.depth := reached ▸ stays tail (List.prefix_refl tail)
      rw [scanLines_of_error positive starts result, ih still (Text.startsAt_zero_iff.mpr rfl)]
      cases read : Call.scan last next below with
      | none => simp [Call.scan, result, read]
      | some call => simp [Call.scan, result, read, Nat.add_assoc, Nat.add_comm 1]

theorem scanLines_of_paren (starts : line.StartsAt column ('(' :: rest)) :
    scanLines arguments ⟨0, none, false⟩ number column (line :: below) =
      scanLines arguments .opened number (column + 1) (line :: below) := by
  have behind : line.StartsAt (column + 1) rest :=
    startsAt_trans starts ⟨['('], rfl, rfl⟩
  have opens : scanColumns arguments ⟨0, none, false⟩ column ('(' :: rest) =
      scanColumns arguments .opened (column + 1) rest := rfl
  rw [scanLines, scanLines, sliceFrom_eq_ok_iff.mpr starts, sliceFrom_eq_ok_iff.mpr behind, ok_bind,
    ok_bind, opens]

end Lines

theorem locate?_solid (text : Text) :
    locate? (!isBlank ·) text = (Text.trimStart text).head?.map fun c =>
      (Text.byteSize (text.takeWhile isBlank), c) := by
  rw [locate?_eq]
  simp only [Bool.not_not]
  rfl

theorem read?_eq_none_of_head? {text : Text} (other : (Text.trimStart text).head? ≠ some '(') :
    Call.read? text below = none := by
  unfold Call.read?
  split
  · rename_i opens
    rw [opens] at other
    exact absurd rfl other
  · rfl

theorem take_maxLines {line : Text} (here : lines[start]? = some line) :
    (lines.drop start).take Call.maxLines =
      line :: (lines.drop (start + 1)).take (Call.maxLines - 1) := by
  obtain ⟨inside, rfl⟩ := List.getElem?_eq_some_iff.mp here
  rw [List.drop_eq_getElem_cons inside]
  rfl

/-- A call is read by numbers as it is read from the text, and none of the numbers is ever off. -/
theorem callArguments_eq (lines : List Text) (start column : Nat) :
    callArguments lines start column = .ok (callArguments? lines start column) := by
  unfold callArguments callArguments?
  cases here : lines[start]? with
  | none => rfl
  | some line =>
  simp only [Option.bind_some, Option.bind_eq_bind]
  cases cut : Text.dropBytes? column line with
  | none => rfl
  | some text =>
  simp only [Option.bind_some, locate?_solid]
  cases solid : Text.trimStart text with
  | nil =>
    have nothing : Call.read? text (lines.drop (start + 1)) = none :=
      read?_eq_none_of_head? (by simp [solid])
    simp [nothing]
  | cons c rest =>
  have split : text = text.takeWhile isBlank ++ c :: rest := by
    rw [← solid, Text.trimStart, List.takeWhile_append_dropWhile]
  have starts : line.StartsAt (column + Text.byteSize (text.takeWhile isBlank)) (c :: rest) :=
    startsAt_trans (Text.dropBytes?_eq_some_iff.mp cut) ⟨_, split, rfl⟩
  simp only [List.head?_cons, Option.map_some, lineAt_of_getElem? here, ok_bind,
    sliceFrom_eq_ok_iff.mpr starts]
  by_cases paren : c = '('
  · subst paren
    have behind : line.StartsAt (column + Text.byteSize (text.takeWhile isBlank) + 1) rest :=
      startsAt_trans starts ⟨['('], rfl, rfl⟩
    rw [if_pos (by simp [Text.startsWith]), take_maxLines here, scanLines_of_paren starts,
      scanLines_eq (by decide) behind, Call.read?_eq_scan solid]
    cases read : Call.scan .opened rest ((lines.drop (start + 1)).take (Call.maxLines - 1)) with
    | none => rfl
    | some call =>
      have short : call.span < Call.maxLines :=
        Nat.lt_succ_of_le (Nat.le_trans (Call.span_le_of_scan read) (List.length_take_le _ _))
      have place : (line :: (lines.drop (start + 1)).take (Call.maxLines - 1))[call.span]? =
          lines[start + call.span]? := by
        rw [← take_maxLines here, List.getElem?_take_of_lt short, List.getElem?_drop]
      simp [place]
  · rw [if_neg (by simpa [Text.startsWith] using Ne.symm paren),
      read?_eq_none_of_head? (by simpa [solid] using paren)]
    rfl

section Places

variable {place : Place} {text : Text} {call : Call}

theorem callArguments_of_none (member : place ∈ Place.all lines)
    (starts : place.line.StartsAt column text) (nothing : Call.read? text place.below = none) :
    callArguments lines place.number column = .ok none := by
  have below := drop_number member 0
  rw [Nat.add_zero, List.drop_zero] at below
  rw [callArguments_eq, callArguments?, Place.getElem?_line member]
  simp [Text.dropBytes?_eq_some_iff.mpr starts, below, nothing]

/-- The line on which a call ends is there, and the rest of the call starts at its end column. -/
theorem exists_callArguments (member : place ∈ Place.all lines)
    (starts : place.line.StartsAt column text) (read : Call.read? text place.below = some call) :
    ∃ last endColumn, lines[place.number + call.span]? = some last ∧
      last.StartsAt endColumn call.rest ∧ callArguments lines place.number column =
        .ok (some ⟨call.text, place.number + call.span, endColumn⟩) := by
  have below := drop_number member 0
  rw [Nat.add_zero, List.drop_zero] at below
  obtain ⟨gap, rest, whole, ending, more, rfl, _, order, _, _, _, span⟩ := Call.read?_eq_some_iff.mp read
  obtain ⟨front, split, size⟩ := starts
  have here : lines[place.number]? = some ((front ++ gap ++ ['(']) ++ rest) := by
    rw [Place.getElem?_line member, split]
    simp
  rw [← below] at order
  obtain ⟨before, there⟩ := Call.getElem?_of_place here order
  rw [← span] at there
  refine ⟨_, Text.byteSize before + 1, there, ⟨before ++ [')'], by simp, ?_⟩, ?_⟩
  · exact Text.byteSize_append before [')']
  · rw [callArguments_eq, callArguments?, Place.getElem?_line member]
    simp [Text.dropBytes?_eq_some_iff.mpr ⟨front, split, size⟩, below, read, there,
      Text.byteSize_close_sub]

theorem behind_of_callArguments {found : CallArguments}
    (read : callArguments lines start column = .ok (some found)) :
    start ≤ found.endLine ∧ (found.endLine = start → column < found.endColumn) := by
  rw [callArguments_eq] at read
  simp only [callArguments?, Option.bind_eq_bind, Except.ok.injEq, Option.bind_eq_some_iff,
    Option.pure_def, Option.some.injEq, Text.dropBytes?_eq_some_iff] at read
  obtain ⟨line, here, text, ⟨front, rfl, rfl⟩, call, called, last, there, rfl⟩ := read
  refine ⟨Nat.le_add_right _ _, fun same => ?_⟩
  change start + call.span = start at same
  obtain ⟨gap, rfl, _⟩ := Call.exists_gap_of_read? called (by omega)
  rw [same, here] at there
  obtain rfl := Option.some.inj there
  simp only [Text.byteSize_append, Text.byteSize]
  have paren : '('.utf8Size = 1 := rfl
  omega

end Places

end RouteAtlas.Numbered
