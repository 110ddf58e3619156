import RouteAtlas.Code.Annotations

namespace RouteAtlas

namespace Call

/-- A list opens on the text and does not close within the lines that a call may take. -/
def Unclosed (text : Text) (below : List Text) : Prop :=
  (Text.trimStart text).head? = some '(' ∧ read? text below = none

instance (text : Text) (below : List Text) : Decidable (Unclosed text below) :=
  inferInstanceAs (Decidable (_ ∧ _))

def StaysOpen (text : Text) (lines : List Text) : Prop :=
  lines.length < maxLines - 1 ∧ Unclosed text lines

instance (text : Text) (lines : List Text) : Decidable (StaysOpen text lines) :=
  inferInstanceAs (Decidable (_ ∧ _))

variable {text line : Text} {lines more : List Text} {call : Call} {state : CallState}

theorem scan_append (found : scan state line lines = some call) (more : List Text) :
    scan state line (lines ++ more) = some call := by
  induction lines generalizing state line call with
  | nil =>
    unfold scan at found
    cases scanned : state.scanLine line with
    | error state =>
      rw [scanned] at found
      cases found
    | ok rest =>
      rw [scanned] at found
      cases more <;> simpa [scan, scanned] using found
  | cons next lines ih =>
    rw [List.cons_append]
    unfold scan at found ⊢
    cases scanned : state.scanLine line with
    | ok rest =>
      rw [scanned] at found
      exact found
    | error state =>
      rw [scanned] at found
      obtain ⟨inner, read, same⟩ := Option.map_eq_some_iff.mp found
      dsimp only
      rw [ih read, ← same]
      rfl

theorem span_le_of_scan (found : scan state line lines = some call) : call.span ≤ lines.length := by
  induction lines generalizing state line call with
  | nil =>
    unfold scan at found
    split at found
    · cases found
      exact Nat.le_refl 0
    · cases found
  | cons next lines ih =>
    unfold scan at found
    split at found
    · cases found
      exact Nat.zero_le _
    · obtain ⟨inner, read, rfl⟩ := Option.map_eq_some_iff.mp found
      exact Nat.succ_le_succ (ih read)

theorem exists_of_read? (found : read? text lines = some call) :
    ∃ rest, Text.trimStart text = '(' :: rest ∧
      scan .opened rest (lines.take (maxLines - 1)) = some call := by
  unfold read? at found
  split at found
  · rename_i rest opens
    exact ⟨rest, opens, found⟩
  · cases found

theorem read?_eq_scan {rest : Text} (opens : Text.trimStart text = '(' :: rest) (below : List Text) :
    read? text below = scan .opened rest (below.take (maxLines - 1)) := by
  simp only [read?, opens]

theorem span_le_of_read? (found : read? text lines = some call) : call.span ≤ lines.length := by
  obtain ⟨rest, _, scanned⟩ := exists_of_read? found
  exact Nat.le_trans (span_le_of_scan scanned) (List.length_take_le' _ _)

/-- A list that is not open behind the lines is read without what follows them. -/
theorem read?_append (closed : ¬ StaysOpen text lines) (more : List Text) :
    read? text (lines ++ more) = read? text lines := by
  cases read : read? text lines with
  | some call =>
    obtain ⟨rest, opens, scanned⟩ := exists_of_read? read
    rw [read?_eq_scan opens, List.take_append]
    exact scan_append scanned _
  | none =>
    cases opens : (Text.trimStart text).head? == some '(' with
    | false =>
      unfold read?
      split
      · rename_i rest same
        simp [same] at opens
      · rfl
    | true =>
      have long : maxLines - 1 ≤ lines.length :=
        Nat.le_of_not_lt fun short => closed ⟨short, by simpa using opens, read⟩
      -- the lines are all that the call may take, so those behind them are not looked at
      rw [← read]
      unfold read?
      rw [List.take_append_of_le_length long]

end Call

section Annotations

variable {line after : Text} {below lines : List Text} {site : AnnotationSite}

def annotationAt (name after : Text) (below : List Text) : AnnotationSite :=
  match Call.read? after below with
  | some call => ⟨name, call.text, call.span, call.rest⟩
  | none => ⟨name, [], 0, after⟩

def AnnotationSite.WrittenOn (site : AnnotationSite) (line : Text) (below : List Text) (after : Text) :
    Prop :=
  ∃ text qualified, text <:+ line ∧ annotatedName? text = some (qualified, after) ∧
    site = annotationAt (Text.afterLast '.' qualified) after below

theorem AnnotationSite.WrittenOn.cons (written : site.WrittenOn line below after) (c : Char) :
    site.WrittenOn (c :: line) below after := by
  obtain ⟨text, qualified, suffix, named, same⟩ := written
  exact ⟨text, qualified, suffix.trans (List.suffix_cons c line), named, same⟩

theorem annotationsFrom_of_unnamed {c : Char} {rest : Text} (unnamed : annotatedName? (c :: rest) = none) :
    annotationsFrom below 0 (c :: rest) = annotationsFrom below 0 rest := by
  rw [annotationsFrom, unnamed]

/-- An annotation is found at its name, and further ones behind it, unless it goes on over the line end. -/
theorem annotationsFrom_of_named {c : Char} {rest qualified : Text}
    (named : annotatedName? (c :: rest) = some (qualified, after)) :
    annotationsFrom below 0 (c :: rest) =
      annotationAt (Text.afterLast '.' qualified) after below ::
        match Call.read? after below with
        | some call =>
          if call.span = 0 then
            annotationsFrom below (qualified.length + argumentsWidth after call) rest
          else []
        | none => annotationsFrom below qualified.length rest := by
  rw [annotationsFrom, named]
  dsimp only
  cases read : Call.read? after below <;> simp [annotationAt, read]

theorem exists_writtenOn_of_mem {skip : Nat} (member : site ∈ annotationsFrom below skip line) :
    ∃ after, site.WrittenOn line below after := by
  induction line generalizing skip with
  | nil =>
    unfold annotationsFrom at member
    cases member
  | cons c rest ih =>
    have behind : ∀ {skip : Nat}, site ∈ annotationsFrom below skip rest →
        ∃ after, site.WrittenOn (c :: rest) below after := by
      intro skip later
      obtain ⟨after, written⟩ := ih later
      exact ⟨after, written.cons c⟩
    cases skip with
    | succ skip => exact behind member
    | zero =>
      cases named : annotatedName? (c :: rest) with
      | none =>
        rw [annotationsFrom_of_unnamed named] at member
        exact behind member
      | some pair =>
        obtain ⟨qualified, after⟩ := pair
        rw [annotationsFrom_of_named named] at member
        rcases List.mem_cons.mp member with rfl | later
        · exact ⟨after, c :: rest, qualified, List.suffix_refl _, named, rfl⟩
        · split at later
          · split at later
            · exact behind later
            · cases later
          · exact behind later

end Annotations

end RouteAtlas
