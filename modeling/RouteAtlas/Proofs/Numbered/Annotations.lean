import RouteAtlas.Proofs.Code.Annotations
import RouteAtlas.Proofs.Code.ArgumentList
import RouteAtlas.Proofs.Numbered.Call
import RouteAtlas.Proofs.Spring.Handlers

namespace RouteAtlas.Numbered

open Pattern

structure Annotation where
  name : Text
  arguments : Text
  endLine : Nat
  rest : Text
deriving DecidableEq, Repr

def annotationPattern : Pattern :=
  text "@" ++ .capture 1 (.one isNameStart ++ .many isDotted)

def annotationBehind (lines : List Text) (number : Nat) (line name : Text) (stop : Nat)
    (found : List Annotation) : Checked (List Annotation × Option Nat) := do
  match ← callArguments lines number stop with
  | some call => do
    let ending ← lineAt lines call.endLine
    let rest ← sliceFrom call.endColumn ending
    return (found ++ [⟨name, call.text, call.endLine, rest⟩],
      if call.endLine = number then some call.endColumn else none)
  | none => do
    let rest ← sliceFrom stop line
    return (found ++ [⟨name, [], number, rest⟩], some stop)

def annotationStep (lines : List Text) (number : Nat) (line : Text) (position : Nat)
    (found : List Annotation) : Checked (List Annotation × Option Nat) := do
  let tail ← sliceFrom position line
  match annotationPattern.find? tail with
  | none => return (found, none)
  | some whole =>
    match whole.reading.captures.lookup 1 with
    | none => return (found, none)
    | some (first, last) => do
      let qualified ← slice (position + columnOf tail first) (position + columnOf tail last) line
      annotationBehind lines number line (Text.afterLast '.' qualified)
        (position + columnOf tail whole.reading.stop) found

def annotationsAt (lines : List Text) (number : Nat) : Checked (List Annotation) := do
  let line ← lineAt lines number
  scan (Text.byteSize line) (annotationStep lines number line) 0 []

section Names

variable {before : Option Char} {tail qualified after : Text} {below : List Text} {whole : Found}

def foundAt (before : Option Char) (qualified after : Text) : Found :=
  let stop : Cursor := ⟨lastOr (some '@') qualified, after⟩
  ⟨⟨before, '@' :: (qualified ++ after)⟩, stop, [(1, ⟨some '@', qualified ++ after⟩, stop)]⟩

theorem at?_annotationPattern (before : Option Char) (text : Text) :
    annotationPattern.at? ⟨before, text⟩ =
      (annotatedName? text).map fun (qualified, after) => foundAt before qualified after := by
  cases text with
  | nil => simp [annotationPattern, at?, annotatedName?, Pattern.text]
  | cons d text =>
    by_cases mark : d = '@'
    · subst mark
      cases text with
      | nil => simp [annotationPattern, at?, annotatedName?, Pattern.text]
      | cons c rest =>
        cases starts : isNameStart c with
        | false => simp [annotationPattern, at?, annotatedName?, Pattern.text, starts]
        | true =>
          have dotted : (fun c => isWord c || c == '.') = isDotted := rfl
          simp [annotationPattern, at?, annotatedName?, Pattern.text, starts, foundAt, lastOr_cons, dotted]
    · have unnamed : annotatedName? (d :: text) = none := by
        unfold annotatedName?
        split
        · rename_i same
          exact absurd (List.cons.inj same).1 mark
        · rfl
      simp [annotationPattern, at?, Pattern.text, mark, unnamed]

theorem annotationsFrom_of_unfound (nothing : findFrom annotationPattern before tail = none) :
    annotationsFrom below 0 tail = [] := by
  induction tail generalizing before with
  | nil => rfl
  | cons c tail ih =>
    rw [findFrom, at?_annotationPattern] at nothing
    cases named : annotatedName? (c :: tail) with
    | some pair => simp [named] at nothing
    | none =>
      simp only [named, Option.map_none] at nothing
      rw [annotationsFrom_of_unnamed named]
      exact ih nothing

theorem exists_name_of_findFrom (here : findFrom annotationPattern before tail = some whole) :
    ∃ front last qualified after, tail = front ++ '@' :: (qualified ++ after) ∧
      whole = foundAt last qualified after ∧
      annotatedName? ('@' :: (qualified ++ after)) = some (qualified, after) ∧
      ∀ below, annotationsFrom below 0 tail = annotationsFrom below 0 ('@' :: (qualified ++ after)) := by
  induction tail generalizing before with
  | nil =>
    rw [findFrom, at?_annotationPattern] at here
    cases here
  | cons c tail ih =>
    rw [findFrom, at?_annotationPattern] at here
    cases named : annotatedName? (c :: tail) with
    | some pair =>
      obtain ⟨qualified, after⟩ := pair
      simp only [named, Option.map_some, Option.some.injEq] at here
      have spelled := (Spring.parts_of_annotatedName? named).1
      rw [spelled] at named ⊢
      exact ⟨[], before, qualified, after, rfl, here.symm, named, fun _ => rfl⟩
    | none =>
      simp only [named, Option.map_none] at here
      obtain ⟨front, last, qualified, after, rfl, same, later, sites⟩ := ih here
      refine ⟨c :: front, last, qualified, after, rfl, same, later, fun below => ?_⟩
      rw [annotationsFrom_of_unnamed named, sites]

theorem annotationsFrom_name
    (named : annotatedName? ('@' :: (qualified ++ after)) = some (qualified, after)) :
    annotationsFrom below 0 ('@' :: (qualified ++ after)) =
      annotationAt (Text.afterLast '.' qualified) after below ::
        match Call.read? after below with
        | some call => if call.span = 0 then annotationsFrom below 0 call.rest else []
        | none => annotationsFrom below 0 after := by
  rw [annotationsFrom_of_named named]
  cases read : Call.read? after below with
  | none =>
    dsimp only
    rw [annotationsFrom_skip]
  | some call =>
    dsimp only
    split
    · rename_i flat
      obtain ⟨gap, rfl, blank⟩ := Call.exists_gap_of_read? read flat
      have gapTaken : (gap ++ '(' :: (call.text ++ ')' :: call.rest)).takeWhile isBlank = gap :=
        takeWhile_append_eq blank (by rintro c ⟨⟩; decide)
      have width : qualified.length + argumentsWidth (gap ++ '(' :: (call.text ++ ')' :: call.rest)) call =
          (qualified ++ gap ++ '(' :: (call.text ++ [')'])).length := by
        rw [argumentsWidth, gapTaken]
        simp
        omega
      have split : qualified ++ (gap ++ '(' :: (call.text ++ ')' :: call.rest)) =
          (qualified ++ gap ++ '(' :: (call.text ++ [')'])) ++ call.rest := by simp
      rw [width, split, annotationsFrom_skip]
    · rfl

end Names

section Steps

variable {lines : List Text} {place : Place} {number position stop : Nat} {line tail name after : Text}
  {found : List Annotation} {call : Call}

def located (number : Nat) (site : AnnotationSite) : Annotation :=
  ⟨site.name, site.arguments, number + site.span, site.rest⟩

theorem annotationBehind_of_none (member : place ∈ Place.all lines)
    (starts : place.line.StartsAt stop after) (nothing : Call.read? after place.below = none) :
    annotationBehind lines place.number place.line name stop found =
      .ok (found ++ [located place.number (annotationAt name after place.below)], some stop) := by
  rw [annotationBehind, callArguments_of_none member starts nothing, ok_bind,
    sliceFrom_eq_ok_iff.mpr starts, annotationAt, nothing]
  rfl

theorem exists_annotationBehind (found : List Annotation) (member : place ∈ Place.all lines)
    (starts : place.line.StartsAt stop after) (read : Call.read? after place.below = some call) :
    ∃ endColumn, (call.span = 0 → place.line.StartsAt endColumn call.rest) ∧
      annotationBehind lines place.number place.line name stop found =
        .ok (found ++ [located place.number (annotationAt name after place.below)],
          if call.span = 0 then some endColumn else none) := by
  obtain ⟨last, endColumn, there, ends, called⟩ := exists_callArguments member starts read
  refine ⟨endColumn, fun flat => ?_, ?_⟩
  · rw [flat, Nat.add_zero, Place.getElem?_line member] at there
    rwa [Option.some.inj there]
  · rw [annotationBehind, called, ok_bind, annotationAt, read]
    dsimp only
    rw [lineAt_of_getElem? there, ok_bind, sliceFrom_eq_ok_iff.mpr ends, ok_bind]
    simp [located]

theorem le_of_annotationBehind {next : Nat} {more : List Annotation}
    (step : annotationBehind lines number line name stop found = .ok (more, some next)) :
    stop ≤ next := by
  obtain ⟨answer, called, step⟩ := bind_eq_ok_iff.mp step
  cases answer with
  | none =>
    obtain ⟨rest, _, step⟩ := bind_eq_ok_iff.mp step
    cases step
    exact Nat.le_refl stop
  | some call =>
    obtain ⟨ending, _, step⟩ := bind_eq_ok_iff.mp step
    obtain ⟨rest, _, step⟩ := bind_eq_ok_iff.mp step
    obtain ⟨_, goes⟩ := Prod.mk.inj (Except.ok.inj step)
    split at goes
    · rename_i same
      cases goes
      exact Nat.le_of_lt ((behind_of_callArguments called).2 same)
    · cases goes

theorem annotationStep_of_unfound (starts : line.StartsAt position tail)
    (nothing : annotationPattern.find? tail = none) :
    annotationStep lines number line position found = .ok (found, none) := by
  rw [annotationStep, sliceFrom_eq_ok_iff.mpr starts, ok_bind, nothing]
  rfl

/-- The name is cut from the whole line, and what follows it starts further right. -/
theorem exists_annotationStep {whole : Found} (starts : line.StartsAt position tail)
    (here : annotationPattern.find? tail = some whole) :
    ∃ front qualified after stop, tail = front ++ '@' :: (qualified ++ after) ∧
      annotatedName? ('@' :: (qualified ++ after)) = some (qualified, after) ∧
      (∀ below, annotationsFrom below 0 tail = annotationsFrom below 0 ('@' :: (qualified ++ after))) ∧
      position < stop ∧ line.StartsAt stop after ∧
      ∀ lines number found, annotationStep lines number line position found =
        annotationBehind lines number line (Text.afterLast '.' qualified) stop found := by
  obtain ⟨front, last, qualified, after, rfl, rfl, named, sites⟩ := exists_name_of_findFrom here
  obtain ⟨before, rfl, rfl⟩ := starts
  have mark : '@'.utf8Size = 1 := rfl
  have first : Text.byteSize (front ++ '@' :: (qualified ++ after)) - Text.byteSize (qualified ++ after) =
      Text.byteSize (front ++ ['@']) := by
    simp only [Text.byteSize_append, Text.byteSize]
    omega
  have stop : Text.byteSize (front ++ '@' :: (qualified ++ after)) - Text.byteSize after =
      Text.byteSize (front ++ '@' :: qualified) := by
    simp only [Text.byteSize_append, Text.byteSize]
    omega
  refine ⟨front, qualified, after, Text.byteSize (before ++ (front ++ '@' :: qualified)), rfl, named, sites,
    ?_, ⟨before ++ (front ++ '@' :: qualified), by simp, rfl⟩, ?_⟩
  · simp only [Text.byteSize_append, Text.byteSize]
    omega
  · intro lines number found
    have cut := slice_append (before ++ (front ++ ['@'])) qualified after
    have whole : before ++ (front ++ ['@']) ++ qualified ++ after =
        before ++ (front ++ '@' :: (qualified ++ after)) := by simp
    have upTo : before ++ (front ++ ['@']) ++ qualified = before ++ (front ++ '@' :: qualified) := by simp
    rw [whole, upTo, Text.byteSize_append before, Text.byteSize_append before] at cut
    rw [annotationStep, sliceFrom_append, ok_bind, here]
    simp only [foundAt, List.lookup_cons, columnOf, first, stop, beq_self_eq_true, cut, ok_bind,
      Text.byteSize_append before]

theorem advances_annotationStep (lines : List Text) (number : Nat) (line : Text) :
    Advances (annotationStep lines number line) := by
  intro position found more next step
  obtain ⟨tail, cut, rest⟩ := bind_eq_ok_iff.mp step
  have starts := sliceFrom_eq_ok_iff.mp cut
  cases here : annotationPattern.find? tail with
  | none =>
    rw [annotationStep_of_unfound starts here] at step
    cases step
  | some whole =>
    obtain ⟨_, _, _, stop, _, _, _, ahead, _, same⟩ := exists_annotationStep starts here
    rw [same] at step
    exact Nat.lt_of_lt_of_le ahead (le_of_annotationBehind step)

theorem scan_annotationStep (member : place ∈ Place.all lines)
    (starts : place.line.StartsAt position tail) :
    scan (Text.byteSize place.line) (annotationStep lines place.number place.line) position found =
      .ok (found ++ (annotationsFrom place.below 0 tail).map (located place.number)) := by
  generalize size : tail.length = length
  induction length using Nat.strongRecOn generalizing position tail found with
  | ind length ih =>
  by_cases inside : position < Text.byteSize place.line
  · cases here : annotationPattern.find? tail with
    | none =>
      rw [scan_of_ends inside (annotationStep_of_unfound starts here), annotationsFrom_of_unfound here,
        List.map_nil, List.append_nil]
    | some whole =>
      obtain ⟨front, qualified, after, stop, rfl, named, sites, ahead, behind, step⟩ :=
        exists_annotationStep starts here
      have next {more : List Annotation} {column : Nat} {text : Text}
          (starts : place.line.StartsAt column text) (suffix : text <:+ after) :
          scan (Text.byteSize place.line) (annotationStep lines place.number place.line) column more =
            .ok (more ++ (annotationsFrom place.below 0 text).map (located place.number)) := by
        have shorter := suffix.length_le
        simp only [List.length_append, List.length_cons] at size
        exact ih text.length (by omega) starts rfl
      rw [sites, annotationsFrom_name named]
      cases read : Call.read? after place.below with
      | none =>
        have taken := (step lines place.number found).trans (annotationBehind_of_none member behind read)
        rw [scan_of_goes inside taken ahead, next behind (List.suffix_refl after), List.append_assoc]
        rfl
      | some call =>
        obtain ⟨endColumn, ends, taken⟩ := exists_annotationBehind found member behind read
        replace taken := (step lines place.number found).trans taken
        by_cases flat : call.span = 0
        · rw [if_pos flat] at taken
          obtain ⟨gap, rfl, _⟩ := Call.exists_gap_of_read? read flat
          have suffix : call.rest <:+ gap ++ '(' :: (call.text ++ ')' :: call.rest) :=
            ⟨gap ++ '(' :: (call.text ++ [')']), by simp⟩
          have further := advances_annotationStep lines place.number place.line _ _ _ _ taken
          rw [scan_of_goes inside taken further, next (ends flat) suffix, List.append_assoc]
          simp [flat]
        · rw [if_neg flat] at taken
          rw [scan_of_ends inside taken]
          simp [flat]
  · obtain ⟨front, split, rfl⟩ := starts
    have empty : tail = [] := by
      rw [split, Text.byteSize_append] at inside
      exact Text.byteSize_eq_zero_iff.mp (by omega)
    rw [scan_of_le (Nat.not_lt.mp inside), empty]
    simp [annotationsFrom]

theorem annotationsAt_eq (member : place ∈ Place.all lines) :
    annotationsAt lines place.number =
      .ok ((annotationsOn place.line place.below).map (located place.number)) := by
  rw [annotationsAt, lineAt_number member, ok_bind,
    scan_annotationStep member (Text.startsAt_zero_iff.mpr rfl), List.nil_append]
  rfl

end Steps

section Bounds

variable {lines : List Text} {place : Place} {line : Text} {below : List Text} {site : AnnotationSite}

/-- An annotation from the line of this number ends on one of the twenty lines from there on. -/
structure Annotation.EndsBelow (found : Annotation) (lines : List Text) (number : Nat) : Prop where
  start : number ≤ found.endLine
  stop : found.endLine < min (number + 20) lines.length
  rest : ∃ line, lines[found.endLine]? = some line ∧ found.rest <:+ line

theorem endsBelow_located (member : place ∈ Place.all lines)
    (written : site ∈ annotationsOn place.line place.below) :
    (located place.number site).EndsBelow lines place.number := by
  obtain ⟨after, text, qualified, suffix, named, rfl⟩ := exists_writtenOn_of_mem written
  have behind : after <:+ place.line := by
    have spelled := (Spring.parts_of_annotatedName? named).1
    exact List.IsSuffix.trans ⟨'@' :: qualified, spelled.symm⟩ suffix
  unfold annotationAt
  cases read : Call.read? after place.below with
  | none =>
    have inside := Place.number_lt_of_mem_all member
    exact ⟨Nat.le_refl _, Nat.lt_min.mpr ⟨Nat.lt_add_of_pos_right (by decide), inside⟩,
      place.line, Place.getElem?_line member, behind⟩
  | some call =>
    obtain ⟨front, split⟩ := behind
    obtain ⟨last, endColumn, there, ⟨before, cut, _⟩, _⟩ :=
      exists_callArguments member ⟨front, split.symm, rfl⟩ read
    obtain ⟨_, _, whole, _, _, _, _, _, short, _, _, span⟩ := Call.read?_eq_some_iff.mp read
    obtain ⟨inside, _⟩ := List.getElem?_eq_some_iff.mp there
    have few : call.span < 20 := span ▸ short
    exact ⟨Nat.le_add_right _ _,
      Nat.lt_min.mpr ⟨Nat.add_lt_add_left few _, inside⟩, last, there, before, cut.symm⟩

theorem mem_dropLast_cons {α : Type} {item first : α} {more : List α}
    (member : item ∈ (first :: more).dropLast) : more ≠ [] ∧ (item = first ∨ item ∈ more.dropLast) := by
  cases more with
  | nil => cases member
  | cons second more =>
    rw [List.dropLast_cons_cons] at member
    exact ⟨nofun, List.mem_cons.mp member⟩

/-- Only the last annotation of a line goes on over the line end. -/
theorem span_of_mem_dropLast {skip : Nat} (member : site ∈ (annotationsFrom below skip line).dropLast) :
    site.span = 0 := by
  induction line generalizing skip with
  | nil =>
    unfold annotationsFrom at member
    cases member
  | cons c rest ih =>
    cases skip with
    | succ skip => exact ih member
    | zero =>
      cases named : annotatedName? (c :: rest) with
      | none =>
        rw [annotationsFrom_of_unnamed named] at member
        exact ih member
      | some pair =>
        obtain ⟨qualified, after⟩ := pair
        rw [annotationsFrom_of_named named] at member
        obtain ⟨further, found⟩ := mem_dropLast_cons member
        cases read : Call.read? after below with
        | none =>
          simp only [read] at found
          rcases found with rfl | later
          · simp [annotationAt, read]
          · exact ih later
        | some call =>
          simp only [read] at found further
          by_cases flat : call.span = 0
          · rw [if_pos flat] at found
            rcases found with rfl | later
            · simp [annotationAt, read, flat]
            · exact ih later
          · rw [if_neg flat] at further
            exact absurd rfl further

theorem foldlM_located {σ : Type} {read : σ → Annotation → Checked σ} {value : σ → AnnotationSite → σ}
    (member : place ∈ Place.all lines)
    (agree : ∀ site, place.number + site.span < lines.length → ∀ state,
      read state (located place.number site) = .ok (value state site)) (state : σ) :
    ((annotationsOn place.line place.below).map (located place.number)).foldlM read state =
      .ok ((annotationsOn place.line place.below).foldl value state) := by
  rw [List.foldlM_map]
  refine foldlM_eq_ok_of_mem (fun site written state => agree site ?_ state) state
  exact (Nat.lt_min.mp (endsBelow_located member written).stop).2

end Bounds

section Types

variable {lines : List Text} {place : Place} {number : Nat}

def classStep (lines : List Text) (number : Nat) (_found : Bool) : Checked (Bool × Option Nat) := do
  let line ← lineAt lines number
  let trimmed := Text.trim line
  if isCommentOrBlank trimmed then return (false, some (number + 1))
  else if trimmed.head? == some '@' then
    if (className? trimmed).isSome then return (true, none)
    else do
      let found ← annotationsAt lines number
      return (false, some ((found.getLast?.map (·.endLine)).getD number + 1))
  else return ((className? trimmed).isSome, none)

def annotatesClassAt (lines : List Text) (number endLine : Nat) : Checked Bool := do
  let first ← lineAt lines number
  if (className? first).isSome then return true
  else do
    let last ← lineAt lines endLine
    if (className? last).isSome then return true
    else scan lines.length (classStep lines) (endLine + 1) false

theorem leadsToClass_cons (line : Text) (below : List Text) :
    leadsToClass 0 (line :: below) =
      if isCommentOrBlank (Text.trim line) then leadsToClass 0 below
      else if (Text.trim line).head? == some '@' then
        (className? (Text.trim line)).isSome || leadsToClass (lastSpan (annotationsOn line below)) below
      else (className? (Text.trim line)).isSome := by
  rw [leadsToClass]

theorem leadsToClass_drop (skip : Nat) (below : List Text) :
    leadsToClass skip below = leadsToClass 0 (below.drop skip) := by
  induction below generalizing skip with
  | nil => simp [leadsToClass]
  | cons line below ih =>
    cases skip with
    | zero => rfl
    | succ skip => exact ih skip

theorem getLast?_located (number : Nat) (sites : List AnnotationSite) :
    ((sites.map (located number)).getLast?.map (·.endLine)).getD number = number + lastSpan sites := by
  rw [lastSpan, List.getLast?_map]
  cases sites.getLast? <;> rfl

theorem classStep_eq (member : place ∈ Place.all lines) (found : Bool) :
    classStep lines place.number found = .ok (
      if isCommentOrBlank (Text.trim place.line) then (false, some (place.number + 1))
      else if (Text.trim place.line).head? == some '@' then
        if (className? (Text.trim place.line)).isSome then (true, none)
        else (false, some (place.number + lastSpan (annotationsOn place.line place.below) + 1))
      else ((className? (Text.trim place.line)).isSome, none)) := by
  rw [classStep, lineAt_number member, ok_bind]
  dsimp only
  split
  · rfl
  split
  · split
    · rfl
    · rw [annotationsAt_eq member, ok_bind, getLast?_located]
      rfl
  · rfl

theorem advances_classStep (lines : List Text) : Advances (classStep lines) := by
  intro number found after next step
  obtain ⟨line, cut, _⟩ := bind_eq_ok_iff.mp step
  obtain ⟨place, member, rfl, _⟩ := Place.exists_of_getElem? (lineAt_eq_ok_iff.mp cut)
  rw [classStep_eq member, Except.ok.injEq] at step
  split at step
  · cases step
    exact Nat.lt_succ_self _
  split at step
  · split at step
    · cases step
    · cases step
      omega
  · cases step

theorem scan_classStep (lines : List Text) (number : Nat) :
    scan lines.length (classStep lines) number false = .ok (leadsToClass 0 (lines.drop number)) := by
  refine scan_lines (leadsToClass 0) rfl (fun place member => ?_) number
  rw [classStep_eq member, leadsToClass_cons]
  cases comment : isCommentOrBlank (Text.trim place.line) with
  | true => exact .inr ⟨0, rfl, rfl⟩
  | false =>
    cases mark : (Text.trim place.line).head? == some '@' with
    | true =>
      cases declared : (className? (Text.trim place.line)).isSome with
      | true => exact .inl rfl
      | false =>
        refine .inr ⟨lastSpan (annotationsOn place.line place.below), ?_, leadsToClass_drop _ _⟩
        rw [Nat.add_right_comm]
        rfl
    | false => exact .inl rfl

theorem annotatesClassAt_eq (member : place ∈ Place.all lines) {span : Nat}
    (inside : place.number + span < lines.length) :
    annotatesClassAt lines place.number (place.number + span) =
      .ok (annotatesClass place.line place.below span) := by
  have there : (place.line :: place.below)[span]? = lines[place.number + span]? := by
    rw [← drop_eq_cons member, List.getElem?_drop]
  rw [List.getElem?_eq_getElem inside] at there
  rw [annotatesClassAt, lineAt_number member, ok_bind, annotatesClass, there, Option.bind_some]
  cases (className? place.line).isSome with
  | true => rfl
  | false =>
    rw [if_neg (by decide), lineAt_of_getElem? (List.getElem?_eq_getElem inside), ok_bind, Bool.false_or]
    cases (className? lines[place.number + span]).isSome with
    | true => rfl
    | false =>
      rw [if_neg (by decide), scan_classStep, Nat.add_right_comm, drop_number member,
        ← leadsToClass_drop, Bool.false_or]

end Types

end RouteAtlas.Numbered
