import RouteAtlas.Path
import RouteAtlas.Proofs.Text.Pieces

namespace RouteAtlas.Path

open Text

structure IsName (name : Text) : Prop where
  solid : isSkipped name = false
  inner : name ≠ ['.', '.']
  whole : '/' ∉ name

def leadingStep (piece : Text) : Option Component :=
  if piece = [] then some .root else if piece = ['.'] then some .current else step? piece

/-- The root or the `.` step that the first piece of a path stands for, or else the piece itself. -/
def leadOf (first : Text) : Option Component × List Text :=
  if first = [] then (some .root, []) else if first = ['.'] then (some .current, [])
  else (none, [first])

theorem parts_eq {path : Path} {first : Text} {rest : List Text}
    (pieces : splitOn '/' path.spelling = first :: rest) (filled : first = [] → rest ≠ []) :
    path.parts = ((leadOf first).1, (leadOf first).2 ++ rest) := by
  unfold parts
  rw [pieces]
  split
  · rename_i none
    cases none
  · rename_i single
    cases single
    exact absurd rfl (filled rfl)
  · rename_i absolute
    cases absolute
    rfl
  · rename_i relative
    cases relative
    rfl
  · rename_i absolute relative
    rw [leadOf, if_neg (by rintro rfl; exact absolute rest rfl),
      if_neg (by rintro rfl; exact relative rest rfl)]
    rfl

theorem leadingStep_eq (first : Text) : (leadingStep first).toList =
    (leadOf first).1.toList ++ (leadOf first).2.filterMap step? := by
  unfold leadingStep leadOf
  split
  · rfl
  split
  · rfl
  · cases step : step? first <;> simp [step]

theorem components_eq {path : Path} {first : Text} {rest : List Text}
    (pieces : splitOn '/' path.spelling = first :: rest) (filled : first = [] → rest ≠ []) :
    path.components = (leadingStep first).toList ++ rest.filterMap step? := by
  rw [components, parts_eq pieces filled, leadingStep_eq, List.filterMap_append, List.append_assoc]

theorem step?_eq_none_iff (piece : Text) : step? piece = none ↔ isSkipped piece = true := by
  unfold step?
  split
  · simp_all
  · split <;> simp_all

theorem IsName.step?_eq {name : Text} (proper : IsName name) : step? name = some (.name name) := by
  simp [step?, proper.solid, proper.inner]

theorem eq_nil_of_splitOn {text : Text} (single : splitOn '/' text = [[]]) : text = [] := by
  cases text with
  | nil => rfl
  | cons c text =>
    by_cases same : c = '/'
    · rw [same, splitOn_cons_self] at single
      exact absurd (List.cons.inj single).2 (splitOn_ne_nil text)
    · rw [splitOn_cons_of_ne same] at single
      cases pieces : splitOn '/' text <;> simp [pieces, pushFront] at single

theorem exists_pieces_append {path : Path} {more : Text} (filled : path.spelling ≠ [])
    (relative : more.head? ≠ some '/') : ∃ first rest last, (first = [] → rest ++ last ≠ []) ∧
      (last = [] ∨ last = [[]]) ∧ splitOn '/' path.spelling = first :: (rest ++ last) ∧
      splitOn '/' (path.append more).spelling = first :: (rest ++ splitOn '/' more) := by
  have kept : path.append more = ⟨path.spelling ++ more⟩ ∧ path.spelling.getLast? = some '/' ∨
      path.append more = ⟨path.spelling ++ '/' :: more⟩ ∧ path.spelling.getLast? ≠ some '/' := by
    unfold append
    by_cases last : path.spelling.getLast? = some '/' <;> simp [relative, filled, last]
  rcases kept with ⟨same, last⟩ | ⟨same, last⟩
  · obtain ⟨front, spelled⟩ := List.getLast?_eq_some_iff.mp last
    cases pieces : splitOn '/' front with
    | nil => exact absurd pieces (splitOn_ne_nil front)
    | cons first rest =>
      refine ⟨first, rest, [[]], by simp, .inr rfl, ?_, ?_⟩
      · rw [spelled, splitOn_append_separator, pieces]
        rfl
      · rw [same, spelled, List.append_assoc]
        simp only [List.cons_append, List.nil_append]
        rw [splitOn_append_separator, pieces]
        rfl
  · cases pieces : splitOn '/' path.spelling with
    | nil => exact absurd pieces (splitOn_ne_nil _)
    | cons first rest =>
      refine ⟨first, rest, [], ?_, .inl rfl, by simp, ?_⟩
      · rintro rfl none
        rw [List.append_nil] at none
        rw [none] at pieces
        exact filled (eq_nil_of_splitOn pieces)
      · rw [same, splitOn_append_separator, pieces]
        rfl

theorem components_append_text {path : Path} {more : Text} (filled : path.spelling ≠ [])
    (relative : more.head? ≠ some '/') :
    (path.append more).components = path.components ++ (splitOn '/' more).filterMap step? := by
  obtain ⟨first, rest, last, some, empty, before, after⟩ := exists_pieces_append filled relative
  have nothing : last.filterMap step? = [] := by
    rcases empty with rfl | rfl <;> rfl
  have behind : first = [] → rest ++ splitOn '/' more ≠ [] := by
    simp [splitOn_ne_nil]
  rw [components_eq before some, components_eq after behind, List.filterMap_append,
    List.filterMap_append, nothing, List.append_nil, ← List.append_assoc]

theorem components_append {path : Path} {name : Text} (filled : path.spelling ≠ [])
    (proper : IsName name) : (path.append name).components = path.components ++ [.name name] := by
  have relative : name.head? ≠ some '/' := fun first => proper.whole (List.mem_of_mem_head? first)
  rw [components_append_text filled relative, splitOn_eq_self proper.whole]
  simp [proper.step?_eq]

theorem fileName?_eq {path : Path} {last : Text}
    (ended : (splitOn '/' path.spelling).getLast? = some last) (proper : IsName last) :
    path.fileName? = some last := by
  have final : path.components.getLast? = some (.name last) := by
    obtain ⟨front, pieces⟩ := List.getLast?_eq_some_iff.mp ended
    have solid : last ≠ [] ∧ last ≠ ['.'] := by
      constructor <;> rintro rfl <;> cases proper.solid
    cases front with
    | nil =>
      rw [components_eq pieces fun none => absurd none solid.1]
      simp [leadingStep, solid, proper.step?_eq]
    | cons first rest =>
      rw [components_eq (show _ = first :: (rest ++ [last]) from pieces) (by simp),
        List.filterMap_append]
      simp [proper.step?_eq]
  simp [fileName?, final]

theorem getLast?_of_fileName? {path : Path} {name : Text} (named : path.fileName? = some name) :
    path.components.getLast? = some (.name name) := by
  unfold fileName? at named
  split at named
  · rename_i text last
    rw [last, Option.some.inj named]
  · cases named

theorem getLast?_filterMap_step? {path : Path} {name : Text} (relative : path.isAbsolute = false)
    (named : path.fileName? = some name) :
    ((splitOn '/' path.spelling).filterMap step?).getLast? = some (.name name) := by
  have final := getLast?_of_fileName? named
  have loose : path.spelling.head? ≠ some '/' := by simpa [isAbsolute] using relative
  cases pieces : splitOn '/' path.spelling with
  | nil => exact absurd pieces (splitOn_ne_nil _)
  | cons first rest =>
    have filled : first ≠ [] := by
      rintro rfl
      cases spelled : path.spelling with
      | nil =>
        have empty : path = ⟨[]⟩ := congrArg Path.mk spelled
        rw [empty] at final
        cases final
      | cons c text =>
        have differ : c ≠ '/' := by
          rintro rfl
          exact loose (by rw [spelled]; rfl)
        obtain ⟨piece, start⟩ := exists_head?_splitOn differ text
        rw [← spelled, pieces] at start
        cases start
    rw [components_eq pieces fun none => absurd none filled] at final
    cases later : (rest.filterMap step?).getLast? with
    | some step =>
      rw [List.getLast?_append, later] at final
      rw [List.filterMap_cons]
      cases step? first <;> simp [List.getLast?_cons, later, Option.some.inj final]
    | none =>
      have nothing := List.getLast?_eq_none_iff.mp later
      rw [nothing, List.append_nil] at final
      have lead : leadingStep first = some (.name name) := by
        cases step : leadingStep first <;> simp [step] at final ⊢
        exact final
      have plain : first ≠ ['.'] := by
        rintro rfl
        cases lead
      simp only [leadingStep, filled, plain, if_false] at lead
      simp [lead, nothing]

theorem leadingStep_ne_none (first : Text) : leadingStep first ≠ none := by
  unfold leadingStep
  split
  · simp
  split
  · simp
  · rename_i solid inner
    simp [step?_eq_none_iff, isSkipped, solid, inner]

theorem components_ne_nil {path : Path} (filled : path.spelling ≠ []) : path.components ≠ [] := by
  cases pieces : splitOn '/' path.spelling with
  | nil => exact absurd pieces (splitOn_ne_nil _)
  | cons first rest =>
    have more : first = [] → rest ≠ [] := by
      rintro rfl rfl
      exact filled (eq_nil_of_splitOn pieces)
    rw [components_eq pieces more]
    cases step : leadingStep first with
    | none => exact absurd step (leadingStep_ne_none first)
    | some step => simp

def descend (path : Path) (names : List Text) : Path := names.foldl append path

theorem spelling_append_ne_nil {path : Path} {name : Text} (filled : path.spelling ≠ []) :
    (path.append name).spelling ≠ [] := by
  unfold append
  split
  · rename_i absolute
    rintro rfl
    simp at absolute
  · split <;> simp [filled]

theorem components_descend {path : Path} {names : List Text} (filled : path.spelling ≠ [])
    (proper : ∀ name ∈ names, IsName name) :
    (path.descend names).components = path.components ++ names.map .name := by
  induction names generalizing path with
  | nil => simp [descend]
  | cons name names ih =>
    have here := proper name List.mem_cons_self
    have rest := @ih (path.append name) (spelling_append_ne_nil filled)
      fun other member => proper other (List.mem_cons_of_mem name member)
    rw [components_append filled here] at rest
    simpa [descend] using rest

theorem descend_inj {path : Path} {names others : List Text} (filled : path.spelling ≠ [])
    (proper : ∀ name ∈ names, IsName name) (clean : ∀ name ∈ others, IsName name)
    (same : path.descend names = path.descend others) : names = others := by
  have steps := congrArg components same
  rw [components_descend filled proper, components_descend filled clean,
    List.append_cancel_left_eq] at steps
  exact (List.map_inj_right fun _ _ => Component.name.inj).mp steps

section Below

theorem filterMap_dropSteps (count : Nat) (pieces : List Text) :
    (dropSteps count pieces).filterMap step? = (pieces.filterMap step?).drop count := by
  induction pieces generalizing count with
  | nil => cases count <;> simp [dropSteps]
  | cons piece pieces ih =>
    cases count with
    | zero => rfl
    | succ count =>
      unfold dropSteps
      cases skipped : isSkipped piece with
      | true =>
        have none := (step?_eq_none_iff piece).mpr skipped
        simp [none, ih]
      | false =>
        cases step : step? piece with
        | none => simp [(step?_eq_none_iff piece).mp step] at skipped
        | some component => simp [step, ih]

theorem filterMap_dropWhile (pieces : List Text) :
    (pieces.dropWhile isSkipped).filterMap step? = pieces.filterMap step? := by
  induction pieces with
  | nil => rfl
  | cons piece pieces ih =>
    cases skipped : isSkipped piece with
    | true =>
      rw [List.dropWhile_cons_of_pos skipped, ih, List.filterMap_cons,
        (step?_eq_none_iff piece).mpr skipped]
    | false => rw [List.dropWhile_cons_of_neg (by simp [skipped])]

theorem trimPieces_cons (piece : Text) (pieces : List Text) :
    trimPieces (piece :: pieces) =
      if (trimPieces pieces).isEmpty && isSkipped piece then [] else piece :: trimPieces pieces :=
  rfl

theorem filterMap_trimPieces (pieces : List Text) :
    (trimPieces pieces).filterMap step? = pieces.filterMap step? := by
  induction pieces with
  | nil => rfl
  | cons piece pieces ih =>
    rw [trimPieces_cons, List.filterMap_cons, ← ih]
    split
    · rename_i ends
      simp only [Bool.and_eq_true, List.isEmpty_iff] at ends
      rw [ends.1, (step?_eq_none_iff piece).mpr ends.2]
    · rw [List.filterMap_cons]

theorem mem_of_mem_trimPieces {piece : Text} {pieces : List Text}
    (member : piece ∈ trimPieces pieces) : piece ∈ pieces := by
  induction pieces with
  | nil => cases member
  | cons other pieces ih =>
    rw [trimPieces_cons] at member
    split at member
    · cases member
    · rcases List.mem_cons.mp member with rfl | member
      · exact List.mem_cons_self
      · exact List.mem_cons_of_mem other (ih member)

theorem dropSteps_suffix (count : Nat) (pieces : List Text) : dropSteps count pieces <:+ pieces := by
  induction pieces generalizing count with
  | nil => cases count <;> simp [dropSteps]
  | cons piece pieces ih =>
    cases count with
    | zero => exact List.suffix_refl _
    | succ count =>
      unfold dropSteps
      split
      · exact (ih _).trans (List.suffix_cons piece pieces)
      · exact (ih _).trans (List.suffix_cons piece pieces)

theorem components_join {pieces : List Text} (whole : ∀ piece ∈ pieces, '/' ∉ piece)
    (solid : ∀ piece, pieces.head? = some piece → isSkipped piece = false) :
    (⟨join ['/'] pieces⟩ : Path).components = pieces.filterMap step? := by
  cases pieces with
  | nil => rfl
  | cons first rest =>
    have here := solid first rfl
    have filled : first ≠ [] := by
      rintro rfl
      cases here
    have inner : first ≠ ['.'] := by
      rintro rfl
      cases here
    have lead : leadingStep first = step? first := by simp [leadingStep, filled, inner]
    rw [components_eq (splitOn_join (by simp) whole) (fun none => absurd none filled), lead,
      List.filterMap_cons]
    cases step? first <;> rfl

theorem not_skipped_of_head?_trimPieces {pieces : List Text} {piece : Text}
    (first : (trimPieces (pieces.dropWhile isSkipped)).head? = some piece) :
    isSkipped piece = false := by
  have stops := List.head?_dropWhile_not isSkipped pieces
  cases kept : pieces.dropWhile isSkipped with
  | nil => simp [kept, trimPieces] at first
  | cons other rest =>
    rw [kept, trimPieces_cons] at first
    rw [kept] at stops
    split at first
    · cases first
    · cases first
      simpa using stops

theorem parts_suffix (path : Path) : path.parts.2 <:+ splitOn '/' path.spelling := by
  unfold parts
  split
  · exact List.nil_suffix
  · exact List.nil_suffix
  · rename_i pieces
    rw [pieces]
    exact List.suffix_cons _ _
  · rename_i pieces
    rw [pieces]
    exact List.suffix_cons _ _
  · exact List.suffix_refl _

theorem components_below? {path base rest : Path} (steps : base.components ≠ [])
    (below : path.below? base = some rest) :
    rest.components = path.components.drop base.components.length := by
  have some : 1 ≤ base.components.length := List.length_pos_iff.mpr steps
  have whole : ∀ piece ∈ path.parts.2, '/' ∉ piece := fun piece member =>
    not_mem_of_mem_splitOn (path.parts_suffix.subset member)
  have spelled : path.components = path.parts.1.toList ++ path.parts.2.filterMap step? := rfl
  unfold below? at below
  cases parts : path.parts with
  | mk lead body =>
  rw [parts] at spelled
  simp only [parts] at below whole
  split at below
  · rw [if_neg (by simpa using steps)] at below
    cases below
    rw [components_join, filterMap_trimPieces, filterMap_dropWhile, filterMap_dropSteps, spelled]
    · cases lead with
      | none => simp
      | some lead =>
        cases count : base.components.length with
        | zero => omega
        | succ count => simp
    · intro piece member
      have inside := (List.dropWhile_suffix isSkipped).subset (mem_of_mem_trimPieces member)
      exact whole piece ((dropSteps_suffix _ body).subset inside)
    · exact fun piece => not_skipped_of_head?_trimPieces
  · cases below

theorem not_skipped_of_getLast?_trimPieces {pieces : List Text} {piece : Text}
    (last : (trimPieces pieces).getLast? = some piece) : isSkipped piece = false := by
  induction pieces with
  | nil => cases last
  | cons other pieces ih =>
    rw [trimPieces_cons] at last
    split at last
    · cases last
    · rename_i kept
      cases rest : trimPieces pieces with
      | nil =>
        simp only [rest, List.isEmpty_nil, Bool.true_and, Bool.not_eq_true] at kept
        rw [rest] at last
        rwa [← Option.some.inj last]
      | cons next others =>
        rw [rest, List.getLast?_cons_cons] at last
        exact ih (rest ▸ last)

/-- What is left of a path below another one ends in a step, when it starts with one that is a name or
leads to the directory above. -/
theorem splitOn_below? {path base rest : Path} (below : path.below? base = some rest) :
    ∃ first more, splitOn '/' rest.spelling = first :: more ∧
      (isSkipped first = false → ∀ last, more.getLast? = some last → isSkipped last = false) := by
  have joined {pieces : List Text} (whole : ∀ piece ∈ pieces, '/' ∉ piece) :
      ∃ first more, splitOn '/' (join ['/'] (trimPieces pieces)) = first :: more ∧
        (isSkipped first = false → ∀ last, more.getLast? = some last → isSkipped last = false) := by
    cases kept : trimPieces pieces with
    | nil => exact ⟨[], [], rfl, by rintro ⟨⟩⟩
    | cons first more =>
      refine ⟨first, more, splitOn_join (by simp) fun piece member => ?_, fun _ last ended => ?_⟩
      · exact whole piece (mem_of_mem_trimPieces (kept ▸ member))
      · have final : (trimPieces pieces).getLast? = some last := by
          rw [kept, List.getLast?_cons, ended]
          rfl
        exact not_skipped_of_getLast?_trimPieces final
  have whole : ∀ piece ∈ path.parts.2, '/' ∉ piece := fun piece member =>
    not_mem_of_mem_splitOn (path.parts_suffix.subset member)
  unfold below? at below
  cases parts : path.parts with
  | mk lead body =>
  rw [parts] at whole
  simp only [parts] at below
  split at below
  · split at below
    · cases below
      cases lead with
      | none => exact joined whole
      | some lead =>
        cases lead with
        | current =>
          simp only [spell]
          split
          · exact ⟨['.'], [], rfl, by rintro ⟨⟩⟩
          · exact ⟨['.'], _, splitOn_append_cons (show '/' ∉ ['.'] by decide) _, by rintro ⟨⟩⟩
        | root | parent | name => exact ⟨[], _, splitOn_cons_self _, by rintro ⟨⟩⟩
    · cases below
      refine joined fun piece member => whole piece ?_
      exact (dropSteps_suffix _ body).subset ((List.dropWhile_suffix isSkipped).subset member)
  · cases below

theorem eq_of_step? {piece name : Text} (step : step? piece = some (.name name)) : piece = name := by
  unfold step? at step
  split at step
  · cases step
  · split at step <;> cases step
    rfl

theorem eq_of_leadingStep {first name : Text} (lead : leadingStep first = some (.name name)) :
    first = name := by
  unfold leadingStep at lead
  split at lead
  · cases lead
  · split at lead
    · cases lead
    · exact eq_of_step? lead

theorem IsName.leadingStep_eq {name : Text} (proper : IsName name) :
    leadingStep name = some (.name name) := by
  have solid : name ≠ [] ∧ name ≠ ['.'] := by
    constructor <;> rintro rfl <;> cases proper.solid
  simp [leadingStep, solid, proper.step?_eq]

theorem prefix_iff_of_below? {path base rest : Path} {name : Text}
    (below : path.below? base = some rest) (proper : IsName name) :
    name ++ ['/'] <+: rest.spelling ↔ ∃ step steps, rest.components = .name name :: step :: steps := by
  obtain ⟨first, more, pieces, final⟩ := splitOn_below? below
  constructor
  · rintro ⟨behind, spelled⟩
    have parted : splitOn '/' rest.spelling = name :: splitOn '/' behind := by
      rw [← spelled, List.append_assoc]
      exact splitOn_append_cons proper.whole behind
    obtain ⟨rfl, rfl⟩ := List.cons.inj (pieces.symm.trans parted)
    have steps : rest.components = .name first :: (splitOn '/' behind).filterMap step? := by
      rw [components_eq pieces fun _ => splitOn_ne_nil behind, proper.leadingStep_eq]
      rfl
    cases later : (splitOn '/' behind).filterMap step? with
    | cons step others => exact ⟨step, others, by rw [steps, later]⟩
    | nil =>
      have some : splitOn '/' behind ≠ [] := splitOn_ne_nil behind
      have last := List.getLast?_eq_some_getLast some
      have none := List.filterMap_eq_nil_iff.mp later _ (List.mem_of_getLast? last)
      rw [step?_eq_none_iff, final proper.solid _ last] at none
      cases none
  · rintro ⟨step, steps, found⟩
    have filled : first = [] → more ≠ [] := by
      rintro rfl rfl
      have empty : rest = ⟨[]⟩ := congrArg Path.mk (eq_nil_of_splitOn pieces)
      rw [empty] at found
      cases found
    rw [components_eq pieces filled] at found
    cases lead : leadingStep first with
    | none => exact absurd lead (leadingStep_ne_none first)
    | some leading =>
      rw [lead] at found
      obtain ⟨rfl, others⟩ := List.cons.inj (show leading :: more.filterMap step? = _ from found)
      obtain rfl := eq_of_leadingStep lead
      have some : more ≠ [] := by
        rintro rfl
        cases others
      rw [← join_splitOn '/' rest.spelling, pieces, join_cons some]
      exact ⟨join ['/'] more, by simp⟩

theorem whole_of_fileName? {path : Path} {name : Text} (named : path.fileName? = some name) :
    '/' ∉ name := by
  rcases List.mem_append.mp (List.mem_of_getLast? (getLast?_of_fileName? named)) with lead | body
  · unfold parts at lead
    split at lead <;> simp at lead
  · obtain ⟨piece, member, step⟩ := List.mem_filterMap.mp body
    obtain rfl := eq_of_step? step
    exact not_mem_of_mem_splitOn (path.parts_suffix.subset member)

theorem exists_below? {path base : Path} (under : base.components <+: path.components) :
    ∃ rest, path.below? base = some rest := by
  unfold below?
  rw [if_pos (List.isPrefixOf_iff_prefix.mpr under)]
  by_cases steps : base.components.isEmpty = true
  · exact ⟨_, if_pos steps⟩
  · exact ⟨_, if_neg steps⟩

theorem dropWhile_dropSteps {count : Nat} {left right : List Text}
    (size : (left.filterMap step?).length = count) :
    (dropSteps count (left ++ right)).dropWhile isSkipped = right.dropWhile isSkipped := by
  induction left generalizing count with
  | nil =>
    subst size
    cases right <;> rfl
  | cons piece left ih =>
    cases skipped : isSkipped piece with
    | true =>
      rw [List.filterMap_cons, (step?_eq_none_iff piece).mpr skipped] at size
      have later := ih size
      cases count with
      | zero =>
        rw [dropSteps] at later ⊢
        rw [List.cons_append, List.dropWhile_cons_of_pos skipped, later]
      | succ count => rw [List.cons_append, dropSteps, if_pos skipped, later]
    | false =>
      cases step : step? piece with
      | none => simp [(step?_eq_none_iff piece).mp step] at skipped
      | some component =>
        rw [List.filterMap_cons, step, List.length_cons] at size
        subst size
        rw [List.cons_append, dropSteps, if_neg (by simp [skipped]), ih rfl]

def tidy (path : Path) : Path :=
  ⟨join ['/'] (trimPieces ((splitOn '/' path.spelling).dropWhile isSkipped))⟩

theorem isSkipped_eq_false {piece : Text} (long : 1 < piece.length) : isSkipped piece = false := by
  cases skipped : isSkipped piece with
  | false => rfl
  | true =>
    simp only [isSkipped, Bool.or_eq_true, List.isEmpty_iff, beq_iff_eq] at skipped
    rcases skipped with rfl | rfl <;> simp at long

theorem trimPieces_eq_self {pieces : List Text}
    (solid : ∀ piece, pieces.getLast? = some piece → isSkipped piece = false) :
    trimPieces pieces = pieces := by
  induction pieces with
  | nil => rfl
  | cons piece pieces ih =>
    rw [trimPieces_cons]
    cases pieces with
    | nil => simp [trimPieces, solid piece rfl]
    | cons next rest =>
      rw [ih fun last ended => solid last (by simpa using ended)]
      simp

theorem tidy_eq_self {path : Path}
    (first : ∀ piece, (splitOn '/' path.spelling).head? = some piece → isSkipped piece = false)
    (last : ∀ piece, (splitOn '/' path.spelling).getLast? = some piece → isSkipped piece = false) :
    path.tidy = path := by
  have kept : (splitOn '/' path.spelling).dropWhile isSkipped = splitOn '/' path.spelling := by
    cases pieces : splitOn '/' path.spelling with
    | nil => rfl
    | cons piece rest =>
      rw [List.dropWhile_cons_of_neg (by simp [first piece (by rw [pieces]; rfl)])]
  rw [tidy, kept, trimPieces_eq_self last, join_splitOn]

theorem below?_append {path : Path} {more : Text} (filled : path.spelling ≠ [])
    (relative : more.head? ≠ some '/') : (path.append more).below? path = some (tidy ⟨more⟩) := by
  obtain ⟨first, rest, last, some, empty, before, after⟩ := exists_pieces_append filled relative
  have nothing : last.filterMap step? = [] := by
    rcases empty with rfl | rfl <;> rfl
  have behind : first = [] → rest ++ splitOn '/' more ≠ [] := by
    simp [splitOn_ne_nil]
  have steps : path.components = (leadOf first).1.toList ++
      ((leadOf first).2 ++ rest).filterMap step? := by
    rw [components_eq before some, leadingStep_eq, List.filterMap_append, nothing]
    simp
  have under : path.components.isPrefixOf (path.append more).components = true := by
    rw [components_append_text filled relative]
    exact List.isPrefixOf_iff_prefix.mpr (List.prefix_append _ _)
  have used : (((leadOf first).2 ++ rest).filterMap step?).length =
      path.components.length - (leadOf first).1.toList.length := by
    rw [steps]
    simp
  unfold below?
  rw [if_pos under, parts_eq after behind]
  simp only
  rw [if_neg (by simpa using components_ne_nil filled), ← List.append_assoc,
    dropWhile_dropSteps used]
  rfl

end Below

end RouteAtlas.Path
