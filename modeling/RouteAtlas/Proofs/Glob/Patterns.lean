import RouteAtlas.Proofs.Glob.TestSources
import RouteAtlas.Proofs.Text.Pattern

namespace RouteAtlas

theorem bind_eq_ok_iff {ε α β : Type} {first : Except ε α} {next : α → Except ε β} {result : β} :
    (first >>= next) = .ok result ↔ ∃ value, first = .ok value ∧ next value = .ok result := by
  cases first <;> simp [bind, Except.bind]

namespace Glob

section Lists

variable {options : GlobOptions} {patterns others : List Text} {globs : List Glob} {path : Path}

theorem mem_mapM_iff {α β ε : Type} {f : α → Except ε β} {items : List α} {found : List β}
    (read : items.mapM f = .ok found) (result : β) :
    result ∈ found ↔ ∃ item ∈ items, f item = .ok result := by
  induction items generalizing found with
  | nil =>
    cases read
    simp
  | cons item items ih =>
    rw [List.mapM_cons] at read
    obtain ⟨value, first, later⟩ := bind_eq_ok_iff.mp read
    obtain ⟨values, rest, same⟩ := bind_eq_ok_iff.mp later
    cases same
    rw [List.mem_cons, ih rest]
    simp [first, eq_comm]

theorem exists_mapM_iff {α β ε : Type} {f : α → Except ε β} {items : List α} :
    (∃ found, items.mapM f = .ok found) ↔ ∀ item ∈ items, ∃ result, f item = .ok result := by
  induction items with
  | nil => simp [pure, Except.pure]
  | cons item items ih =>
    rw [List.forall_mem_cons, ← ih, List.mapM_cons]
    simp only [bind_eq_ok_iff]
    constructor
    · rintro ⟨_, value, first, values, rest, _⟩
      exact ⟨⟨value, first⟩, values, rest⟩
    · rintro ⟨⟨value, first⟩, values, rest⟩
      exact ⟨value :: values, value, first, values, rest, rfl⟩

/-- Only patterns that are decided by an expression can be nested too deeply. -/
def Shallow (glob : Glob) : Prop :=
  glob.shape = .extensionAndMore ∨ glob.shape = .general → isTooDeep glob.items = false

theorem find?_deep_eq_none_iff : (globs.filter (·.shape == .extensionAndMore)).find?
      (fun glob => isTooDeep glob.items) = none ∧
    (globs.filter (·.shape == .general)).findIdx? (fun glob => isTooDeep glob.items) = none ↔
      ∀ glob ∈ globs, Shallow glob := by
  simp only [List.find?_eq_none, List.findIdx?_eq_none_iff, List.mem_filter, Shallow, beq_iff_eq,
    Bool.not_eq_true, and_imp, or_imp]
  constructor
  · rintro ⟨alone, together⟩ glob member
    exact ⟨alone glob member, together glob member⟩
  · intro shallow
    exact ⟨fun glob member => (shallow glob member).1, fun glob member => (shallow glob member).2⟩

theorem compile_eq_ok_iff : compile options patterns = .ok globs ↔
    patterns.mapM (parse options) = .ok globs ∧ ∀ glob ∈ globs, Shallow glob := by
  unfold compile
  cases patterns.mapM (parse options) with
  | error fault => simp [bind, Except.bind]
  | ok found =>
    have judged : (found = globs ∧ ∀ glob ∈ globs, Shallow glob) ↔
        found = globs ∧ ∀ glob ∈ found, Shallow glob :=
      and_congr_right fun same => by rw [same]
    simp only [bind, Except.bind, Except.ok.injEq]
    rw [judged, ← find?_deep_eq_none_iff]
    split
    next deep => simp [deep]
    next deep => simp [deep]
    next alone together => simp [alone, together]

/-- A list of patterns can be compiled just when each of them can. -/
theorem exists_compile_iff : (∃ globs, compile options patterns = .ok globs) ↔
    ∀ pattern ∈ patterns, ∃ glob, parse options pattern = .ok glob ∧ Shallow glob := by
  simp only [compile_eq_ok_iff]
  constructor
  · rintro ⟨globs, read, shallow⟩ pattern member
    obtain ⟨glob, parsed⟩ := exists_mapM_iff.mp ⟨globs, read⟩ pattern member
    exact ⟨glob, parsed, shallow glob ((mem_mapM_iff read glob).mpr ⟨pattern, member, parsed⟩)⟩
  · intro each
    obtain ⟨globs, read⟩ := exists_mapM_iff.mpr fun pattern member =>
      (each pattern member).imp fun glob compiled => compiled.1
    refine ⟨globs, read, fun glob found => ?_⟩
    obtain ⟨pattern, member, parsed⟩ := (mem_mapM_iff read glob).mp found
    obtain ⟨other, again, shallow⟩ := each pattern member
    rw [parsed] at again
    rwa [Except.ok.inj again]

theorem exists_compile_of_subset (compiled : compile options patterns = .ok globs)
    (fewer : others ⊆ patterns) : ∃ globs, compile options others = .ok globs :=
  exists_compile_iff.mpr fun pattern member => exists_compile_iff.mp ⟨globs, compiled⟩ pattern (fewer member)

theorem anyMatches_iff (compiled : compile PathFilter.options patterns = .ok globs) :
    anyMatches globs path = true ↔ ∃ pattern ∈ patterns, Matches pattern path := by
  obtain ⟨read, _⟩ := compile_eq_ok_iff.mp compiled
  simp only [anyMatches, List.any_eq_true, mem_mapM_iff read, Matches]
  constructor
  · rintro ⟨glob, ⟨pattern, member, parsed⟩, found⟩
    exact ⟨pattern, member, glob, parsed, found⟩
  · rintro ⟨pattern, member, glob, parsed, found⟩
    exact ⟨glob, ⟨pattern, member, parsed⟩, found⟩

end Lists

def marks : List Char := ['?', '*', '[', '{', '}', '\\']

section Directories

variable {options : GlobOptions} {directory text : Text} {path : Path}

def directoryGlob (directory : Text) : Glob := ⟨PathFilter.options, directory.map .literal ++ [.inside]⟩

theorem step_plain {c : Char} (plain : c ∉ marks) (state : State) (rest : Text) (single : state.frames = []) :
    state.step options c rest = .ok (state.push (.literal c) c, rest) := by
  simp only [marks, List.mem_cons, List.not_mem_nil, or_false, not_or] at plain
  obtain ⟨one, star, opens, group, closes, escape⟩ := plain
  unfold State.step
  by_cases comma : c = ','
  · simp [comma, State.nextBranch, single]
  · simp [one, star, opens, group, closes, escape, comma]

theorem run_plain (plain : ∀ c ∈ text, c ∉ marks) (bound : Nat) (state : State) (rest : Text)
    (single : state.frames = []) :
    State.run options (text.length + bound) state (text ++ rest) =
      State.run options bound { state with
        tokens := (text.map .literal).reverse ++ state.tokens, last := lastOr state.last text } rest := by
  induction text generalizing state with
  | nil => simp
  | cons c text ih =>
    obtain ⟨here, later⟩ := List.forall_mem_cons.mp plain
    rw [List.length_cons, Nat.add_right_comm, List.cons_append, State.run, step_plain here state _ single]
    have next := ih later (state.push (.literal c) c) single
    simpa [State.push, lastOr_cons] using next

theorem parse_directory (plain : ∀ c ∈ directory, c ∉ marks) :
    parse PathFilter.options (directory ++ "/**".toList) = .ok (directoryGlob directory) := by
  have both : ∀ c ∈ directory ++ ['/'], c ∉ marks := by
    intro c member
    rcases List.mem_append.mp member with inside | last
    · exact plain c inside
    · rw [List.mem_singleton.mp last]
      decide
  have read := @run_plain PathFilter.options _ both 2 ⟨[], [], none, false⟩ ['*', '*'] rfl
  have whole : directory ++ "/**".toList = (directory ++ ['/']) ++ ['*', '*'] := by simp
  have size : (directory ++ "/**".toList).length = (directory ++ ['/']).length + 2 := by simp
  have tokens : tokens? PathFilter.options (directory ++ "/**".toList) =
      .ok (directory.map .literal ++ [.inside]) := by
    rw [tokens?, size, whole, read]
    have ended : lastOr (lastOr none directory) ['/'] = some '/' := rfl
    simp [State.run, State.step, State.readDoubleStar, State.pushDirectories, ended]
  rw [parse, tokens]
  rfl

theorem matchesText_directoryGlob :
    (directoryGlob directory).matchesText text = true ↔ directory ++ ['/'] <+: text := by
  have items : (directoryGlob directory).items =
      (Text.bytes (directory ++ ['/'])).map .literal ++ [.many .all] := by
    rw [← ofTokens_inside PathFilter.options]
    cases directory <;> rfl
  rw [matchesText_iff, items, itemsRead_append]
  simp only [itemsRead_literals, itemsRead_everything]
  constructor
  · rintro ⟨_, rest, same, rfl, _⟩
    rw [Text.bytes_append, List.append_assoc] at same
    obtain ⟨left, right, rfl, before, _⟩ := Text.exists_of_bytes_eq_append_cons (c := '/') (by decide) same
    obtain rfl : left = directory := Text.bytes_inj before
    exact ⟨right, by simp⟩
  · rintro ⟨rest, rfl⟩
    exact ⟨_, Text.bytes rest, Text.bytes_append _ rest, rfl, Text.bytes rest, [],
      (List.append_nil _).symm, rfl⟩

theorem literals?_map (text : Text) : literals? (text.map .literal) = some text := by
  induction text with
  | nil => rfl
  | cons c text ih => simp [literals?, ih]

theorem shape_directoryGlob (filled : directory ≠ []) : (directoryGlob directory).shape = .affix := by
  have partly : literals? (directory.map .literal ++ [.inside]) = none := by
    induction directory with
    | nil => rfl
    | cons c directory ih =>
      cases directory with
      | nil => rfl
      | cons d directory => simpa [literals?] using ih (by simp)
  cases directory with
  | nil => exact absurd rfl filled
  | cons c directory =>
    have opening : isOpening PathFilter.options ((c :: directory).map .literal ++ [.inside]) = true := by
      simp only [isOpening, List.getLast?_concat, List.dropLast_concat, literals?_map, Option.isSome_some]
    have named : isFileName ((c :: directory).map .literal ++ [.inside]) = false := rfl
    have ending : isExtension PathFilter.options ((c :: directory).map .literal ++ [.inside]) = false := rfl
    simp only [shape, directoryGlob, named, isWholePath, partly, ending, opening]
    rfl

/-- The pattern of a directory matches what goes on below it at the start. -/
theorem matches_directory_iff (filled : directory ≠ []) (plain : ∀ c ∈ directory, c ∉ marks) :
    Matches (directory ++ "/**".toList) path ↔ directory ++ ['/'] <+: path.spelling := by
  rw [matches_iff (parse_directory plain) (by rw [shape_directoryGlob filled]; rfl),
    matchesText_directoryGlob]

end Directories

end Glob

namespace PathFilter

variable {wanted unwanted : List Text} {includeTests : Bool} {filter : PathFilter} {pattern : Text}

/-- The pattern matches the path below the root, the full path or the name. -/
def RefusedBy (pattern : Text) (root path : Path) : Prop :=
  Glob.Matches pattern ((path.below? root).getD path) ∨ Glob.Matches pattern path ∨
    ∃ name, path.fileName? = some name ∧ Glob.Matches pattern ⟨name⟩

def compileWanted (wanted : List Text) : Except GlobError (Option (List Glob)) :=
  if wanted.isEmpty then .ok none else some <$> Glob.compile options wanted

theorem compile_eq_ok_iff : compile wanted unwanted includeTests = .ok filter ↔
    compileWanted wanted = .ok filter.wanted ∧
      Glob.compile options (unwanted ++ if includeTests then [] else testPatterns) =
        .ok filter.unwanted := by
  obtain ⟨left, right⟩ := filter
  have order : compile wanted unwanted includeTests =
      (compileWanted wanted).bind fun first =>
        (Glob.compile options (unwanted ++ if includeTests then [] else testPatterns)).map (⟨·, first⟩) := by
    unfold compile compileWanted
    generalize Glob.compile options (unwanted ++ if includeTests then [] else testPatterns) = together
    cases wanted <;> cases together <;> rfl
  rw [order]
  cases compileWanted wanted with
  | error fault => simp [Except.bind]
  | ok first =>
    cases Glob.compile options (unwanted ++ if includeTests then [] else testPatterns) <;>
      simp [Except.bind, Except.map, and_comm]

def wants (wanted : Option (List Glob)) (root path : Path) : Bool :=
  (⟨[], wanted⟩ : PathFilter).allows root path

/-- A path is refused by one of the patterns, or it is not wanted. -/
theorem allows_eq_false_iff (compiled : compile wanted unwanted includeTests = .ok filter)
    (root path : Path) : filter.allows root path = false ↔
      (∃ pattern ∈ unwanted ++ if includeTests then [] else testPatterns, RefusedBy pattern root path) ∨
        wants filter.wanted root path = false := by
  obtain ⟨_, together⟩ := compile_eq_ok_iff.mp compiled
  have nothing (path : Path) : Glob.anyMatches [] path = false := rfl
  have unnamed : (path.fileName?.any fun _ => false) = false := by
    cases path.fileName? <;> rfl
  have refused : (∃ pattern ∈ unwanted ++ if includeTests then [] else testPatterns,
      RefusedBy pattern root path) ↔
      ((Glob.anyMatches filter.unwanted ((path.below? root).getD path) = true ∨
        Glob.anyMatches filter.unwanted path = true) ∨
        (path.fileName?.any fun name => Glob.anyMatches filter.unwanted ⟨name⟩) = true) := by
    simp only [Option.any_eq_true, Glob.anyMatches_iff together, RefusedBy]
    constructor
    · rintro ⟨pattern, member, below | whole | ⟨name, named, found⟩⟩
      · exact .inl (.inl ⟨pattern, member, below⟩)
      · exact .inl (.inr ⟨pattern, member, whole⟩)
      · exact .inr ⟨name, named, pattern, member, found⟩
    · rintro ((⟨pattern, member, below⟩ | ⟨pattern, member, whole⟩) | ⟨name, named, pattern, member, found⟩)
      · exact ⟨pattern, member, .inl below⟩
      · exact ⟨pattern, member, .inr (.inl whole)⟩
      · exact ⟨pattern, member, .inr (.inr ⟨name, named, found⟩)⟩
  rw [refused]
  simp only [allows, wants, nothing, unnamed, Bool.and_eq_false_iff, Bool.not_eq_false', Bool.or_eq_true,
    Bool.false_eq_true, or_false, false_or]

/-- Without one of its patterns a filter refuses what the other patterns refuse. -/
theorem exists_compile_without (compiled : compile wanted unwanted includeTests = .ok filter)
    (member : pattern ∈ unwanted) : ∃ others,
      compile wanted (unwanted.filter (· ≠ pattern)) includeTests = .ok others ∧
        ∀ root path, filter.allows root path = false ↔
          RefusedBy pattern root path ∨ others.allows root path = false := by
  obtain ⟨some, together⟩ := compile_eq_ok_iff.mp compiled
  have fewer : unwanted.filter (· ≠ pattern) ++ (if includeTests then [] else testPatterns) ⊆
      unwanted ++ if includeTests then [] else testPatterns :=
    List.append_subset.mpr ⟨List.Subset.trans List.filter_sublist.subset (List.subset_append_left _ _),
      List.subset_append_right _ _⟩
  obtain ⟨globs, rest⟩ := Glob.exists_compile_of_subset together fewer
  have remaining : compile wanted (unwanted.filter (· ≠ pattern)) includeTests =
      .ok ⟨globs, filter.wanted⟩ := compile_eq_ok_iff.mpr ⟨some, rest⟩
  refine ⟨_, remaining, fun root path => ?_⟩
  rw [allows_eq_false_iff compiled, allows_eq_false_iff remaining, ← or_assoc]
  refine or_congr_left ?_
  constructor
  · rintro ⟨other, listed, refused⟩
    by_cases same : other = pattern
    · exact .inl (same ▸ refused)
    · refine .inr ⟨other, ?_, refused⟩
      rcases List.mem_append.mp listed with given | test
      · exact List.mem_append_left _ (List.mem_filter.mpr ⟨given, by simpa using same⟩)
      · exact List.mem_append_right _ test
  · rintro (refused | ⟨other, listed, refused⟩)
    · exact ⟨pattern, List.mem_append_left _ member, refused⟩
    · exact ⟨other, fewer listed, refused⟩

end PathFilter

end RouteAtlas
