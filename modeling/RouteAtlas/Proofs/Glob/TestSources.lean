import RouteAtlas.PathFilter
import RouteAtlas.Proofs.Glob.Matching
import RouteAtlas.Proofs.Path

namespace RouteAtlas

def InTestTree (text : Text) : Prop :=
  "src/test/".toList <+: text ∨ "/src/test/".toList <:+: text

def IsTestSource (text : Text) : Prop :=
  "_test.go".toList <:+ text ∨ (∃ middle, text = "test_".toList ++ middle ++ ".py".toList) ∨
    "_test.py".toList <:+ text ∨ InTestTree text

theorem exists_framed_iff (opening ending text : Text) :
    (∃ middle, text = opening ++ middle ++ ending) ↔
      opening <+: text ∧ ending <:+ text ∧ opening.length + ending.length ≤ text.length := by
  constructor
  · rintro ⟨middle, rfl⟩
    exact ⟨⟨middle ++ ending, by simp⟩, List.suffix_append _ _, by simp⟩
  · rintro ⟨⟨rest, rfl⟩, ends, room⟩
    have short : ending.length ≤ rest.length := by simpa using room
    obtain ⟨middle, rfl⟩ := List.suffix_of_suffix_length_le ends (List.suffix_append _ _) short
    exact ⟨middle, (List.append_assoc opening middle ending).symm⟩

instance (text : Text) : Decidable (InTestTree text) := inferInstanceAs (Decidable (_ ∨ _))

instance (text : Text) : Decidable (IsTestSource text) :=
  have : Decidable (∃ middle, text = "test_".toList ++ middle ++ ".py".toList) :=
    decidable_of_iff' _ (exists_framed_iff _ _ text)
  inferInstanceAs (Decidable (_ ∨ _ ∨ _ ∨ _))

namespace Glob

def Matches (pattern : Text) (path : Path) : Prop :=
  ∃ glob, parse PathFilter.options pattern = .ok glob ∧ glob.matchesPath path = true

def endingGlob (ending : Text) : Glob := ⟨PathFilter.options, .star :: ending.map .literal⟩

def framedGlob (opening ending : Text) : Glob :=
  ⟨PathFilter.options, opening.map .literal ++ .star :: ending.map .literal⟩

def insideGlob (directories : Text) : Glob :=
  ⟨PathFilter.options, .leading :: (directories.map .literal ++ [.inside])⟩

section Reading

variable {text ending opening directories : Text}

theorem basic_of_all (all : (text.all fun c => c.toNat < 128) = true) : ∀ c ∈ text, c.toNat < 128 := by
  simpa using all

theorem matchesText_endingGlob (basic : ∀ c ∈ ending, c.toNat < 128) (filled : ending ≠ []) :
    (endingGlob ending).matchesText text = true ↔ ending <:+ text := by
  have items : (endingGlob ending).items = .many .all :: (Text.bytes ending).map .literal := by
    rw [← ofTokens_literals PathFilter.options]
    rfl
  rw [matchesText_iff, items, itemsRead_everything]
  simp only [itemsRead_literals]
  constructor
  · rintro ⟨front, _, same, rfl⟩
    obtain ⟨left, right, rfl, _, nothing⟩ := Text.exists_of_bytes_eq_append basic filled
      (show Text.bytes text = front ++ (Text.bytes ending ++ []) by simpa using same)
    obtain rfl : right = [] := Text.bytes_inj nothing
    exact ⟨left, by simp⟩
  · rintro ⟨left, rfl⟩
    exact ⟨Text.bytes left, Text.bytes ending, Text.bytes_append left ending, rfl⟩

theorem matchesText_framedGlob (fresh : ∀ c ∈ opening, c.toNat < 128) (some : opening ≠ [])
    (basic : ∀ c ∈ ending, c.toNat < 128) (filled : ending ≠ []) :
    (framedGlob opening ending).matchesText text = true ↔
      ∃ middle, text = opening ++ middle ++ ending := by
  have items : (framedGlob opening ending).items =
      (Text.bytes opening).map .literal ++ .many .all :: (Text.bytes ending).map .literal := by
    rw [← ofTokens_literals PathFilter.options, ← ofTokens_literals PathFilter.options ending]
    cases opening with
    | nil => exact absurd rfl some
    | cons c opening => exact ofTokens_append PathFilter.options ((c :: opening).map .literal) _
  rw [matchesText_iff, items, itemsRead_append]
  simp only [itemsRead_literals, itemsRead_everything]
  constructor
  · rintro ⟨_, _, same, rfl, front, _, rfl, rfl⟩
    obtain ⟨left, rest, rfl, nothing, inner⟩ := Text.exists_of_bytes_eq_append fresh some
      (show Text.bytes text = [] ++ (Text.bytes opening ++ _) from same)
    obtain rfl : left = [] := Text.bytes_inj nothing
    obtain ⟨middle, right, rfl, _, empty⟩ := Text.exists_of_bytes_eq_append basic filled
      (show Text.bytes rest = front ++ (Text.bytes ending ++ []) by simpa using inner)
    obtain rfl : right = [] := Text.bytes_inj empty
    exact ⟨middle, by simp⟩
  · rintro ⟨middle, rfl⟩
    exact ⟨Text.bytes opening, Text.bytes middle ++ Text.bytes ending, by simp, rfl,
      Text.bytes middle, Text.bytes ending, rfl, rfl⟩

/-- The units in front of the directories end at a separator. -/
theorem reads_leading {units : List UInt8} :
    (Item.choice [[.maybe slash], [.many .all, .literal slash]]).Reads units ↔
      units = [] ∨ ∃ front, units = front ++ [slash] := by
  simp only [Item.Reads, BranchesRead, ItemsRead, UnitSet.accepts, implies_true, true_and, or_false]
  constructor
  · rintro (⟨_, _, rfl, rfl | rfl, rfl⟩ | ⟨front, _, rfl, _, _, rfl, rfl, rfl⟩)
    · exact .inl rfl
    · exact .inr ⟨[], rfl⟩
    · exact .inr ⟨front, by simp⟩
  · rintro (rfl | ⟨front, rfl⟩)
    · exact .inl ⟨[], [], rfl, .inl rfl, rfl⟩
    · exact .inr ⟨front, [slash], rfl, [slash], [], rfl, rfl, rfl⟩

theorem matchesText_insideGlob (basic : ∀ c ∈ directories, c.toNat < 128) :
    (insideGlob directories).matchesText text = true ↔
      directories ++ ['/'] <+: text ∨ '/' :: directories ++ ['/'] <:+: text := by
  have items : (insideGlob directories).items =
      [.choice [[.maybe slash], [.many .all, .literal slash]]] ++
        ((Text.bytes (directories ++ ['/'])).map .literal ++ [.many .all]) := by
    rw [← ofTokens_inside PathFilter.options]
    cases directories <;> rfl
  have solid : directories ++ ['/'] ≠ [] := by simp
  have low : ∀ c ∈ directories ++ ['/'], c.toNat < 128 := by
    intro c member
    rcases List.mem_append.mp member with member | member
    · exact basic c member
    · rw [List.mem_singleton.mp member]
      decide
  rw [matchesText_iff, items, itemsRead_append]
  simp only [itemsRead_append, itemsRead_literals, itemsRead_everything]
  constructor
  · rintro ⟨lead, _, same, ⟨_, _, rfl, leading, rfl⟩, _, rest, rfl, rfl, _⟩
    rw [List.append_nil] at same
    obtain ⟨left, right, rfl, before, _⟩ := Text.exists_of_bytes_eq_append low solid same
    rcases reads_leading.mp leading with rfl | ⟨front, rfl⟩
    · obtain rfl : left = [] := Text.bytes_inj before
      exact .inl ⟨right, rfl⟩
    · obtain ⟨outer, none, rfl, _, empty⟩ := Text.exists_of_bytes_eq_append_cons
        (c := '/') (by decide) before
      obtain rfl : none = [] := Text.bytes_inj empty
      exact .inr ⟨outer, right, by simp⟩
  · rintro (⟨rest, rfl⟩ | ⟨front, rest, rfl⟩)
    · exact ⟨[], _, by simp, ⟨[], [], rfl, reads_leading.mpr (.inl rfl), rfl⟩, _, Text.bytes rest,
        Text.bytes_append _ rest, rfl, Text.bytes rest, [], (List.append_nil _).symm, rfl⟩
    · have encoded : String.utf8EncodeChar '/' = [slash] := rfl
      exact ⟨Text.bytes front ++ [slash], Text.bytes (directories ++ ['/']) ++ Text.bytes rest,
        by simp [Text.bytes_cons, encoded],
        ⟨_, [], (List.append_nil _).symm, reads_leading.mpr (.inr ⟨Text.bytes front, rfl⟩), rfl⟩,
        _, Text.bytes rest, rfl, rfl, Text.bytes rest, [], (List.append_nil _).symm, rfl⟩

end Reading

section Patterns

variable {path : Path}

theorem endsAbove_eq_false {ending : Text} (free : '/' ∉ ending) (long : 2 < ending.length)
    (ends : ending <:+ path.spelling) : endsAbove path = false := by
  obtain ⟨last, found, inside⟩ := Text.exists_getLast?_splitOn free ends
  have longer := inside.length_le
  have differ : last ≠ ['.', '.'] := by
    rintro rfl
    simp at longer
    omega
  simp [endsAbove, found, differ]

theorem matches_of_parse {pattern : Text} {glob : Glob}
    (parsed : parse PathFilter.options pattern = .ok glob) :
    Matches pattern path ↔ glob.matchesPath path = true := by
  simp [Matches, parsed]

theorem matches_iff {pattern : Text} {glob : Glob}
    (parsed : parse PathFilter.options pattern = .ok glob)
    (free : needsFileName glob.shape = false) :
    Matches pattern path ↔ glob.matchesText path.spelling = true := by
  rw [matches_of_parse parsed]
  simp [matchesPath, free]

theorem parse_goTests : parse PathFilter.options "*_test.go" = .ok (endingGlob "_test.go") := rfl

theorem parse_framed : parse PathFilter.options "test_*.py" = .ok (framedGlob "test_" ".py") := rfl

theorem parse_pyTests : parse PathFilter.options "*_test.py" = .ok (endingGlob "_test.py") := rfl

theorem parse_testTree : parse PathFilter.options "**/src/test/**" = .ok (insideGlob "src/test") := rfl

theorem matches_goTests : Matches "*_test.go" path ↔ "_test.go".toList <:+ path.spelling :=
  (matches_iff parse_goTests rfl).trans
    (matchesText_endingGlob (basic_of_all rfl) (by decide))

theorem matches_pyTests : Matches "*_test.py" path ↔ "_test.py".toList <:+ path.spelling :=
  (matches_iff parse_pyTests rfl).trans
    (matchesText_endingGlob (basic_of_all rfl) (by decide))

theorem matches_testTree : Matches "**/src/test/**" path ↔ InTestTree path.spelling :=
  (matches_iff parse_testTree rfl).trans
    (matchesText_insideGlob (basic_of_all rfl))

theorem matches_framed : Matches "test_*.py" path ↔
    ∃ middle, path.spelling = "test_".toList ++ middle ++ ".py".toList := by
  have reads : (framedGlob "test_" ".py").matchesText path.spelling = true ↔ _ :=
    matchesText_framedGlob (basic_of_all rfl) (by decide) (basic_of_all rfl) (by decide)
  rw [← reads, matches_of_parse parse_framed, matchesPath]
  constructor
  · intro found
    exact (Bool.and_eq_true_iff.mp found).2
  · intro found
    obtain ⟨middle, spelled⟩ := reads.mp found
    have ends : ".py".toList <:+ path.spelling := ⟨_, spelled.symm⟩
    rw [endsAbove_eq_false (by decide) (by decide) ends, found]
    rfl

theorem matches_testPatterns :
    (∃ pattern ∈ testPatterns, Matches pattern path) ↔ IsTestSource path.spelling := by
  unfold testPatterns IsTestSource
  simp only [List.mem_cons, List.not_mem_nil, exists_eq_or_imp, exists_eq_left, or_false,
    matches_goTests, matches_framed, matches_pyTests, matches_testTree]

def testGlobs : List Glob :=
  [endingGlob "_test.go", framedGlob "test_" ".py", endingGlob "_test.py", insideGlob "src/test"]

theorem anyMatches_testGlobs : anyMatches testGlobs path = true ↔ IsTestSource path.spelling := by
  unfold IsTestSource
  rw [← matches_goTests, ← matches_framed, ← matches_pyTests, ← matches_testTree,
    matches_of_parse parse_goTests, matches_of_parse parse_framed, matches_of_parse parse_pyTests,
    matches_of_parse parse_testTree]
  simp [anyMatches, testGlobs]

end Patterns

end Glob

section Places

variable {root path : Path} {top text name ending : Text}

theorem suffix_of_suffix_append (closed : top.getLast? = some '/') (free : '/' ∉ ending)
    (ends : ending <:+ top ++ text) : ending <:+ text := by
  obtain ⟨front, same⟩ := ends
  rcases List.append_eq_append_iff.mp same.symm with ⟨more, _, found⟩ | ⟨more, found, rfl⟩
  · exact ⟨more, found.symm⟩
  · rcases List.eq_nil_or_concat more with rfl | ⟨more, last, rfl⟩
    · exact List.suffix_refl text
    · rw [found, List.concat_eq_append, ← List.append_assoc, List.getLast?_concat] at closed
      simp [Option.some.inj closed] at free

theorem suffix_of_fileName? (named : path.fileName? = some name) (free : '/' ∉ ending)
    (long : 2 < ending.length) (ends : ending <:+ path.spelling) : ending <:+ name := by
  obtain ⟨last, found, inside⟩ := Text.exists_getLast?_splitOn free ends
  have longer := inside.length_le
  have proper : Path.IsName last := by
    refine ⟨Path.isSkipped_eq_false (by omega), ?_,
      Text.not_mem_of_mem_splitOn (List.mem_of_mem_getLast? found)⟩
    · rintro rfl
      simp at longer
      omega
  have same := Path.fileName?_eq found proper
  rw [named] at same
  rwa [Option.some.inj same]

theorem exists_spelling_append (absolute : root.isAbsolute = true) (relative : path.isAbsolute = false) :
    ∃ top, (root.append path.spelling).spelling = top ++ path.spelling ∧ top.head? = some '/' ∧
      top.getLast? = some '/' ∧ (top = root.spelling ∨ top = root.spelling ++ ['/']) := by
  have start : root.spelling.head? = some '/' := by simpa [Path.isAbsolute] using absolute
  have filled : root.spelling.isEmpty = false := by
    cases spelled : root.spelling with
    | nil => simp [spelled] at start
    | cons c rest => rfl
  have loose : (path.spelling.head? == some '/') = false := relative
  by_cases closed : root.spelling.getLast? = some '/'
  · exact ⟨root.spelling, by simp [Path.append, loose, closed], start, closed, .inl rfl⟩
  · refine ⟨root.spelling ++ ['/'], ?_, ?_, by simp, .inr rfl⟩
    · simp [Path.append, loose, filled, closed]
    · rw [List.head?_append, start]
      rfl

theorem inTestTree_of_append (opened : top.head? = some '/') (closed : top.getLast? = some '/')
    (loose : text.head? ≠ some '/') (free : "src".toList ∉ Text.splitOn '/' top)
    (inside : InTestTree (top ++ text)) : InTestTree text := by
  rcases inside with ⟨rest, same⟩ | ⟨front, rest, same⟩
  · cases top with
    | nil => cases opened
    | cons c top =>
      cases opened
      cases same
  · rw [List.append_assoc] at same
    rcases List.append_eq_append_iff.mp same.symm with ⟨more, _, found⟩ | ⟨more, rfl, found⟩
    · exact .inr ⟨more, rest, by rw [found, List.append_assoc]⟩
    · cases more with
      | nil =>
        rw [List.nil_append] at found
        rw [← found] at loose
        exact absurd rfl loose
      | cons c more =>
        obtain ⟨rfl, tails⟩ : '/' = c ∧ "src/test/".toList ++ rest = more ++ text :=
          List.cons.inj found
        rcases List.eq_nil_or_concat more with rfl | ⟨more, last, rfl⟩
        · exact .inl ⟨rest, tails⟩
        · -- the first piece of what is left of the root would be the name of the directory
          rw [List.concat_eq_append, ← List.cons_append, ← List.append_assoc,
            List.getLast?_concat] at closed
          obtain rfl := Option.some.inj closed
          have joined : more ++ '/' :: text = "src".toList ++ '/' :: ("test/".toList ++ rest) := by
            simpa using tails.symm
          have pieces := congrArg (Text.splitOn '/') joined
          rw [Text.splitOn_append_separator, Text.splitOn_append_cons (by decide)] at pieces
          rw [List.concat_eq_append, Text.splitOn_append_separator,
            Text.splitOn_append_separator] at free
          cases parted : Text.splitOn '/' more with
          | nil => exact absurd parted (Text.splitOn_ne_nil more)
          | cons piece others =>
            rw [parted] at pieces free
            obtain rfl : piece = "src".toList := (List.cons.inj pieces).1
            simp at free

theorem not_mem_splitOn_of_components (absolute : root.isAbsolute = true) (proper : Path.IsName name)
    (free : Component.name name ∉ root.components) (same : top = root.spelling ∨ top = root.spelling ++ ['/']) :
    name ∉ Text.splitOn '/' top := by
  have start : root.spelling.head? = some '/' := by simpa [Path.isAbsolute] using absolute
  obtain ⟨rest, spelled⟩ := List.head?_eq_some_iff.mp start
  have pieces : Text.splitOn '/' root.spelling = [] :: Text.splitOn '/' rest := by
    rw [spelled, Text.splitOn_cons_self]
  have filled : name ≠ [] := by
    rintro rfl
    cases proper.solid
  have outside : name ∉ Text.splitOn '/' rest := by
    intro member
    rw [Path.components_eq pieces fun _ => Text.splitOn_ne_nil rest] at free
    exact free (List.mem_append_right _ (List.mem_filterMap.mpr ⟨name, member, proper.step?_eq⟩))
  rcases same with rfl | rfl
  · simp [pieces, filled, outside]
  · rw [Text.splitOn_append_separator, pieces]
    simp [filled, outside, show Text.splitOn '/' [] = [[]] from rfl]

end Places

namespace PathFilter

theorem compile_default : compile [] [] false = .ok ⟨Glob.testGlobs, none⟩ := by
  cbv

variable {root rel : Path} {name : Text}

theorem allows_testGlobs (absolute : root.isAbsolute = true) (relative : rel.isAbsolute = false)
    (named : rel.fileName? = some name) :
    (⟨Glob.testGlobs, none⟩ : PathFilter).allows root (root.append rel.spelling) = false ↔
      IsTestSource rel.tidy.spelling ∨ IsTestSource (root.append rel.spelling).spelling ∨
        IsTestSource name := by
  have filled : root.spelling ≠ [] := by
    rintro spelled
    simp [Path.isAbsolute, spelled] at absolute
  have loose : rel.spelling.head? ≠ some '/' := by simpa [Path.isAbsolute] using relative
  have final : (root.append rel.spelling).fileName? = some name := by
    rw [Path.fileName?, Path.components_append_text filled loose, List.getLast?_append,
      Path.getLast?_filterMap_step? relative named]
    rfl
  simp only [allows, Path.below?_append filled loose, Option.getD_some, final, Option.any_some,
    Bool.and_true, Bool.not_eq_false', Bool.or_eq_true, Glob.anyMatches_testGlobs, or_assoc]

/-- The full path adds nothing but a directory of tests to what the name and the path below the root say. -/
theorem isTestSource_append {top : Text}
    (named : rel.fileName? = some name) (opened : top.head? = some '/')
    (closed : top.getLast? = some '/') (found : IsTestSource (top ++ rel.spelling)) :
    IsTestSource name ∨ InTestTree (top ++ rel.spelling) := by
  -- endings lie in the name, and a text that starts with a separator has no opening of a name
  rcases found with ends | ⟨middle, framed⟩ | ends | inside
  · exact .inl (.inl (suffix_of_fileName? named (by decide) (by decide)
      (suffix_of_suffix_append closed (by decide) ends)))
  · cases top with
    | nil => cases opened
    | cons c top =>
      cases opened
      cases framed
  · exact .inl (.inr (.inr (.inl (suffix_of_fileName? named (by decide) (by decide)
      (suffix_of_suffix_append closed (by decide) ends)))))
  · exact .inr inside

theorem isTestSource_of_rel {top : Text} (named : rel.fileName? = some name)
    (closed : top.getLast? = some '/') (found : IsTestSource rel.spelling) :
    IsTestSource rel.tidy.spelling ∨ IsTestSource name ∨ InTestTree (top ++ rel.spelling) := by
  rcases found with ends | ⟨middle, framed⟩ | ends | inside
  · exact .inr (.inl (.inl (suffix_of_fileName? named (by decide) (by decide) ends)))
  · have first : ∀ piece, (Text.splitOn '/' rel.spelling).head? = some piece →
        Path.isSkipped piece = false := by
      intro piece start
      rw [framed] at start
      obtain ⟨more, same⟩ := Text.exists_head?_splitOn (show 't' ≠ '/' by decide)
        ("est_".toList ++ middle ++ ".py".toList)
      obtain rfl : 't' :: more = piece := Option.some.inj (same.symm.trans start)
      rfl
    have last : ∀ piece, (Text.splitOn '/' rel.spelling).getLast? = some piece →
        Path.isSkipped piece = false := by
      intro piece ended
      have ends : ".py".toList <:+ rel.spelling := ⟨_, framed.symm⟩
      obtain ⟨final, same, inside⟩ := Text.exists_getLast?_splitOn (show '/' ∉ ".py".toList by decide) ends
      obtain rfl : final = piece := Option.some.inj (same.symm.trans ended)
      exact Path.isSkipped_eq_false (Nat.lt_of_lt_of_le (by decide) inside.length_le)
    -- a path that starts with a letter and ends with an ending has nothing at its ends to drop
    rw [Path.tidy_eq_self first last]
    exact .inl (.inr (.inl ⟨middle, framed⟩))
  · exact .inr (.inl (.inr (.inr (.inl (suffix_of_fileName? named (by decide) (by decide) ends)))))
  · rcases inside with ⟨rest, same⟩ | inside
    · obtain ⟨front, rfl⟩ := List.getLast?_eq_some_iff.mp closed
      exact .inr (.inr (.inr ⟨front, rest, by rw [← same]; simp⟩))
    · exact .inr (.inr (.inr (inside.trans (List.suffix_append top _).isInfix)))

/-- By default a file is refused just when its path below the root or its name has the form of a test source
or a directory of tests lies on the full path. Below a root without a directory `src` the root plays no
part. -/
theorem allows_default_iff (absolute : root.isAbsolute = true) (relative : rel.isAbsolute = false)
    (named : rel.fileName? = some name) :
    ∃ filter, compile [] [] false = .ok filter ∧
      (filter.allows root (root.append rel.spelling) = false ↔
        (∃ pattern ∈ testPatterns, Glob.Matches pattern rel ∨ Glob.Matches pattern rel.tidy ∨
          Glob.Matches pattern ⟨name⟩) ∨
        Glob.Matches "**/src/test/**" (root.append rel.spelling)) ∧
      (Component.name "src" ∉ root.components →
        (filter.allows root (root.append rel.spelling) = false ↔
          ∃ pattern ∈ testPatterns, Glob.Matches pattern rel ∨ Glob.Matches pattern rel.tidy ∨
            Glob.Matches pattern ⟨name⟩)) := by
  obtain ⟨top, spelled, opened, closed, same⟩ := exists_spelling_append absolute relative
  have below : (∃ pattern ∈ testPatterns, Glob.Matches pattern rel ∨ Glob.Matches pattern rel.tidy ∨
      Glob.Matches pattern ⟨name⟩) ↔
      IsTestSource rel.spelling ∨ IsTestSource rel.tidy.spelling ∨ IsTestSource name := by
    simp only [and_or_left, exists_or, Glob.matches_testPatterns]
  have refused : (⟨Glob.testGlobs, none⟩ : PathFilter).allows root (root.append rel.spelling) = false ↔
      (IsTestSource rel.spelling ∨ IsTestSource rel.tidy.spelling ∨ IsTestSource name) ∨
        InTestTree (top ++ rel.spelling) := by
    rw [allows_testGlobs absolute relative named, spelled]
    constructor
    · rintro (form | form | form)
      · exact .inl (.inr (.inl form))
      · rcases isTestSource_append named opened closed form with form | inside
        · exact .inl (.inr (.inr form))
        · exact .inr inside
      · exact .inl (.inr (.inr form))
    · rintro ((form | form | form) | inside)
      · rcases isTestSource_of_rel named closed form with form | form | inside
        · exact .inl form
        · exact .inr (.inr form)
        · exact .inr (.inl (.inr (.inr (.inr inside))))
      · exact .inl form
      · exact .inr (.inr form)
      · exact .inr (.inl (.inr (.inr (.inr inside))))
  refine ⟨⟨Glob.testGlobs, none⟩, compile_default, ?_, ?_⟩
  · rw [refused, below, Glob.matches_testTree, spelled]
  · intro free
    have loose : rel.spelling.head? ≠ some '/' := by simpa [Path.isAbsolute] using relative
    have proper : Path.IsName "src" := by constructor <;> decide
    have outside := not_mem_splitOn_of_components absolute proper free same
    rw [refused, below]
    constructor
    · rintro (form | inside)
      · exact form
      · exact .inl (.inr (.inr (.inr (inTestTree_of_append opened closed loose outside inside))))
    · exact .inl

theorem allows_default_iff_of_serviceTest :
    (⟨"/work"⟩ : Path).isAbsolute = true ∧ (⟨"svc/src/test/A.java"⟩ : Path).isAbsolute = false ∧
      (⟨"svc/src/test/A.java"⟩ : Path).fileName? = some "A.java" ∧
      Component.name "src" ∉ (⟨"/work"⟩ : Path).components ∧
      ∃ filter, compile [] [] false = .ok filter ∧
        filter.allows ⟨"/work"⟩ ((⟨"/work"⟩ : Path).append "svc/src/test/A.java") = false := by
  have absolute : (⟨"/work"⟩ : Path).isAbsolute = true := by decide
  have relative : (⟨"svc/src/test/A.java"⟩ : Path).isAbsolute = false := by decide
  have named : (⟨"svc/src/test/A.java"⟩ : Path).fileName? = some "A.java" := by decide
  obtain ⟨filter, compiled, _, alike⟩ := allows_default_iff absolute relative named
  have free : Component.name "src" ∉ (⟨"/work"⟩ : Path).components := by decide
  have inside : InTestTree "svc/src/test/A.java" := .inr (by decide +kernel)
  exact ⟨absolute, relative, named, free, filter, compiled, (alike free).mpr
    ⟨_, by decide, .inl (Glob.matches_testTree.mpr inside)⟩⟩

/-- The place of the root decides on a file of no test form, and so does a `.` step on a file below a
directory whose name starts like that of a test source. -/
theorem allows_default_by_place : ∃ filter, compile [] [] false = .ok filter ∧
    filter.allows ⟨"/work"⟩ ((⟨"/work"⟩ : Path).append "app.py") = true ∧
    filter.allows ⟨"/src/test"⟩ ((⟨"/src/test"⟩ : Path).append "app.py") = false ∧
    (¬ ∃ pattern ∈ testPatterns, Glob.Matches pattern ⟨"app.py"⟩) ∧
    filter.allows ⟨"/work"⟩ ((⟨"/work"⟩ : Path).append "./test_x/a.py") = false ∧
    (¬ ∃ pattern ∈ testPatterns,
      Glob.Matches pattern ⟨"./test_x/a.py"⟩ ∨ Glob.Matches pattern ⟨"a.py"⟩) := by
  have formless : ∀ path : Path, ¬ IsTestSource path.spelling →
      ¬ ∃ pattern ∈ testPatterns, Glob.Matches pattern path :=
    fun path free found => free (Glob.matches_testPatterns.mp found)
  refine ⟨⟨Glob.testGlobs, none⟩, compile_default, ?_, ?_, formless _ (by decide +kernel), ?_, ?_⟩
  · rw [← Bool.not_eq_false, allows_testGlobs rfl rfl (show _ = some "app.py".toList by decide)]
    decide +kernel
  · rw [allows_testGlobs rfl rfl (show _ = some "app.py".toList by decide)]
    decide +kernel
  · rw [allows_testGlobs rfl rfl (show _ = some "a.py".toList by decide)]
    decide +kernel
  · rintro ⟨pattern, member, found | found⟩
    · exact formless _ (by decide +kernel) ⟨pattern, member, found⟩
    · exact formless _ (by decide +kernel) ⟨pattern, member, found⟩

end PathFilter

end RouteAtlas
