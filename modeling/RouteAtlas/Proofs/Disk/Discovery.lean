import RouteAtlas.Proofs.Disk.Visibility
import RouteAtlas.Proofs.Path.Order

namespace RouteAtlas

namespace FileTree

variable {tree node : FileTree} {names : List Text}

theorem Below.trans {middle : FileTree} {more : List Text} (first : tree.Below names middle)
    (rest : middle.Below more node) : tree.Below (names ++ more) node := by
  induction first with
  | here => exact rest
  | child member _ ih => exact .child member (ih rest)

/-- A tree as file systems keep it: its names are names of files and directories, and no directory has two
children of one name. -/
structure Proper (tree : FileTree) : Prop where
  named : tree.Named
  distinct : ∀ names children, tree.Below names (.directory children) →
    (children.map Prod.fst).Nodup

namespace Proper

theorem of_below (proper : tree.Proper) (below : tree.Below names node) : node.Proper where
  named _ other found name inside :=
    proper.named _ other (below.trans found) name (List.mem_append_right names inside)
  distinct _ children found := proper.distinct _ children (below.trans found)

theorem file (content : Content) (stamp : Stamp) : (FileTree.file content stamp).Proper where
  named := named_file content stamp
  distinct _ _ found := nomatch found

theorem directory_iff (children : List (Text × FileTree)) : (directory children).Proper ↔
    (children.map Prod.fst).Nodup ∧ ∀ child ∈ children, Path.IsName child.1 ∧ child.2.Proper := by
  constructor
  · intro proper
    refine ⟨proper.distinct [] children (.here _), fun child member => ⟨?_, ?_⟩⟩
    · exact ((named_directory_iff children).mp proper.named child member).1
    · exact proper.of_below (.child member (.here _))
  · rintro ⟨distinct, each⟩
    refine ⟨(named_directory_iff children).mpr fun child member =>
      ⟨(each child member).1, (each child member).2.named⟩, ?_⟩
    intro names others found
    cases found with
    | here => exact distinct
    | child member rest => exact (each _ member).2.distinct _ others rest

theorem tail {child : Text × FileTree} {children : List (Text × FileTree)}
    (proper : (directory (child :: children)).Proper) : (directory children).Proper := by
  rw [directory_iff] at proper ⊢
  exact ⟨(List.nodup_cons.mp proper.1).2, fun other member =>
    proper.2 other (List.mem_cons_of_mem child member)⟩

end Proper

theorem lookup_of_mem {children : List (Text × FileTree)} {name : Text}
    (distinct : (children.map Prod.fst).Nodup) (member : (name, node) ∈ children) :
    children.lookup name = some node := by
  obtain ⟨front, back, rfl⟩ := List.append_of_mem member
  rw [List.lookup_eq_some_iff]
  refine ⟨front, back, rfl, fun other inside => ?_⟩
  rw [List.map_append, List.map_cons, List.nodup_append] at distinct
  have apart := distinct.2.2 other.1 (List.mem_map_of_mem inside) name List.mem_cons_self
  simpa using Ne.symm apart

theorem at?_eq_some_iff (proper : tree.Proper) : tree.at? names = some node ↔ tree.Below names node := by
  refine ⟨below_of_at?, fun below => ?_⟩
  induction below with
  | here => rfl
  | child member rest ih =>
    have found := lookup_of_mem (proper.distinct [] _ (.here _)) member
    simpa [at?, child?, children, found] using ih (proper.of_below (.child member (.here _)))

theorem at?_append (tree : FileTree) (names more : List Text) :
    tree.at? (names ++ more) = (tree.at? names).bind (·.at? more) := by
  induction names generalizing tree with
  | nil => rfl
  | cons name names ih =>
    rw [List.cons_append, at?, at?, Option.bind_assoc]
    exact congrArg _ (funext ih)

theorem at?_file {content : Content} {stamp : Stamp} :
    (file content stamp).at? names = some node ↔ names = [] ∧ node = file content stamp := by
  cases names with
  | nil => simp [at?, eq_comm]
  | cons name names => simp [at?, child?, children]

end FileTree

theorem shown_iff (names : List Text) : Shown names ↔
    (∀ name ∈ names, isHidden name = false) ∧ ∀ name ∈ names.dropLast, name ∉ dependencyDirectories := by
  rcases List.eq_nil_or_concat names with rfl | ⟨front, last, rfl⟩
  · simp [Shown]
  · simp only [Shown, List.concat_eq_append, List.dropLast_concat, List.any_eq_false,
      PathFilter.skipsDirectory, List.getLast?_concat, List.mem_append, List.mem_singleton,
      Option.some.injEq, Bool.or_eq_true, not_or, Bool.not_eq_true, List.contains_iff_mem]
    constructor
    · rintro ⟨inner, outer⟩
      refine ⟨?_, fun name member => (inner name member).1⟩
      rintro name (member | rfl)
      · exact (inner name member).2
      · exact outer name rfl
    · rintro ⟨visible, own⟩
      refine ⟨fun name member => ⟨own name member, visible name (.inl member)⟩, ?_⟩
      rintro name rfl
      exact visible last (.inr rfl)

section Walk

variable {host : Host} {user : UserRules} {path : Path}

mutual

theorem exists_names_of_mem_walkChild {place : WalkPlace} (name : Text) (tree : FileTree)
    (member : path ∈ walkChild host user place name tree) :
    ∃ names content stamp, tree.Below names (.file content stamp) ∧
      path = place.path.descend (name :: names) := by
  cases tree with
  | file content stamp =>
    rw [walkChild] at member
    split at member
    · exact ⟨[], content, stamp, .here _, List.mem_singleton.mp member⟩
    · cases member
  | directory children =>
    rw [walkChild] at member
    split at member
    · exact exists_names_of_mem_walkChildren children member
    · cases member

theorem exists_names_of_mem_walkChildren {place : WalkPlace} (children : List (Text × FileTree))
    (member : path ∈ walkChildren host user place children) :
    ∃ names content stamp, (FileTree.directory children).Below names (.file content stamp) ∧
      path = place.path.descend names := by
  cases children with
  | nil => simp [walkChildren] at member
  | cons child children =>
    obtain ⟨name, tree⟩ := child
    rw [walkChildren, List.mem_append] at member
    rcases member with first | later
    · obtain ⟨names, content, stamp, found, same⟩ := exists_names_of_mem_walkChild name tree first
      exact ⟨name :: names, content, stamp, .child List.mem_cons_self found, same⟩
    · obtain ⟨_, content, stamp, found, same⟩ := exists_names_of_mem_walkChildren children later
      obtain ⟨next, other, rest, rfl, inside, below⟩ := FileTree.below_directory_iff.mp found
      exact ⟨next :: rest, content, stamp, .child (List.mem_cons_of_mem _ inside) below, same⟩

end

theorem components_ne_of_mem_walk {place : WalkPlace} {name : Text} {tree : FileTree} {other : Path}
    {children : List (Text × FileTree)} (filled : place.path.spelling ≠ [])
    (proper : (FileTree.directory ((name, tree) :: children)).Proper)
    (first : path ∈ walkChild host user place name tree)
    (later : other ∈ walkChildren host user place children) :
    path.components ≠ other.components := by
  obtain ⟨names, _, _, found, rfl⟩ := exists_names_of_mem_walkChild name tree first
  obtain ⟨_, _, _, below, rfl⟩ := exists_names_of_mem_walkChildren children later
  obtain ⟨next, child, rest, rfl, member, _⟩ := FileTree.below_directory_iff.mp below
  have here := proper.named _ _ (.child List.mem_cons_self found)
  have there := proper.tail.named _ _ below
  rw [Path.components_descend filled here, Path.components_descend filled there]
  intro same
  obtain ⟨rfl, _⟩ : name = next ∧ _ := by simpa using same
  have distinct := proper.distinct [] _ (.here _)
  rw [List.map_cons, List.nodup_cons] at distinct
  exact distinct.1 (List.mem_map.mpr ⟨(name, child), member, rfl⟩)

mutual

theorem pairwise_walkChild {place : WalkPlace} (name : Text) (tree : FileTree)
    (filled : place.path.spelling ≠ []) (proper : tree.Proper) :
    (walkChild host user place name tree).Pairwise fun first second =>
      first.components ≠ second.components := by
  cases tree with
  | file content stamp =>
    rw [walkChild]
    split <;> simp
  | directory children =>
    rw [walkChild]
    split
    · exact pairwise_walkChildren children (Path.spelling_append_ne_nil filled) proper
    · exact .nil

theorem pairwise_walkChildren {place : WalkPlace} (children : List (Text × FileTree))
    (filled : place.path.spelling ≠ []) (proper : (FileTree.directory children).Proper) :
    (walkChildren host user place children).Pairwise fun first second =>
      first.components ≠ second.components := by
  -- within one child by the recursion, and across children because their names differ
  cases children with
  | nil => simp [walkChildren]
  | cons child children =>
    obtain ⟨name, tree⟩ := child
    rw [walkChildren, List.pairwise_append]
    refine ⟨?_, pairwise_walkChildren children filled proper.tail, ?_⟩
    · exact pairwise_walkChild name tree filled (proper.of_below (.child List.mem_cons_self (.here _)))
    · exact fun _ first _ later => components_ne_of_mem_walk filled proper first later

end

end Walk

namespace Host

variable {host : Host} {root : Path}

/-- The path leads to a place from where the names lead to a file. -/
def HoldsFile (host : Host) (root : Path) (names : List Text) : Prop :=
  ∃ top content stamp, host.resolve root = .ok top ∧
    host.tree.at? (top ++ names) = some (.file content stamp)

/-- No ignore rules are in effect at the directory that a path leads to, if it leads to one, and below. -/
def FreeOfRules (host : Host) (root : Path) : Prop :=
  ∀ top children, host.resolve root = .ok top → host.tree.at? top = some (.directory children) →
    host.Unruled root top children

theorem mem_walk_iff_holdsFile {path : Path} (proper : host.tree.Proper) (free : host.FreeOfRules root) :
    path ∈ host.walk root ↔
      ∃ names, host.HoldsFile root names ∧ Shown names ∧ path = root.descend names := by
  cases leads : host.resolve root with
  | error fault => simp [walk, HoldsFile, leads]
  | ok top =>
    cases there : host.tree.at? top with
    | none => simp [walk, HoldsFile, leads, there, FileTree.at?_append]
    | some node =>
      cases node with
      | file content stamp =>
        simp [walk, HoldsFile, leads, there, FileTree.at?_append, FileTree.at?_file, Shown,
          Path.descend]
      | directory children =>
        have inner := proper.of_below (FileTree.below_of_at? there)
        rw [mem_walk_iff leads there (free top children leads there)]
        simp only [HoldsFile, leads, Except.ok.injEq, FileTree.at?_append]
        constructor
        · rintro ⟨names, content, stamp, found, shown, same⟩
          refine ⟨names, ⟨top, content, stamp, rfl, ?_⟩, shown, same⟩
          rw [there]
          exact (FileTree.at?_eq_some_iff inner).mpr found
        · rintro ⟨names, ⟨_, content, stamp, rfl, found⟩, shown, same⟩
          rw [there] at found
          exact ⟨names, content, stamp, FileTree.below_of_at? found, shown, same⟩

theorem pairwise_walk (proper : host.tree.Proper) :
    (host.walk root).Pairwise fun first second => first.components ≠ second.components := by
  unfold walk
  split
  · exact .nil
  · rename_i top leads
    split
    · rename_i children there
      exact pairwise_walkChildren children (spelling_ne_nil_of_resolve leads)
        (proper.of_below (FileTree.below_of_at? there))
    · simp
    · exact .nil

/-- Discovery is exact: the paths ascend strictly, and they are those of the files below the root that have
one of the extensions, that the filter allows, and that lie in no hidden or foreign directory and are not
hidden themselves. -/
theorem discover_exact (filter : PathFilter) (extensions : List Text) (proper : host.tree.Proper)
    (free : host.FreeOfRules root) :
    ((host.discover root filter extensions).Pairwise fun first second =>
        first.compare second = .lt) ∧
      ∀ path, path ∈ host.discover root filter extensions ↔
        ∃ names, host.HoldsFile root names ∧ path = root.descend names ∧
          (∃ extension ∈ extensions, path.extension? = some extension) ∧
          filter.allows root path = true ∧ (∀ name ∈ names, isHidden name = false) ∧
          ∀ name ∈ names.dropLast, name ∉ dependencyDirectories := by
  constructor
  · exact Path.pairwise_compare_mergeSort ((pairwise_walk proper).filter _)
  · intro path
    have suitable : path.extension?.any extensions.contains = true ↔
        ∃ extension ∈ extensions, path.extension? = some extension := by
      simp [Option.any_eq_true, and_comm]
    simp only [discover, List.mem_mergeSort, List.mem_filter, mem_walk_iff_holdsFile proper free,
      Bool.and_eq_true, suitable, shown_iff]
    constructor
    · rintro ⟨⟨names, file, shown, same⟩, extension, allowed⟩
      exact ⟨names, file, same, extension, allowed, shown⟩
    · rintro ⟨names, file, same, extension, allowed, shown⟩
      exact ⟨⟨names, file, shown, same⟩, extension, allowed⟩

def cachedFiles : List (Text × FileTree) :=
  [("a.py", .file (.text []) 1), ("a", .directory [("b.py", .file (.text []) 2)]),
    (".c.py", .file (.text []) 3), ("vendor", .directory [("d.py", .file (.text []) 4)])]

def cachedHost : Host where
  tree := .directory [(".cache", .directory [("build", .directory cachedFiles)])]
  workingDirectory := ⟨"/"⟩
  home := none
  configHome := none
  exported := []

theorem proper_cachedHost : cachedHost.tree.Proper := by
  have names : ∀ name ∈ ([".cache", "build", "a.py", "a", "b.py", ".c.py", "vendor", "d.py"] :
      List Text), Path.IsName name := by
    intro name member
    constructor <;> revert name <;> decide
  have single : ∀ (name : Text) (tree : FileTree), Path.IsName name → tree.Proper →
      (FileTree.directory [(name, tree)]).Proper := by
    intro name tree proper inner
    rw [FileTree.Proper.directory_iff]
    exact ⟨by simp, by simp [proper, inner]⟩
  have files : (FileTree.directory cachedFiles).Proper := by
    rw [FileTree.Proper.directory_iff]
    refine ⟨by decide, ?_⟩
    simp only [cachedFiles, List.forall_mem_cons]
    refine ⟨⟨names _ (by decide), .file _ _⟩, ⟨names _ (by decide), ?_⟩,
      ⟨names _ (by decide), .file _ _⟩, ⟨names _ (by decide), ?_⟩, by simp⟩
    · exact single _ _ (names _ (by decide)) (.file _ _)
    · exact single _ _ (names _ (by decide)) (.file _ _)
  exact single _ _ (names _ (by decide)) (single _ _ (names _ (by decide)) files)

theorem resolve_cachedHost :
    cachedHost.resolve ⟨"/.cache/build"⟩ = .ok [".cache", "build"] := rfl

theorem freeOfRules_cachedHost : cachedHost.FreeOfRules ⟨"/.cache/build"⟩ := by
  intro top children leads there
  have files : cachedHost.tree.at? [".cache", "build"] = some (.directory cachedFiles) := rfl
  obtain rfl : ([".cache", "build"] : List Text) = top :=
    Except.ok.inj (resolve_cachedHost.symm.trans leads)
  obtain rfl : cachedFiles = children :=
    FileTree.directory.inj (Option.some.inj (files.symm.trans there))
  unfold Unruled
  rw [WalkPlace.unruled_iff]
  refine ⟨by decide +kernel, ?_⟩
  intro name below member
  have inner : ∀ name below, (name, FileTree.directory below) ∈ cachedFiles →
      (name = "a".toList ∧ below = [("b.py".toList, .file (.text []) 2)]) ∨
        (name = "vendor".toList ∧ below = [("d.py".toList, .file (.text []) 4)]) := by
    intro name below member
    simpa [cachedFiles] using member
  rcases inner name below member with ⟨rfl, rfl⟩ | ⟨rfl, rfl⟩
  all_goals
    rw [WalkPlace.unruled_iff]
    refine ⟨by decide +kernel, ?_⟩
    intro name below member
    cases List.mem_singleton.mp member

theorem discover_exact_of_cachedFiles :
    ((cachedHost.discover ⟨"/.cache/build"⟩ ⟨[], none⟩ ["py"]).Pairwise fun first second =>
        first.compare second = .lt) ∧
      (⟨"/.cache/build/a/b.py"⟩ : Path) ∈
        cachedHost.discover ⟨"/.cache/build"⟩ ⟨[], none⟩ ["py"] ∧
      (⟨"/.cache/build/vendor/d.py"⟩ : Path) ∉
        cachedHost.discover ⟨"/.cache/build"⟩ ⟨[], none⟩ ["py"] := by
  obtain ⟨ascending, exact⟩ := discover_exact ⟨[], none⟩ ["py"] proper_cachedHost freeOfRules_cachedHost
  refine ⟨ascending, (exact _).mpr ?_, ?_⟩
  · exact ⟨["a", "b.py"], ⟨[".cache", "build"], .text [], 2, resolve_cachedHost, rfl⟩, by decide,
      ⟨"py", by decide, by decide⟩, by decide, by decide, by decide⟩
  · intro found
    obtain ⟨names, ⟨_, _, _, _, there⟩, same, _, _, _, own⟩ := (exact _).mp found
    have proper := proper_cachedHost.named _ _ (FileTree.below_of_at? there)
    have clean : ∀ name ∈ (["vendor", "d.py"] : List Text), Path.IsName name := by
      intro name member
      constructor <;> revert name <;> decide
    have filled : (⟨"/.cache/build"⟩ : Path).spelling ≠ [] := by decide
    obtain rfl : names = (["vendor", "d.py"] : List Text) := Path.descend_inj filled
      (fun name member => proper name (List.mem_append_right _ member)) clean same.symm
    exact own "vendor" (by decide) (by decide)

end Host

end RouteAtlas
