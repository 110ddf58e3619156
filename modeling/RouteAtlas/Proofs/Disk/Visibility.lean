import RouteAtlas.Disk.Walk
import RouteAtlas.Proofs.Path

namespace RouteAtlas

namespace FileTree

inductive Below : FileTree → List Text → FileTree → Prop
  | here (tree : FileTree) : Below tree [] tree
  | child {children : List (Text × FileTree)} {name : Text} {child node : FileTree}
      {names : List Text} (member : (name, child) ∈ children) (rest : Below child names node) :
      Below (.directory children) (name :: names) node

theorem below_of_at? {tree node : FileTree} {names : List Text} (found : tree.at? names = some node) :
    tree.Below names node := by
  induction names generalizing tree with
  | nil =>
    cases found
    exact .here _
  | cons name names ih =>
    obtain ⟨child, named, rest⟩ := Option.bind_eq_some_iff.mp found
    cases tree with
    | file content stamp => cases named
    | directory children =>
      obtain ⟨front, back, rfl, _⟩ := List.lookup_eq_some_iff.mp named
      exact .child (by simp) (ih rest)

theorem below_directory_iff {children : List (Text × FileTree)} {names : List Text}
    {content : Content} {stamp : Stamp} :
    (directory children).Below names (.file content stamp) ↔
      ∃ name child rest, names = name :: rest ∧ (name, child) ∈ children ∧
        child.Below rest (.file content stamp) := by
  constructor
  · intro below
    cases below with
    | child member rest => exact ⟨_, _, _, rfl, member, rest⟩
  · rintro ⟨name, child, rest, rfl, member, below⟩
    exact .child member below

def Named (tree : FileTree) : Prop :=
  ∀ names node, tree.Below names node → ∀ name ∈ names, Path.IsName name

theorem named_file (content : Content) (stamp : Stamp) : (file content stamp).Named := by
  rintro _ _ ⟨⟩
  simp

theorem named_directory_iff (children : List (Text × FileTree)) :
    (directory children).Named ↔ ∀ child ∈ children, Path.IsName child.1 ∧ child.2.Named := by
  constructor
  · intro named child member
    refine ⟨named [child.1] child.2 (.child member (.here _)) child.1 (by simp), ?_⟩
    intro names node below name inside
    exact named _ node (.child member below) name (List.mem_cons_of_mem _ inside)
  · intro each names node below name inside
    cases below with
    | here => cases inside
    | child member below =>
      obtain ⟨proper, named⟩ := each _ member
      rcases List.mem_cons.mp inside with rfl | inside
      · exact proper
      · exact named _ node below name inside

end FileTree

namespace WalkPlace

/-- The ignore rules that count for what stands in a directory: its own and those of the directories
above it. Rules of version control and the user's own rules count inside a repository only. -/
def rulesInEffect (place : WalkPlace) (user : UserRules) : IgnoreRules :=
  place.rules.flatMap (·.plain) ++
    if place.rules.any (·.isRepository) then
      (DirectoryRules.upToRepository place.rules).flatMap (fun rules => rules.shared ++ rules.unshared) ++
        user.rules
    else []

inductive Reaches (host : Host) : WalkPlace → List (Text × FileTree) → WalkPlace → Prop
  | here (place : WalkPlace) (children : List (Text × FileTree)) : Reaches host place children place
  | child {place other : WalkPlace} {children below : List (Text × FileTree)} {name : Text}
      (member : (name, .directory below) ∈ children)
      (rest : Reaches host (place.child host name (.directory below)) below other) :
      Reaches host place children other

def Unruled (host : Host) (user : UserRules) (place : WalkPlace)
    (children : List (Text × FileTree)) : Prop :=
  ∀ other, Reaches host place children other → other.rulesInEffect user = []

variable {host : Host} {user : UserRules} {place : WalkPlace} {name : Text}

theorem Reaches.mono {children more : List (Text × FileTree)} {other : WalkPlace}
    (reaches : Reaches host place children other) (subset : children ⊆ more) :
    Reaches host place more other := by
  cases reaches with
  | here => exact .here place more
  | child member rest => exact .child (subset member) rest

theorem unruled_iff (children : List (Text × FileTree)) :
    Unruled host user place children ↔ place.rulesInEffect user = [] ∧
      ∀ name below, (name, .directory below) ∈ children →
        Unruled host user (place.child host name (.directory below)) below := by
  constructor
  · intro unruled
    exact ⟨unruled place (.here _ _), fun name below member other reaches =>
      unruled other (.child member reaches)⟩
  · rintro ⟨here, each⟩ other reaches
    cases reaches with
    | here => exact here
    | child member rest => exact each _ _ member other rest

theorem nearest_of_no_rules {part : DirectoryRules → IgnoreRules} {directories : List DirectoryRules}
    (none : ∀ rules ∈ directories, part rules = []) (isDirectory : Bool) (names : List Text)
    (relative : Text) :
    DirectoryRules.nearest part isDirectory directories names relative = .unsettled := by
  induction directories generalizing names relative with
  | nil => cases names <;> rfl
  | cons rules above ih =>
    have here : (part rules).verdict relative isDirectory = .unsettled := by
      rw [none rules List.mem_cons_self]
      rfl
    cases names with
    | nil => simpa [DirectoryRules.nearest] using here
    | cons name names =>
      have later := ih (fun other member => none other (List.mem_cons_of_mem rules member)) names
        (name ++ '/' :: relative)
      simpa [DirectoryRules.nearest, here, Verdict.orElse] using later

theorem verdict_of_no_rules (none : place.rulesInEffect user = []) (name : Text)
    (isDirectory : Bool) : place.verdict user name isDirectory = .unsettled := by
  simp only [rulesInEffect, List.append_eq_nil_iff, List.flatMap_eq_nil_iff] at none
  obtain ⟨plain, controlled⟩ := none
  unfold verdict
  rw [nearest_of_no_rules plain]
  split
  · rename_i repository
    simp only [repository, if_true, List.append_eq_nil_iff, List.flatMap_eq_nil_iff] at controlled
    obtain ⟨kept, own⟩ := controlled
    dsimp only
    rw [nearest_of_no_rules fun rules member => (kept rules member).1,
      nearest_of_no_rules fun rules member => (kept rules member).2]
    simp [Verdict.orElse, UserRules.verdict, own, IgnoreRules.verdict]
  · rfl

theorem visits_file (none : place.rulesInEffect user = []) (name : Text) :
    place.visits user name false = !isHidden name := by
  simp [visits, verdict_of_no_rules none]

theorem visits_directory (none : place.rulesInEffect user = []) (name : Text) :
    place.visits user name true = !PathFilter.skipsDirectory name := by
  simp only [visits, verdict_of_no_rules none, PathFilter.skipsDirectory, Bool.not_or, Bool.true_and]
  exact Bool.and_comm _ _

end WalkPlace

/-- The names on the way to a file that a walk finds: no directory of them is left out, and the file is
not hidden. -/
def Shown (names : List Text) : Prop :=
  names.dropLast.any PathFilter.skipsDirectory = false ∧
    ∀ name, names.getLast? = some name → isHidden name = false

theorem shown_cons_iff (name next : Text) (rest : List Text) :
    Shown (name :: next :: rest) ↔
      PathFilter.skipsDirectory name = false ∧ Shown (next :: rest) := by
  simp [Shown, and_assoc]

section Walk

open WalkPlace

variable {host : Host} {user : UserRules} {path : Path}

mutual

theorem mem_walkChild_iff {place : WalkPlace} (name : Text) (tree : FileTree)
    (here : place.rulesInEffect user = [])
    (below : ∀ children, tree = .directory children →
      Unruled host user (place.child host name tree) children) :
    path ∈ walkChild host user place name tree ↔
      ∃ names content stamp, tree.Below names (.file content stamp) ∧ Shown (name :: names) ∧
        path = (place.path.append name).descend names := by
  cases tree with
  | file content stamp =>
    rw [walkChild, visits_file here]
    constructor
    · intro member
      split at member
      · rename_i visible
        refine ⟨[], content, stamp, .here _, ⟨rfl, ?_⟩, List.mem_singleton.mp member⟩
        simpa using visible
      · cases member
    · rintro ⟨_, _, _, ⟨⟩, ⟨_, visible⟩, rfl⟩
      simp [visible name rfl, Path.descend]
  | directory children =>
    have inside := mem_walkChildren_iff children (below children rfl)
    rw [walkChild, visits_directory here]
    constructor
    · intro member
      split at member
      · rename_i entered
        obtain ⟨names, content, stamp, found, shown, same⟩ := inside.mp member
        obtain ⟨next, child, rest, rfl, _, _⟩ := FileTree.below_directory_iff.mp found
        exact ⟨next :: rest, content, stamp, found,
          (shown_cons_iff name next rest).mpr ⟨by simpa using entered, shown⟩, same⟩
      · cases member
    · rintro ⟨names, content, stamp, found, shown, same⟩
      obtain ⟨next, child, rest, rfl, _, _⟩ := FileTree.below_directory_iff.mp found
      obtain ⟨entered, shown⟩ := (shown_cons_iff name next rest).mp shown
      rw [entered, Bool.not_false, if_pos rfl]
      exact inside.mpr ⟨_, content, stamp, found, shown, same⟩

theorem mem_walkChildren_iff {place : WalkPlace} (children : List (Text × FileTree))
    (unruled : Unruled host user place children) :
    path ∈ walkChildren host user place children ↔
      ∃ names content stamp, (FileTree.directory children).Below names (.file content stamp) ∧
        Shown names ∧ path = place.path.descend names := by
  cases children with
  | nil => simp [walkChildren, FileTree.below_directory_iff]
  | cons child children =>
    obtain ⟨name, tree⟩ := child
    have first := mem_walkChild_iff name tree (unruled _ (.here _ _)) fun below same other reaches =>
      unruled other (.child (by simp [same]) (same ▸ reaches))
    have later : Unruled host user place children := fun other reaches =>
      unruled other (reaches.mono (List.subset_cons_self _ _))
    rw [walkChildren, List.mem_append, first, mem_walkChildren_iff children later]
    constructor
    · rintro (⟨names, content, stamp, found, shown, same⟩ |
        ⟨names, content, stamp, found, shown, same⟩)
      · exact ⟨name :: names, content, stamp, .child List.mem_cons_self found, shown, same⟩
      · obtain ⟨next, child, rest, rfl, member, found⟩ := FileTree.below_directory_iff.mp found
        exact ⟨_, content, stamp, .child (List.mem_cons_of_mem _ member) found, shown, same⟩
    · rintro ⟨names, content, stamp, found, shown, same⟩
      obtain ⟨next, child, rest, rfl, member, found⟩ := FileTree.below_directory_iff.mp found
      rcases List.mem_cons.mp member with here | member
      · cases here
        exact .inl ⟨rest, content, stamp, found, shown, same⟩
      · exact .inr ⟨_, content, stamp, .child member found, shown, same⟩

end

end Walk

namespace PathFilter

theorem accepts_descend (filter : PathFilter) {root : Path} {names : List Text}
    (filled : root.spelling ≠ []) (proper : ∀ name ∈ names, Path.IsName name) :
    filter.accepts root (root.descend names) =
      (!names.dropLast.any skipsDirectory && filter.allows root (root.descend names)) := by
  have steps := Path.components_descend filled proper
  have under : root.components <+: (root.descend names).components :=
    ⟨names.map .name, steps.symm⟩
  obtain ⟨rest, below⟩ := Path.exists_below? under
  have left := Path.components_below? (Path.components_ne_nil filled) below
  rw [steps, List.drop_left] at left
  simp only [accepts, below]
  rw [left, ← List.map_dropLast, List.any_map]
  rfl

end PathFilter

namespace Host

variable {host : Host} {root : Path} {top : List Text} {children : List (Text × FileTree)}

def Unruled (host : Host) (root : Path) (top : List Text) (children : List (Text × FileTree)) : Prop :=
  WalkPlace.Unruled host (.ofHost host) ⟨root, top.reverse, host.rulesAlong [] host.tree top⟩ children

theorem spelling_ne_nil_of_resolve (leads : host.resolve root = .ok top) : root.spelling ≠ [] := by
  intro empty
  unfold resolve at leads
  split at leads
  · cases leads
  split at leads
  · cases leads
  · simp [absolute, empty, FileTree.resolve] at leads

theorem mem_walk_iff {path : Path} (leads : host.resolve root = .ok top)
    (there : host.tree.at? top = some (.directory children)) (unruled : host.Unruled root top children) :
    path ∈ host.walk root ↔
      ∃ names content stamp, (FileTree.directory children).Below names (.file content stamp) ∧
        Shown names ∧ path = root.descend names := by
  unfold walk
  simp only [leads, there]
  exact mem_walkChildren_iff children unruled

/-- A file below a root is listed just when a change event for it is accepted and it is not hidden. -/
theorem listed_iff_accepted (filter : PathFilter) (extensions : List Text) {names : List Text}
    {content : Content} {stamp : Stamp} (leads : host.resolve root = .ok top)
    (there : host.tree.at? top = some (.directory children))
    (named : (FileTree.directory children).Named) (unruled : host.Unruled root top children)
    (file : (FileTree.directory children).at? names = some (.file content stamp))
    (extension : (root.descend names).extension?.any extensions.contains = true) :
    root.descend names ∈ (host.source root filter).list extensions ↔
      (host.source root filter).accepts (root.descend names) = true ∧
        ∀ name, names.getLast? = some name → isHidden name = false := by
  have filled := spelling_ne_nil_of_resolve leads
  have below := FileTree.below_of_at? file
  have proper := named names _ below
  have judged := filter.accepts_descend filled proper
  simp only [source, discover, List.mem_mergeSort, List.mem_filter, extension, Bool.true_and,
    mem_walk_iff leads there unruled, judged]
  constructor
  · rintro ⟨⟨others, _, _, found, shown, same⟩, allowed⟩
    obtain rfl := Path.descend_inj filled proper (named _ _ found) same
    exact ⟨by simp [shown.1, allowed], shown.2⟩
  · rintro ⟨accepted, visible⟩
    simp only [Bool.and_eq_true, Bool.not_eq_true'] at accepted
    exact ⟨⟨names, content, stamp, below, ⟨accepted.1, visible⟩, rfl⟩, accepted.2⟩

def packageFiles : List (Text × FileTree) := [("app.py", .file (.text []) 1)]

def draftFiles : List (Text × FileTree) :=
  [("api", .directory packageFiles), (".draft.py", .file (.text []) 2)]

def draftHost : Host where
  tree := .directory [("repo", .directory draftFiles)]
  workingDirectory := ⟨"/"⟩
  home := none
  configHome := none
  exported := []

theorem named_draftFiles : (FileTree.directory draftFiles).Named := by
  have proper : ∀ name ∈ (["api", "app.py", ".draft.py"] : List Text), Path.IsName name := by
    intro name member
    constructor <;> revert name <;> decide
  have package : (FileTree.directory packageFiles).Named := by
    rw [FileTree.named_directory_iff]
    rintro child member
    rw [List.mem_singleton.mp member]
    exact ⟨proper _ (by decide), FileTree.named_file _ _⟩
  rw [FileTree.named_directory_iff]
  intro child member
  rcases List.mem_cons.mp member with rfl | member
  · exact ⟨proper _ (by decide), package⟩
  · rw [List.mem_singleton.mp member]
    exact ⟨proper _ (by decide), FileTree.named_file _ _⟩

theorem unruled_draftHost : draftHost.Unruled ⟨"/repo"⟩ ["repo"] draftFiles := by
  unfold Unruled
  rw [WalkPlace.unruled_iff]
  refine ⟨by decide +kernel, ?_⟩
  intro name below member
  rcases List.mem_cons.mp member with here | member
  · cases here
    rw [WalkPlace.unruled_iff]
    refine ⟨by decide +kernel, ?_⟩
    intro name below member
    cases List.mem_singleton.mp member
  · cases List.mem_singleton.mp member

theorem listed_iff_accepted_of_openDirectory :
    (⟨"/repo/api/app.py"⟩ : Path) ∈ (draftHost.source ⟨"/repo"⟩ ⟨[], none⟩).list ["py"] ∧
      (draftHost.source ⟨"/repo"⟩ ⟨[], none⟩).accepts ⟨"/repo/api/app.py"⟩ = true := by
  have accepted : (draftHost.source ⟨"/repo"⟩ ⟨[], none⟩).accepts ⟨"/repo/api/app.py"⟩ = true := by
    decide
  have visible : ∀ name, (["api", "app.py"] : List Text).getLast? = some name →
      isHidden name = false := by
    rintro name ⟨⟩
    rfl
  have same := listed_iff_accepted ⟨[], none⟩ ["py"] rfl rfl named_draftFiles unruled_draftHost
    (show (FileTree.directory draftFiles).at? ["api", "app.py"] = some (.file (.text []) 1) from rfl)
    (by decide)
  exact ⟨same.mpr ⟨accepted, visible⟩, accepted⟩

/-- An event for a hidden file is accepted although no walk finds the file. -/
theorem accepts_hidden_file :
    draftHost.Unruled ⟨"/repo"⟩ ["repo"] draftFiles ∧
      draftHost.tree.at? ["repo", ".draft.py"] = some (.file (.text []) 2) ∧
      (draftHost.source ⟨"/repo"⟩ ⟨[], none⟩).accepts ⟨"/repo/.draft.py"⟩ = true ∧
      (⟨"/repo/.draft.py"⟩ : Path) ∉ (draftHost.source ⟨"/repo"⟩ ⟨[], none⟩).list ["py"] :=
  ⟨unruled_draftHost, rfl, by decide +kernel, by decide +kernel⟩

end Host

end RouteAtlas
