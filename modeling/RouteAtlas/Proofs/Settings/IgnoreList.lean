import RouteAtlas.Proofs.Glob.Patterns
import RouteAtlas.Proofs.Path
import RouteAtlas.Settings.Resolve

namespace RouteAtlas

structure PlainName (name : Text) : Prop extends Path.IsName name where
  fresh : name.head? ≠ some '#'
  plain : ∀ c ∈ name, c ∉ Glob.marks

theorem PlainName.filled {name : Text} (proper : PlainName name) : name ≠ [] := by
  rintro rfl
  cases proper.solid

namespace PathFilter

variable {root path rest : Path} {name : Text}

/-- The pattern of a directory asks for it at the start of the path below the root or of the full path. -/
theorem refusedBy_directory_iff (below : path.below? root = some rest) (proper : PlainName name) :
    RefusedBy (name ++ "/**".toList) root path ↔
      (∃ step steps, rest.components = .name name :: step :: steps) ∨
        name ++ ['/'] <+: path.spelling := by
  have named (file : Text) (last : path.fileName? = some file) :
      ¬ Glob.Matches (name ++ "/**".toList) ⟨file⟩ := by
    rw [Glob.matches_directory_iff proper.filled proper.plain]
    rintro ⟨behind, spelled⟩
    have whole := Path.whole_of_fileName? last
    rw [← show name ++ ['/'] ++ behind = file from spelled] at whole
    simp at whole
  rw [RefusedBy, below, Option.getD_some, Glob.matches_directory_iff proper.filled proper.plain,
    Glob.matches_directory_iff proper.filled proper.plain, Path.prefix_iff_of_below? below proper.toIsName]
  constructor
  · rintro (top | opening | ⟨file, last, found⟩)
    · exact .inl top
    · exact .inr opening
    · exact absurd found (named file last)
  · rintro (top | opening)
    · exact .inl top
    · exact .inr (.inl opening)

end PathFilter

theorem IgnoreList.mem_patterns {text line name : Text} (member : line ∈ Text.lines text)
    (spelled : Text.trim line = name ++ ['/']) (proper : PlainName name) :
    name ++ "/**".toList ∈ IgnoreList.patterns text := by
  have pattern : IgnoreList.patternOf (name ++ ['/']) = name ++ "/**".toList := by
    simp [IgnoreList.patternOf]
  have kept : (!(name ++ ['/']).isEmpty && (name ++ ['/']).head? != some '#') = true := by
    have fresh := proper.fresh
    cases name with
    | nil => exact absurd rfl proper.filled
    | cons c name => simpa using fresh
  rw [IgnoreList.patterns, ← pattern, ← spelled]
  refine List.mem_map_of_mem (List.mem_filter.mpr ⟨List.mem_map_of_mem member, ?_⟩)
  rw [spelled]
  exact kept

namespace Host

variable {host : Host} {directory list : Path} {overrides : Overrides} {settings : Settings}
  {text line name : Text} {wanted : List Text} {includeTests : Bool} {filter : PathFilter}

theorem ignored_of_settings (resolved : host.settings directory overrides = .ok settings) :
    settings.ignored = host.ignoreList directory := by
  unfold Host.settings at resolved
  obtain ⟨layers, _, rest⟩ := bind_eq_ok_iff.mp resolved
  dsimp only at rest
  split at rest
  · cases rest
  · cases rest
    rfl

/-- A directory on the nearest ignore list takes out the files below the directory of this name at the top
of the root, and those whose full path is spelled with this directory first. On all other files the
verdict is that of the other patterns. -/
theorem allows_with_directory_line (resolved : host.settings directory overrides = .ok settings)
    (nearest : host.nearest? directory IgnoreList.fileName = some list)
    (read : host.readText list = .ok text) (member : line ∈ Text.lines text)
    (spelled : Text.trim line = name ++ ['/']) (proper : PlainName name)
    (compiled : PathFilter.compile wanted settings.unwantedPatterns includeTests = .ok filter) :
    ∃ others, PathFilter.compile wanted (settings.unwantedPatterns.filter (· ≠ name ++ "/**".toList))
        includeTests = .ok others ∧
      ∀ root path rest : Path, path.below? root = some rest →
        (filter.allows root path = false ↔
          ((∃ step steps, rest.components = .name name :: step :: steps) ∨
            name ++ ['/'] <+: path.spelling) ∨ others.allows root path = false) := by
  have listed : name ++ "/**".toList ∈ settings.unwantedPatterns := by
    refine List.mem_append_right _ ?_
    rw [ignored_of_settings resolved, ignoreList, nearest]
    simp only [read]
    exact IgnoreList.mem_patterns member spelled proper
  obtain ⟨others, remaining, verdict⟩ := PathFilter.exists_compile_without compiled listed
  refine ⟨others, remaining, fun root path rest below => ?_⟩
  rw [verdict, PathFilter.refusedBy_directory_iff below proper]

def legacyHost : Host where
  tree := .directory [("repo", .directory [(".routescanignore",
    .file (.text "# old code\n  legacy/\n*_pb2.py\n") 1)])]
  workingDirectory := ⟨"/repo"⟩
  home := none
  configHome := none
  exported := []

def legacySettings : Settings := { Settings.default with ignored := ["legacy/**", "*_pb2.py"] }

theorem eq_ok_of_toOption {ε α : Type} {result : Except ε α} {value : α}
    (computed : result.toOption = some value) : result = .ok value := by
  cases result with
  | error fault => cases computed
  | ok found => rw [Option.some.inj computed]

theorem settings_legacyHost : legacyHost.settings ⟨"/repo"⟩ .none = .ok legacySettings :=
  eq_ok_of_toOption (by decide +kernel)

theorem nearest?_legacyHost :
    legacyHost.nearest? ⟨"/repo"⟩ IgnoreList.fileName = some ⟨"/repo/.routescanignore"⟩ := by
  decide +kernel

theorem readText_legacyHost : legacyHost.readText ⟨"/repo/.routescanignore"⟩ =
    .ok "# old code\n  legacy/\n*_pb2.py\n".toList :=
  eq_ok_of_toOption (by decide +kernel)

def legacyFilter : PathFilter :=
  ⟨[Glob.directoryGlob "legacy", Glob.endingGlob "_pb2.py"] ++ Glob.testGlobs, none⟩

theorem compile_legacySettings :
    PathFilter.compile [] legacySettings.unwantedPatterns false = .ok legacyFilter := by
  have patterns : legacySettings.unwantedPatterns = ["legacy/**".toList, "*_pb2.py".toList] := rfl
  rw [patterns]
  cbv

theorem allows_with_directory_line_of_legacyHost : PlainName "legacy" ∧
    legacyHost.settings ⟨"/repo"⟩ .none = .ok legacySettings ∧
    PathFilter.compile [] legacySettings.unwantedPatterns false = .ok legacyFilter ∧
    legacyFilter.allows ⟨"/repo"⟩ ⟨"/repo/legacy/v1/app.py"⟩ = false ∧
    ∃ others, PathFilter.compile [] (legacySettings.unwantedPatterns.filter (· ≠ "legacy/**".toList))
        false = .ok others ∧
      (legacyFilter.allows ⟨"/repo"⟩ ⟨"/repo/services/legacy/app.py"⟩ = false ↔
        others.allows ⟨"/repo"⟩ ⟨"/repo/services/legacy/app.py"⟩ = false) := by
  have proper : PlainName "legacy" := ⟨⟨by decide, by decide, by decide⟩, by decide, by simp [Glob.marks]⟩
  obtain ⟨others, remaining, verdict⟩ := allows_with_directory_line settings_legacyHost
    nearest?_legacyHost readText_legacyHost (show "  legacy/".toList ∈ _ by decide +kernel)
    (show _ = "legacy".toList ++ ['/'] by decide +kernel) proper compile_legacySettings
  refine ⟨proper, settings_legacyHost, compile_legacySettings, ?_, others, remaining, ?_⟩
  · have top : (⟨"/repo/legacy/v1/app.py"⟩ : Path).below? ⟨"/repo"⟩ = some ⟨"legacy/v1/app.py"⟩ := by
      decide +kernel
    exact (verdict _ _ _ top).mpr (.inl (.inl ⟨.name "v1", [.name "app.py"], by decide +kernel⟩))
  · have nested : (⟨"/repo/services/legacy/app.py"⟩ : Path).below? ⟨"/repo"⟩ =
        some ⟨"services/legacy/app.py"⟩ := by
      decide +kernel
    have steps : (⟨"services/legacy/app.py"⟩ : Path).components =
        [.name "services", .name "legacy", .name "app.py"] := by
      decide +kernel
    rw [verdict _ _ _ nested, steps]
    simp

/-- A directory of the listed name that does not stand at the top is not taken out. -/
theorem allows_below_nested_directory :
    legacyHost.settings ⟨"/repo"⟩ .none = .ok legacySettings ∧
      legacyHost.nearest? ⟨"/repo"⟩ IgnoreList.fileName = some ⟨"/repo/.routescanignore"⟩ ∧
      legacyHost.readText ⟨"/repo/.routescanignore"⟩ =
        .ok "# old code\n  legacy/\n*_pb2.py\n".toList ∧
      PathFilter.compile [] legacySettings.unwantedPatterns false = .ok legacyFilter ∧
      (⟨"/repo/services/legacy/app.py"⟩ : Path).below? ⟨"/repo"⟩ = some ⟨"services/legacy/app.py"⟩ ∧
      Component.name "legacy" ∈ (⟨"services/legacy/app.py"⟩ : Path).components.dropLast ∧
      legacyFilter.allows ⟨"/repo"⟩ ⟨"/repo/services/legacy/app.py"⟩ = true :=
  ⟨settings_legacyHost, nearest?_legacyHost, readText_legacyHost, compile_legacySettings,
    by decide +kernel, by decide +kernel, by decide +kernel⟩

end Host

end RouteAtlas
