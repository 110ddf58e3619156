import RouteAtlas.Glob.Shape

namespace RouteAtlas

def dependencyDirectories : List Text :=
  ["node_modules", "vendor", "target", "venv", "__pycache__", "site-packages", "build", "dist"]

def testPatterns : List Text := ["*_test.go", "test_*.py", "*_test.py", "**/src/test/**"]

def isHidden (name : Text) : Bool := name.head? == some '.'

structure PathFilter where
  unwanted : List Glob
  /-- Without patterns every path is wanted. -/
  wanted : Option (List Glob)

namespace PathFilter

/-- Wildcards in these patterns match across directories. -/
def options : GlobOptions := ⟨false, false⟩

def compile (wanted unwanted : List Text) (includeTests : Bool) : Except GlobError PathFilter := do
  let wantedGlobs ← if wanted.isEmpty then pure none
    else some <$> Glob.compile options wanted
  let unwantedGlobs ←
    Glob.compile options (unwanted ++ if includeTests then [] else testPatterns)
  return ⟨unwantedGlobs, wantedGlobs⟩

def allows (filter : PathFilter) (root path : Path) : Bool :=
  let relative := (path.below? root).getD path
  let isUnwanted := Glob.anyMatches filter.unwanted relative ||
    Glob.anyMatches filter.unwanted path ||
    path.fileName?.any fun name => Glob.anyMatches filter.unwanted ⟨name⟩
  let isWanted := match filter.wanted with
    | some globs => Glob.anyMatches globs relative || Glob.anyMatches globs path
    | none => true
  !isUnwanted && isWanted

def skipsDirectory (name : Text) : Bool := dependencyDirectories.contains name || isHidden name

/-- The verdict on a file that was not found by a walk: its directories count as well. -/
def accepts (filter : PathFilter) (root path : Path) : Bool :=
  match path.below? root with
  | none => false
  | some relative =>
    !(relative.components.dropLast.any fun step => skipsDirectory step.text) &&
      filter.allows root path

end PathFilter

end RouteAtlas
