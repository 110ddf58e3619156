import RouteAtlas.Glob.Basic

namespace RouteAtlas

inductive GlobShape where
  /-- By the file name, which is given character by character. -/
  | fileName
  | wholePath
  | extension
  | affix
  /-- By an expression, for file names with the right extension only. -/
  | extensionAndMore
  | general
deriving DecidableEq, Repr

namespace Glob

def literals? : List GlobToken → Option Text
  | [] => some []
  | .literal c :: tokens => (literals? tokens).map (c :: ·)
  | _ :: _ => none

def afterLeading? : List GlobToken → Option (List GlobToken)
  | .leading :: tokens => some tokens
  | _ => none

def staysInName : GlobToken → Bool
  | .literal c => c != '/'
  | .charClass negated ranges =>
    (ranges.any fun (first, last) => first ≤ '/' && '/' ≤ last) == negated
  | _ => false

def isFileName (tokens : List GlobToken) : Bool :=
  (afterLeading? tokens).any fun name => !name.isEmpty && name.all staysInName

def isWholePath (tokens : List GlobToken) : Bool := (literals? tokens).any (!·.isEmpty)

/-- True for a star and an extension. The star has to match any path, or follow a double star. -/
def isExtension (options : GlobOptions) (tokens : List GlobToken) : Bool :=
  let free := (afterLeading? tokens).isSome || !options.separate
  match (afterLeading? tokens).getD tokens with
  | .star :: .literal '.' :: rest =>
    free && (literals? rest).any fun ext => ext.all fun c => c != '.' && c != '/'
  | _ => false

def isOpening (options : GlobOptions) (tokens : List GlobToken) : Bool :=
  match tokens.getLast? with
  | some .star => !options.separate && isWholePath tokens.dropLast
  | some .inside => (literals? tokens.dropLast).isSome
  | _ => false

/-- True when the pattern fixes how a path ends and nothing else. A lone separator does not count. -/
def isEnding (options : GlobOptions) (tokens : List GlobToken) : Bool :=
  match (afterLeading? tokens).getD tokens with
  | .star :: rest =>
    !options.separate && (literals? rest).any fun ending => !ending.isEmpty && ending != ['/']
  | rest => (afterLeading? tokens).isSome && isWholePath rest

/-- True when tokens read from the end come to a dot before anything but characters of a name. -/
def comesToDot : List GlobToken → Bool
  | .literal c :: tokens => c == '.' || (c != '/' && comesToDot tokens)
  | _ => false

def endsInExtension (tokens : List GlobToken) : Bool := comesToDot tokens.reverse

def shape (glob : Glob) : GlobShape :=
  if isFileName glob.tokens then .fileName
  else if isWholePath glob.tokens then .wholePath
  else if isExtension glob.options glob.tokens then .extension
  else if isOpening glob.options glob.tokens || isEnding glob.options glob.tokens then .affix
  else if endsInExtension glob.tokens then .extensionAndMore
  else .general

def needsFileName : GlobShape → Bool
  | .fileName | .extension | .extensionAndMore => true
  | .wholePath | .affix | .general => false

def endsAbove (path : Path) : Bool := (Text.splitOn '/' path.spelling).getLast? == some ['.', '.']

def matchesPath (glob : Glob) (path : Path) : Bool :=
  !(endsAbove path && needsFileName glob.shape) && glob.matchesText path.spelling

def anyMatches (globs : List Glob) (path : Path) : Bool := globs.any (·.matchesPath path)

/--
Compiles patterns. Each one is read before any is compiled; then those that are compiled on their own
come first, and the general ones together.
-/
def compile (options : GlobOptions) (patterns : List Text) : Except GlobError (List Glob) := do
  let globs ← patterns.mapM (parse options)
  let isDeep := fun glob : Glob => isTooDeep glob.items
  let alone := globs.filter (·.shape == .extensionAndMore)
  let together := globs.filter (·.shape == .general)
  match alone.find? isDeep, together.findIdx? isDeep with
  | some glob, _ => .error (.deepExpression (writeExpression glob.items))
  | none, some number => .error (.deepMember number)
  | none, none => .ok globs

end Glob

end RouteAtlas
