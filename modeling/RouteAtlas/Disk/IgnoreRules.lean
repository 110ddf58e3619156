import RouteAtlas.Glob.Shape

namespace RouteAtlas

inductive Verdict where
  | unsettled
  | ignored
  | kept
deriving DecidableEq, Repr

namespace Verdict

/-- The first verdict, or the second when no rule behind the first one matches. -/
def orElse : Verdict → Verdict → Verdict
  | .unsettled, next => next
  | verdict, _ => verdict

end Verdict

structure IgnoreRule where
  glob : Glob
  keeps : Bool
  directoriesOnly : Bool

namespace IgnoreRule

/-- Wildcards stop at separators, and a bracket that is never closed stands for itself. -/
def options : GlobOptions := ⟨true, true⟩

/-- A line without the blanks at its end. One escaped blank at the end keeps them all. -/
def significant (line : Text) : Text :=
  if Text.endsWith line ['\\', ' '] then line else Text.trimEnd line

structure Marked where
  pattern : Text
  keeps : Bool
  anchored : Bool
  directoriesOnly : Bool
deriving DecidableEq, Repr

/-- Takes off the marks in front of a pattern. A backslash keeps a first character from being one. -/
def leadingMarks (line : Text) : Marked :=
  match line with
  | '\\' :: '!' :: rest => ⟨'!' :: rest, false, false, false⟩
  | '\\' :: '#' :: rest => ⟨'#' :: rest, false, false, false⟩
  | _ =>
    let (keeps, line) := match line with
      | '!' :: rest => (true, rest)
      | _ => (false, line)
    match line with
    | '/' :: rest => ⟨rest, keeps, true, false⟩
    | _ => ⟨line, keeps, false, false⟩

def trailingMark (marked : Marked) : Marked :=
  if marked.pattern.getLast? = some '/' then
    let pattern := marked.pattern.dropLast
    let pattern := if pattern.getLast? = some '\\' then pattern.dropLast else pattern
    { marked with pattern := pattern, directoriesOnly := true }
  else marked

/-- A pattern without separators that is not anchored holds in every directory. -/
def anywhere (marked : Marked) : Text :=
  let pattern := marked.pattern
  let everywhere := ['*', '*', '/']
  if marked.anchored || pattern.any (· == '/') || pattern == ['*', '*'] then pattern
  else everywhere ++ pattern

/-- A double star at the end of a pattern does not match the directory itself. -/
def strictlyBelow (pattern : Text) : Text :=
  if Text.endsWith pattern ['/', '*', '*'] then pattern ++ ['/', '*'] else pattern

/-- The rule on a line. Comments, empty lines and patterns that cannot be read hold none. -/
def ofLine? (line : Text) : Option IgnoreRule :=
  let line' := significant line
  if line.head? = some '#' || line'.isEmpty then none
  else
    let marked := trailingMark (leadingMarks line')
    match Glob.parse options (strictlyBelow (anywhere marked)) with
    | .ok glob => some ⟨glob, marked.keeps, marked.directoriesOnly⟩
    | .error _ => none

def verdict (rule : IgnoreRule) : Verdict := if rule.keeps then .kept else .ignored

def holds (rule : IgnoreRule) (relative : Text) (isDirectory : Bool) : Bool :=
  (isDirectory || !rule.directoriesOnly) && rule.glob.matchesText relative

end IgnoreRule

abbrev IgnoreRules := List IgnoreRule

namespace IgnoreRules

def dropMarks (line : Text) : Text := line.dropWhile (· == '\uFEFF')

/-- The rules of a file, unless one of them is nested too deeply: then there are none. -/
def compiled (rules : IgnoreRules) : IgnoreRules :=
  if rules.any fun rule => Glob.isTooDeep rule.glob.items then [] else rules

def ofLines : List Text → IgnoreRules
  | [] => []
  | first :: lines => compiled ((dropMarks first :: lines).filterMap IgnoreRule.ofLine?)

def verdict (rules : IgnoreRules) (relative : Text) (isDirectory : Bool) : Verdict :=
  match rules.reverse.find? (·.holds relative isDirectory) with
  | some rule => rule.verdict
  | none => .unsettled

end IgnoreRules

end RouteAtlas
