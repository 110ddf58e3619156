import RouteAtlas.Code.Call
import RouteAtlas.Code.Place
import RouteAtlas.Text.Pattern

namespace RouteAtlas

open Pattern in
def callNamePattern : Pattern := freshName 1 ++ blanks ++ text "("

open Pattern in
/-- The word `class` that is no part of a longer or dotted name, and the declared name. -/
def classPattern : Pattern :=
  (.start <|> .one fun c => !(c == '.' || isWord c)) ++ text "class" ++ someBlanks ++
    .capture 1 (.one isNameStart ++ .many isWord)

open Pattern in
def visibilityPattern : Pattern :=
  .boundary ++ anyOf ["public", "private", "protected"] ++ .boundary

def declaredName? (line : Text) : Option Text := callNamePattern.partIn? 1 line

def className? (line : Text) : Option Text := classPattern.partIn? 1 line

def afterVisibility? (line : Text) : Option Text := (visibilityPattern.find? line).map (·.rest)

structure AnnotationSite where
  /-- The name without its package. -/
  name : Text
  arguments : Text
  /-- How many lines below its first line the annotation ends. -/
  span : Nat
  rest : Text
deriving DecidableEq, Repr

def annotatedName? : Text → Option (Text × Text)
  | '@' :: c :: rest =>
    let inName := fun c => isWord c || c == '.'
    if isNameStart c then some (c :: rest.takeWhile inName, rest.dropWhile inName) else none
  | _ => none

/--
How many characters the arguments with their parentheses take, and the blanks in front of them, when they
stand on one line.
-/
def argumentsWidth (after : Text) (call : Call) : Nat :=
  (after.takeWhile isBlank).length + call.text.length + 2

/--
The annotations in the rest of a line; the first `skip` characters belong to an earlier one. An
annotation that ends on a later line is the last of its line.
-/
def annotationsFrom (below : List Text) : (skip : Nat) → Text → List AnnotationSite
  | _, [] => []
  | skip + 1, _ :: rest => annotationsFrom below skip rest
  | 0, c :: rest =>
    match annotatedName? (c :: rest) with
    | none => annotationsFrom below 0 rest
    | some (qualified, after) =>
      let name := Text.afterLast '.' qualified
      match Call.read? after below with
      | some call =>
        ⟨name, call.text, call.span, call.rest⟩ ::
          if call.span = 0 then
            annotationsFrom below (qualified.length + argumentsWidth after call) rest
          else []
      | none => ⟨name, [], 0, after⟩ :: annotationsFrom below qualified.length rest

def annotationsOn (line : Text) (below : List Text) : List AnnotationSite :=
  annotationsFrom below 0 line

def lastSpan (sites : List AnnotationSite) : Nat :=
  match sites.getLast? with
  | some site => site.span
  | none => 0

/--
True when the next declaration is a class. Blank lines, comments and further annotations in front of
it are passed over; the first `skip` lines belong to such an annotation.
-/
def leadsToClass : (skip : Nat) → List Text → Bool
  | _, [] => false
  | skip + 1, _ :: below => leadsToClass skip below
  | 0, line :: below =>
    let trimmed := Text.trim line
    if isCommentOrBlank trimmed then leadsToClass 0 below
    else if trimmed.head? == some '@' then
      (className? trimmed).isSome || leadsToClass (lastSpan (annotationsOn line below)) below
    else (className? trimmed).isSome

/-- True when an annotation that starts on this line and takes `span` more lines heads a class. -/
def annotatesClass (line : Text) (below : List Text) (span : Nat) : Bool :=
  (className? line).isSome || ((line :: below)[span]?.bind className?).isSome ||
    leadsToClass span below

end RouteAtlas
