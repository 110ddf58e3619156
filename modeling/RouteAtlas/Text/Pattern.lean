import RouteAtlas.Text.Basic
import RouteAtlas.Text.WordChar

namespace RouteAtlas

/-- A place in a text: the character just before it, if any, and the text that follows. -/
structure Cursor where
  before : Option Char
  rest : Text

def Cursor.upTo (start stop : Cursor) : Text :=
  start.rest.take (start.rest.length - stop.rest.length)

def Cursor.past (accepts : Char → Bool) (before : Option Char) : Text → Cursor
  | [] => ⟨before, []⟩
  | c :: rest => if accepts c then past accepts (some c) rest else ⟨before, c :: rest⟩

/-- Appends to `found` the places reached by reading ever more accepted characters, longest first. -/
def Cursor.spans (accepts : Char → Bool) (before : Option Char) : Text → List Cursor → List Cursor
  | [], found => ⟨before, []⟩ :: found
  | c :: rest, found =>
    if accepts c then spans accepts (some c) rest (⟨before, c :: rest⟩ :: found)
    else ⟨before, c :: rest⟩ :: found

/-- True for a word character, and false where the text ends. -/
def wordAt (c : Option Char) : Bool := c.any isWord

inductive Pattern where
  | empty
  | one (accepts : Char → Bool)
  | many (accepts : Char → Bool)
  /-- Reads accepted characters, as many as possible first, but fewer if need be. -/
  | upToMany (accepts : Char → Bool)
  | seq (first second : Pattern)
  | alt (first second : Pattern)
  | capture (slot : Nat) (body : Pattern)
  | start
  | boundary

structure Reading where
  stop : Cursor
  captures : List (Nat × Cursor × Cursor)

namespace Pattern

instance : Append Pattern := ⟨.seq⟩

instance : OrElse Pattern := ⟨fun first second => .alt first (second ())⟩

/-- Every reading of the pattern from a place, the preferred one first. -/
def runs : Pattern → Cursor → List Reading
  | .empty, place => [⟨place, []⟩]
  | .one accepts, place =>
    match place.rest with
    | [] => []
    | c :: rest => if accepts c then [⟨⟨some c, rest⟩, []⟩] else []
  | .many accepts, place => [⟨Cursor.past accepts place.before place.rest, []⟩]
  | .upToMany accepts, place => (Cursor.spans accepts place.before place.rest []).map (⟨·, []⟩)
  | .seq first second, place =>
    (first.runs place).flatMap fun reading =>
      (second.runs reading.stop).map fun more => ⟨more.stop, reading.captures ++ more.captures⟩
  | .alt first second, place => first.runs place ++ second.runs place
  | .capture slot body, place =>
    (body.runs place).map fun reading =>
      ⟨reading.stop, (slot, place, reading.stop) :: reading.captures⟩
  | .start, place => if place.before.isNone then [⟨place, []⟩] else []
  | .boundary, place =>
    if wordAt place.before != wordAt place.rest.head? then [⟨place, []⟩] else []

def text : Text → Pattern
  | [] => .empty
  | [c] => .one (· == c)
  | c :: rest => .one (· == c) ++ text rest

def many1 (accepts : Char → Bool) : Pattern := .one accepts ++ .many accepts

def maybe (body : Pattern) : Pattern := .alt body .empty

def choice : List Pattern → Pattern
  | [] => .one fun _ => false
  | [only] => only
  | first :: others => .alt first (choice others)

def anyOf (texts : List Text) : Pattern := choice (texts.map text)

def blanks : Pattern := .many isBlank

def someBlanks : Pattern := many1 isBlank

def name : Pattern := many1 isWord

def freshName (slot : Nat) : Pattern := .boundary ++ .capture slot name

def isDotted (c : Char) : Bool := isWord c || c == '.'

def dottedName : Pattern := many1 isDotted

/--
Equality of basic letters up to case. The long s and the Kelvin sign are forms of s and k.
-/
def sameLetter (letter c : Char) : Bool :=
  c.toLower == letter || (letter == 's' && c == 'ſ') || (letter == 'k' && c == '\u212A')

def anyCase (word : Text) : Pattern :=
  word.foldr (fun letter rest => .one (sameLetter letter) ++ rest) .empty

end Pattern

structure Found where
  start : Cursor
  reading : Reading

namespace Found

def text (found : Found) : Text := found.start.upTo found.reading.stop

def rest (found : Found) : Text := found.reading.stop.rest

def part? (found : Found) (slot : Nat) : Option Text :=
  (found.reading.captures.lookup slot).map fun (start, stop) => start.upTo stop

end Found

namespace Pattern

def at? (pattern : Pattern) (place : Cursor) : Option Found :=
  (pattern.runs place).head?.map fun reading => ⟨place, reading⟩

def atStart? (pattern : Pattern) (text : Text) : Option Found := pattern.at? ⟨none, text⟩

def partAtStart? (pattern : Pattern) (slot : Nat) (text : Text) : Option Text :=
  (pattern.atStart? text).bind (·.part? slot)

def findFrom (pattern : Pattern) (before : Option Char) : Text → Option Found
  | [] => pattern.at? ⟨before, []⟩
  | c :: rest =>
    match pattern.at? ⟨before, c :: rest⟩ with
    | some found => some found
    | none => findFrom pattern (some c) rest

def find? (pattern : Pattern) (text : Text) : Option Found := findFrom pattern none text

/--
True when the pattern, which starts with no blank, can be read somewhere with only blanks before it on
its line. `fresh` says whether only blanks stand between the start of a line and the text.
-/
def startsLineFrom (pattern : Pattern) (fresh : Bool) (before : Option Char) : Text → Bool
  | [] => false
  | c :: rest =>
    if isBlank c then startsLineFrom pattern (fresh || c == '\n') (some c) rest
    else (fresh && (pattern.at? ⟨before, c :: rest⟩).isSome) ||
      startsLineFrom pattern false (some c) rest

def startsLineOf (pattern : Pattern) (text : Text) : Bool := startsLineFrom pattern true none text

def partIn? (pattern : Pattern) (slot : Nat) (text : Text) : Option Text :=
  (pattern.find? text).bind (·.part? slot)

/-- Places where the pattern is found, none inside the text read at an earlier one; the first `skip`
characters belong to such a text. -/
def findAllFrom (pattern : Pattern) : (skip : Nat) → Option Char → Text → List Found
  | 0, before, [] => (pattern.at? ⟨before, []⟩).toList
  | _ + 1, _, [] => []
  | skip + 1, _, c :: rest => findAllFrom pattern skip (some c) rest
  | 0, before, c :: rest =>
    match pattern.at? ⟨before, c :: rest⟩ with
    | some found => found :: findAllFrom pattern (found.text.length - 1) (some c) rest
    | none => findAllFrom pattern 0 (some c) rest

def findAll (pattern : Pattern) (text : Text) : List Found := findAllFrom pattern 0 none text

end Pattern

end RouteAtlas
