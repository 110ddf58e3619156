import RouteAtlas.Code.Annotations
import RouteAtlas.Proofs.Code.Lexeme
import RouteAtlas.Proofs.Code.Place

namespace RouteAtlas

open Pattern

inductive Arguments where
  | route (fragment : Fragment)
  | request (fragment : Fragment) (method : Identifier)

def Arguments.text : Arguments → Text
  | .route fragment => quoted '"' fragment.text
  | .request fragment method =>
    "value = ".toList ++ (quoted '"' fragment.text ++ (", method = ".toList ++
      ("RequestMethod.".toList ++ method.text)))

structure Mark where
  name : Identifier
  arguments : Option Arguments

namespace Mark

def inner (mark : Mark) : Text := (mark.arguments.map Arguments.text).getD []

def text (mark : Mark) : Text :=
  match mark.arguments with
  | none => '@' :: mark.name.text
  | some arguments => '@' :: (mark.name.text ++ '(' :: (arguments.text ++ [')']))

end Mark

def classLine (name : Identifier) : Text := "public class ".toList ++ name.text ++ " \x7b".toList

def methodLine (name : Identifier) : Text :=
  "public String ".toList ++ name.text ++ "() \x7b".toList

def endLine : Text := ['}']

section Braces

variable {line : Text}

theorem Arguments.calm (arguments : Arguments) : Calm arguments.text := by
  cases arguments with
  | route fragment => exact fragment.calm_quoted (.inl rfl)
  | request fragment method =>
    have literal := fragment.calm_quoted (.inl rfl)
    exact (Calm.of_plain (by decide)).append (literal.append ((Calm.of_plain (by decide)).append
      ((Calm.of_plain (by decide)).append method.calm)))

theorem Mark.calm (mark : Mark) : Calm mark.text := by
  obtain ⟨name, arguments⟩ := mark
  cases arguments with
  | none => exact .cons (by decide) name.calm
  | some arguments =>
    exact .cons (by decide) (name.calm.append
      (.cons (by decide) (arguments.calm.append (.of_plain (by decide)))))

theorem braceBalance_mark {mark : Mark} (same : Text.trim line = mark.text) :
    braceBalance line = 0 := by
  obtain ⟨front, back, rfl, before, after⟩ := Text.exists_blanks_of_trim same
  exact ((Calm.of_blank before).append
    (mark.calm.append (.of_blank after))).braceBalance_eq

theorem braceBalance_declaration (lead close : Text) {name : Identifier}
    (calm : Calm lead ∧ Calm close)
    (same : Text.trim line = lead ++ name.text ++ (close ++ ['{'])) :
    braceBalance line = 1 := by
  obtain ⟨front, back, rfl, before, after⟩ := Text.exists_blanks_of_trim same
  have pieces : front ++ (lead ++ name.text ++ (close ++ ['{']) ++ back) =
      (front ++ (lead ++ name.text ++ close)) ++ '{' :: back := by
    simp
  rw [pieces]
  exact ((Calm.of_blank before).append ((calm.1.append name.calm).append
    calm.2)).braceBalance_single (.of_blank after) (.inl rfl)

theorem braceBalance_classLine {name : Identifier} (same : Text.trim line = classLine name) :
    braceBalance line = 1 :=
  braceBalance_declaration "public class ".toList [' ']
    ⟨.of_plain (by decide), .of_plain (by decide)⟩ same

theorem braceBalance_methodLine {name : Identifier} (same : Text.trim line = methodLine name) :
    braceBalance line = 1 :=
  braceBalance_declaration "public String ".toList "() ".toList
    ⟨.of_plain (by decide), .of_plain (by decide)⟩ same

theorem braceBalance_endLine (same : Text.trim line = endLine) : braceBalance line = -1 := by
  obtain ⟨front, back, rfl, before, after⟩ := Text.exists_blanks_of_trim same
  exact (Calm.of_blank before).braceBalance_single (.of_blank after) (.inr rfl)

end Braces

theorem Arguments.inert (arguments : Arguments) : Inert arguments.text := by
  cases arguments with
  | route fragment => exact fragment.inert_quoted (.inl rfl)
  | request fragment method =>
    have literal := fragment.inert_quoted (.inl rfl)
    exact (Inert.of_plain (by decide)).append (literal.append ((Inert.of_plain (by decide)).append
      ((Inert.of_plain (by decide)).append method.inert)))

section Names

/-- No small s stands right before a blank, so that no word `class` ends there. -/
def Apart (text : Text) : Prop :=
  ∀ left c right, text = left ++ 's' :: c :: right → isBlank c = false

theorem Apart.of_solid {text : Text} (solid : ∀ c ∈ text, isBlank c = false) : Apart text := by
  rintro left c right rfl
  exact solid c (by simp)

theorem Apart.of_not_mem {text : Text} (free : 's' ∉ text) : Apart text := by
  rintro left c right rfl
  simp at free

theorem Apart.append {left right : Text} (first : Apart left) (second : Apart right)
    (edge : left.getLast? = some 's' → ∀ c, right.head? = some c → isBlank c = false) :
    Apart (left ++ right) := by
  intro front c back same
  rcases List.append_eq_append_iff.mp same with ⟨more, _, found⟩ | ⟨more, shorter, found⟩
  · exact second more c back found
  · cases more with
    | nil => exact second [] c back found.symm
    | cons d more =>
      obtain ⟨rfl, tail⟩ := List.cons.inj found
      cases more with
      | nil => exact edge (by simp [shorter]) c (by simp [← show c :: back = right from tail])
      | cons e more =>
        obtain ⟨rfl, _⟩ := List.cons.inj tail
        exact first front c more shorter

theorem Apart.cons {c : Char} {text : Text} (other : c ≠ 's') (apart : Apart text) :
    Apart (c :: text) := by
  have first : Apart [c] := .of_not_mem (by simpa using Ne.symm other)
  exact first.append apart fun last => absurd (Option.some.inj last) other

theorem exists_of_passes_classPattern {place stop : Cursor}
    (passes : classPattern.Passes place stop) :
    ∃ lead rest, place.rest = lead ++ "class".toList ++ rest ∧ rest.takeWhile isBlank ≠ [] ∧
      rest.dropWhile isBlank ≠ [] := by
  simp only [classPattern, passes_seq, passes_text, someBlanks, passes_many1, passes_capture,
    passes_one] at passes
  obtain ⟨_, ⟨_, ⟨start, first, rest, spelled, rfl⟩, filled, rfl⟩, _, ⟨c, more, next, _⟩, _⟩ := passes
  obtain ⟨lead, split⟩ := first.suffix
  refine ⟨lead, rest, ?_, filled, ?_⟩
  · rw [← split, spelled, List.append_assoc]
  · intro empty
    rw [empty] at next
    cases next

theorem Apart.className?_eq_none {line core : Text} (apart : Apart core)
    (same : Text.trim line = core) : className? line = none := by
  obtain ⟨front, back, rfl, before, after⟩ := Text.exists_blanks_of_trim same
  have nowhere : classPattern.find? (front ++ (core ++ back)) = none := by
    refine find?_eq_none fun left right same => ?_
    refine runs_eq_nil fun stop passes => ?_
    obtain ⟨lead, rest, rfl, filled, named⟩ := exists_of_passes_classPattern passes
    have place : front ++ (core ++ back) = (left ++ lead ++ "clas".toList) ++ 's' :: rest := by
      simpa using same
    -- the letter stands neither in front of the core nor behind it
    obtain ⟨more, _, inside⟩ := Text.exists_of_append_eq_left
      (not_mem_of_accepted before (by decide)) place
    obtain ⟨ended, found, rfl⟩ := Text.exists_of_append_eq_right
      (not_mem_of_accepted after (by decide)) inside
    cases ended with
    | nil =>
      have blank : (back ++ []).dropWhile isBlank = [] := List.dropWhile_append_of_pos after
      rw [List.append_nil] at blank
      exact named blank
    | cons c ended =>
      have solid := apart more c ended found
      simp [solid] at filled
  simp [className?, partIn?, nowhere]

theorem Apart.className?_trim {line core : Text} (apart : Apart core)
    (same : Text.trim line = core) : className? core = none := by
  have again : Text.trim core = core := by
    rw [← same, Text.trim_trim]
  exact apart.className?_eq_none again

theorem find?_classPattern_public (rest : Text) :
    classPattern.find? ("public".toList ++ rest) = findFrom classPattern (some 'c') rest := rfl

theorem reads_classPattern (name : Identifier) :
    Reads classPattern (some 'c') (" class ".toList ++ name.text) " \x7b".toList
      [(1, name.text)] := by
  obtain ⟨c, more, spelled, starts⟩ := name.exists_cons
  have word : ∀ d ∈ more, isWord d := fun d member => name.word d (by simp [spelled, member])
  have blank : ∀ d ∈ [' '], isBlank d := List.all_eq_true.mp (by decide)
  have space : Reads (.start <|> .one fun c => !(c == '.' || isWord c)) (some 'c') [' ']
      ("class".toList ++ ([' '] ++ (name.text ++ " \x7b".toList))) [] := .right rfl (.one (by decide))
  have named : Reads (.capture 1 (.one isNameStart ++ .many isWord)) (some ' ') name.text
      " \x7b".toList [(1, name.text)] := by
    rw [spelled]
    refine .capture 1 (.seq (.one starts) (.many word ?_))
    rintro d ⟨⟩
    decide
  have gap : Reads someBlanks (some 's') [' '] (name.text ++ " \x7b".toList) [] :=
    .many1 (by simp) blank fun d first => name.head_not_blank _ first
  have pieces : " class ".toList ++ name.text = [' '] ++ "class".toList ++ [' '] ++ name.text := by
    simp
  rw [pieces]
  exact .seq (.seq (.seq space (.text _)) gap) named

theorem className?_classLine (name : Identifier) : className? (classLine name) = some name.text := by
  have pieces : classLine name =
      "public".toList ++ ((" class ".toList ++ name.text) ++ " \x7b".toList) := by
    unfold classLine
    simp
  obtain ⟨found, here, _, noted⟩ := (reads_classPattern name).at?
  rw [className?, partIn?, pieces, find?_classPattern_public, findFrom_of_at? here,
    Option.bind_some, noted]
  rfl

theorem Fragment.apart_quoted (fragment : Fragment) : Apart (quoted '"' fragment.text) := by
  refine .of_solid fun c member => ?_
  simp only [quoted, List.mem_cons, List.mem_append, List.not_mem_nil, or_false] at member
  rcases member with rfl | inside | rfl
  · decide
  · exact fragment.solid c inside
  · decide

theorem Arguments.apart (arguments : Arguments) : Apart arguments.text := by
  cases arguments with
  | route fragment => exact fragment.apart_quoted
  | request fragment method =>
    have solid : "RequestMethod.".toList.all fun c => !isBlank c := by decide
    have lead : Apart "RequestMethod.".toList := .of_solid (by simpa using List.all_eq_true.mp solid)
    have constant : Apart ("RequestMethod.".toList ++ method.text) :=
      lead.append (.of_solid method.solid) fun last => absurd last (by decide)
    have second : Apart (", method = ".toList ++ ("RequestMethod.".toList ++ method.text)) :=
      (Apart.of_not_mem (by decide)).append constant fun last => absurd last (by decide)
    refine .append (.of_not_mem (by decide)) (fragment.apart_quoted.append second ?_)
      fun last => absurd last (by decide)
    rintro _ c ⟨⟩
    decide

theorem Mark.apart (mark : Mark) : Apart mark.text := by
  obtain ⟨name, arguments⟩ := mark
  have named : Apart name.text := .of_solid name.solid
  cases arguments with
  | none => exact .cons (by decide) named
  | some arguments =>
    have closed : Apart (arguments.text ++ [')']) := by
      refine arguments.apart.append (.of_not_mem (by decide)) ?_
      rintro _ c ⟨⟩
      decide
    refine .cons (by decide) (named.append (.cons (by decide) closed) ?_)
    rintro _ c ⟨⟩
    decide

theorem apart_methodLine (name : Identifier) : Apart (methodLine name) := by
  have lead : Apart ("public String ".toList ++ name.text) :=
    (Apart.of_not_mem (by decide)).append (.of_solid name.solid) fun last => absurd last (by decide)
  refine lead.append (.of_not_mem (by decide)) ?_
  rintro _ c ⟨⟩
  decide

theorem apart_endLine : Apart endLine := .of_not_mem (by decide)

end Names

section Declarations

variable (name : Identifier)

def methodTail : Text := " String ".toList ++ name.text ++ "() \x7b".toList

theorem afterVisibility?_methodLine :
    afterVisibility? (methodLine name) = some (methodTail name) := by
  have starts : wordAt none ≠ wordAt (some 'p') := by decide
  have ends : wordAt (some 'c') ≠ wordAt (some ' ') := by decide
  have read : Reads visibilityPattern none ([] ++ "public".toList ++ []) (methodTail name)
      ([] ++ [] ++ []) :=
    .seq (.seq (.boundary starts) (.left (.text _))) (.boundary ends)
  obtain ⟨found, here, ended, _⟩ := read.at?
  have pieces : methodLine name = ([] ++ "public".toList ++ []) ++ methodTail name := by
    unfold methodLine methodTail
    simp
  rw [afterVisibility?, pieces, find?, findFrom_of_at? here, Option.map_some, ended]

theorem at?_callNamePattern_type (rest : Text) :
    callNamePattern.at? ⟨some ' ', "String ".toList ++ (name.text ++ rest)⟩ = none := by
  have nowhere : callNamePattern.runs ⟨some ' ', "String ".toList ++ (name.text ++ rest)⟩ = [] := by
    refine runs_eq_nil fun stop passes => ?_
    simp only [callNamePattern, freshName, Pattern.name, blanks, passes_seq, passes_boundary,
      passes_capture, passes_many1, passes_many, passes_text] at passes
    obtain ⟨_, ⟨_, ⟨_, ⟨_, rfl⟩, _, rfl⟩, rfl⟩, more, opens, _⟩ := passes
    replace opens : (' ' :: (name.text ++ rest)).dropWhile isBlank = '(' :: more := opens
    have gap : ∀ c ∈ [' '], isBlank c := List.all_eq_true.mp (by decide)
    have skipped : ([' '] ++ (name.text ++ rest)).dropWhile isBlank = name.text ++ rest :=
      dropWhile_append_eq gap fun c first => name.head_not_blank rest first
    have word := name.wordAt_head rest
    rw [← skipped, List.singleton_append, opens] at word
    exact absurd (show wordAt (some '(') from word) (by decide)
  rw [at?, nowhere]
  rfl

theorem find?_callNamePattern (rest : Text) :
    callNamePattern.find? (" String ".toList ++ (name.text ++ rest)) =
      findFrom callNamePattern (some ' ') (name.text ++ rest) := by
  have space : callNamePattern.find? (" String ".toList ++ (name.text ++ rest)) =
      findFrom callNamePattern (some ' ') ("String ".toList ++ (name.text ++ rest)) := rfl
  have letter : findFrom callNamePattern (some ' ') ("String ".toList ++ (name.text ++ rest)) =
      findFrom callNamePattern (some 'S') ("tring ".toList ++ (name.text ++ rest)) := by
    have failed := at?_callNamePattern_type name rest
    simp only [String.reduceToList, List.cons_append, List.nil_append] at failed ⊢
    rw [findFrom, failed]
  rw [space, letter]
  rfl

theorem declaredName?_methodTail : declaredName? (methodTail name) = some name.text := by
  have stops : ∀ c, "() \x7b".toList.head? = some c → isWord c = false := by
    rintro c ⟨⟩
    decide
  have read : Reads callNamePattern (some ' ') (name.text ++ [] ++ ['(']) ") \x7b".toList
      ([(1, name.text)] ++ [] ++ []) := by
    refine .seq (.seq (.freshName 1 (by decide) name.filled name.word stops) (.many (by simp) ?_))
      (.text _)
    rintro c ⟨⟩
    decide
  obtain ⟨found, here, _, noted⟩ := read.at?
  have pieces : methodTail name =
      " String ".toList ++ (name.text ++ (['('] ++ ") \x7b".toList)) := by
    unfold methodTail
    simp
  have taken : name.text ++ [] ++ ['('] ++ ") \x7b".toList =
      name.text ++ (['('] ++ ") \x7b".toList) := by
    simp
  rw [taken] at here
  rw [declaredName?, partIn?, pieces, find?_callNamePattern, findFrom_of_at? here, Option.bind_some,
    noted]
  rfl

end Declarations

section Sites

variable {line : Text} {below : List Text}

theorem annotationsFrom_pass {front : Text} (free : '@' ∉ front) (rest : Text) :
    annotationsFrom below 0 (front ++ rest) = annotationsFrom below 0 rest := by
  induction front with
  | nil => rfl
  | cons c front ih =>
    simp only [List.mem_cons, not_or] at free
    have unnamed : annotatedName? (c :: (front ++ rest)) = none := by
      unfold annotatedName?
      split
      · rename_i same
        exact absurd (List.cons.inj same).1.symm free.1
      · rfl
    rw [List.cons_append, annotationsFrom, unnamed]
    exact ih free.2

theorem annotationsFrom_skip (taken rest : Text) :
    annotationsFrom below taken.length (taken ++ rest) = annotationsFrom below 0 rest := by
  induction taken with
  | nil => rfl
  | cons c taken ih => exact ih

theorem annotationsOn_eq_nil (free : '@' ∉ line) : annotationsOn line below = [] := by
  have passed : annotationsFrom below 0 (line ++ []) = annotationsFrom below 0 [] :=
    annotationsFrom_pass free []
  rw [List.append_nil] at passed
  exact passed

theorem annotationsOn_of_trim {core : Text} (free : '@' ∉ core) (same : Text.trim line = core) :
    annotationsOn line below = [] := by
  obtain ⟨front, back, rfl, before, after⟩ := Text.exists_blanks_of_trim same
  have unmarkedFront : '@' ∉ front := not_mem_of_accepted before (by decide)
  have unmarkedBack : '@' ∉ back := not_mem_of_accepted after (by decide)
  exact annotationsOn_eq_nil (by simp [unmarkedFront, free, unmarkedBack])

theorem annotationsOn_classLine {name : Identifier} (same : Text.trim line = classLine name) :
    annotationsOn line below = [] := by
  refine annotationsOn_of_trim ?_ same
  unfold classLine
  simp (disch := decide) [name.not_mem]

theorem annotationsOn_methodLine {name : Identifier} (same : Text.trim line = methodLine name) :
    annotationsOn line below = [] := by
  refine annotationsOn_of_trim ?_ same
  unfold methodLine
  simp (disch := decide) [name.not_mem]

theorem annotationsOn_endLine (same : Text.trim line = endLine) : annotationsOn line below = [] :=
  annotationsOn_of_trim (by decide) same

theorem annotatedName?_eq_some (name : Identifier) {rest : Text}
    (stops : ∀ c, rest.head? = some c → isDotted c = false) :
    annotatedName? ('@' :: (name.text ++ rest)) = some (name.text, rest) := by
  obtain ⟨c, more, spelled, starts⟩ := name.exists_cons
  have inside : ∀ d ∈ more, isDotted d := by
    intro d member
    simp [isDotted, name.word d (by simp [spelled, member])]
  have taken := takeWhile_append_eq inside stops
  have left := dropWhile_append_eq inside stops
  unfold isDotted at taken left
  simp [annotatedName?, spelled, starts, taken, left]

theorem Mark.annotationsOn_eq (mark : Mark)
    (same : Text.trim line = mark.text) (below : List Text) :
    ∃ back, (∀ c ∈ back, isBlank c) ∧
      annotationsOn line below = [⟨mark.name.text, mark.inner, 0, back⟩] := by
  obtain ⟨front, back, rfl, before, after⟩ := Text.exists_blanks_of_trim same
  refine ⟨back, after, ?_⟩
  have unmarked : '@' ∉ front := not_mem_of_accepted before (by decide)
  have ended : annotationsFrom below 0 back = [] :=
    annotationsOn_eq_nil (not_mem_of_accepted after (by decide))
  have simple : Text.afterLast '.' mark.name.text = mark.name.text :=
    Text.afterLast_eq_self (mark.name.not_mem (by decide))
  rw [annotationsOn, annotationsFrom_pass unmarked]
  obtain ⟨name, arguments⟩ := mark
  cases arguments with
  | none =>
    have stops : ∀ c, back.head? = some c → isDotted c = false := by
      intro c first
      have blank := after c (List.mem_of_head? first)
      have dotless : c ≠ '.' := by
        rintro rfl
        exact absurd blank (by decide)
      simp [isDotted, isWord_eq_false_of_isBlank blank, dotless]
    have named : annotatedName? ('@' :: (name.text ++ back)) = some (name.text, back) :=
      annotatedName?_eq_some name stops
    have unread : Call.read? back below = none := Call.read?_of_blank after
    simp [text, inner, annotationsFrom, named, unread, simple, annotationsFrom_skip, ended]
  | some arguments =>
    have stops : ∀ c, ('(' :: (arguments.text ++ ')' :: back)).head? = some c → isDotted c = false := by
      rintro c ⟨⟩
      decide
    have named := annotatedName?_eq_some name stops
    have blankless : ('(' :: (arguments.text ++ ')' :: back)).takeWhile isBlank = [] := by
      rw [List.takeWhile_cons_of_neg (by decide)]
    have read : Call.read? ([] ++ '(' :: (arguments.text ++ ')' :: back)) below =
        some ⟨arguments.text, 0, back⟩ := Call.read?_eq_some (by simp) arguments.inert
    have width : name.text.length + argumentsWidth ('(' :: (arguments.text ++ ')' :: back))
        ⟨arguments.text, 0, back⟩ =
          (name.text ++ '(' :: (arguments.text ++ [')'])).length := by
      simp [argumentsWidth, blankless]
    have skipped : annotationsFrom below (name.text ++ '(' :: (arguments.text ++ [')'])).length
        (name.text ++ '(' :: (arguments.text ++ [')']) ++ back) = [] := by
      rw [annotationsFrom_skip, ended]
    rw [← width, List.append_assoc, List.cons_append, List.append_assoc,
      List.singleton_append] at skipped
    rw [List.nil_append] at read
    have pieces : (Mark.mk name (some arguments)).text ++ back =
        '@' :: (name.text ++ '(' :: (arguments.text ++ ')' :: back)) := by
      simp [text]
    rw [pieces, annotationsFrom, named]
    simp [read, simple, skipped, inner]

end Sites

section Lines

variable {line : Text} {below : List Text} {mark : Mark} {name : Identifier}

theorem Mark.head?_text (mark : Mark) : mark.text.head? = some '@' := by
  obtain ⟨name, arguments⟩ := mark
  cases arguments <;> rfl

theorem isCommentOrBlank_mark (mark : Mark) :
    isCommentOrBlank mark.text = false :=
  isCommentOrBlank_eq_false mark.head?_text (by decide)

theorem isCommentOrBlank_classLine (name : Identifier) :
    isCommentOrBlank (classLine name) = false :=
  isCommentOrBlank_eq_false rfl (show 'p' ≠ '/' ∧ 'p' ≠ '*' ∧ 'p' ≠ '#' by decide)

theorem isCommentOrBlank_methodLine (name : Identifier) :
    isCommentOrBlank (methodLine name) = false :=
  isCommentOrBlank_eq_false rfl (show 'p' ≠ '/' ∧ 'p' ≠ '*' ∧ 'p' ≠ '#' by decide)

theorem isCommentOrBlank_endLine : isCommentOrBlank endLine = false := by decide

theorem leadsToClass_mark (same : Text.trim line = mark.text) :
    leadsToClass 0 (line :: below) = leadsToClass 0 below := by
  obtain ⟨back, _, sites⟩ := mark.annotationsOn_eq same below
  have classless := mark.apart.className?_trim same
  rw [leadsToClass]
  simp [same, isCommentOrBlank_mark, mark.head?_text, sites, lastSpan, classless]

theorem leadsToClass_marks {marks : List Mark} {lines : List Text}
    (spelled : lines.map Text.trim = marks.map Mark.text) :
    leadsToClass 0 (lines ++ below) = leadsToClass 0 below := by
  induction marks generalizing lines with
  | nil =>
    obtain rfl : lines = [] := by simpa using spelled
    rfl
  | cons mark marks ih =>
    obtain ⟨line, others, rfl, here, later⟩ := List.map_eq_cons_iff.mp spelled
    rw [List.cons_append, leadsToClass_mark here, ih later]

theorem leadsToClass_classLine (same : Text.trim line = classLine name) :
    leadsToClass 0 (line :: below) = true := by
  have first : (classLine name).head? = some 'p' := rfl
  rw [leadsToClass]
  simp [same, isCommentOrBlank_classLine, first, className?_classLine]

theorem leadsToClass_methodLine (same : Text.trim line = methodLine name) :
    leadsToClass 0 (line :: below) = false := by
  have first : (methodLine name).head? = some 'p' := rfl
  have classless := (apart_methodLine name).className?_trim same
  rw [leadsToClass]
  simp [same, isCommentOrBlank_methodLine, first, classless]

theorem annotatesClass_mark (same : Text.trim line = mark.text) :
    annotatesClass line below 0 = leadsToClass 0 below := by
  have classless : className? line = none := mark.apart.className?_eq_none same
  simp [annotatesClass, classless]

end Lines

end RouteAtlas