import Mathlib.Data.List.Basic
import RouteAtlas.Code.Indented
import RouteAtlas.Proofs.Code.Lexeme
import RouteAtlas.Proofs.Code.Place

namespace RouteAtlas.Indented

open Pattern

section Headers

variable {line rest : Text} {c : Char}

theorem className?_eq_some (name : Identifier)
    (stops : ∀ c, rest.head? = some c → isWord c = false) :
    className? ("class ".toList ++ (name.text ++ rest)) = some name.text := by
  have read : Reads classPattern none ([] ++ "class".toList ++ [' '] ++ name.text) rest
      ([] ++ [] ++ [] ++ [(1, name.text)]) := by
    refine .seq (.seq (.seq (.many (by simp) ?_) (.text _)) (.many1 (by simp) ?_ ?_))
      (.capture 1 (.many1 name.filled name.word stops))
    · rintro c ⟨⟩
      decide
    · simp [show isBlank ' ' by decide]
    · exact fun c first => name.head_not_blank rest first
  have found := read.partAtStart? 1
  rw [List.append_assoc] at found
  exact found

theorem className?_eq_none_of_start (other : (Text.trimStart line).head? ≠ some 'c') :
    className? line = none := by
  have nowhere : classPattern.runs ⟨none, line⟩ = [] := by
    refine runs_eq_nil fun stop passes => ?_
    simp only [classPattern, blanks, passes_seq, passes_many, passes_text] at passes
    obtain ⟨_, ⟨_, ⟨_, rfl, rest, found, _⟩, _⟩, _⟩ := passes
    have starts : (Text.trimStart line).head? = some 'c' := congrArg List.head? found
    exact other starts
  simp [className?, partAtStart?, atStart?, at?, nowhere]

theorem className?_eq_none (first : (Text.trimStart line).head? = some c) (other : c ≠ 'c') :
    className? line = none := by
  apply className?_eq_none_of_start
  rw [first]
  exact fun same => other (Option.some.inj same)

theorem head?_trim_of_trimStart (first : (Text.trimStart line).head? = some c) :
    (Text.trim line).head? = some c := by
  have solid : isBlank c = false := by
    have stops := List.head?_dropWhile_not isBlank line
    rw [show List.dropWhile isBlank line = Text.trimStart line from rfl, first] at stops
    simpa using stops
  have blank : ∀ d ∈ line.takeWhile isBlank, isBlank d := List.all_eq_true.mp List.all_takeWhile
  have trimmed := Text.head?_trim blank first solid
  rwa [Text.trimStart, List.takeWhile_append_dropWhile] at trimmed

theorem isRemark_eq_false (first : (Text.trimStart line).head? = some c) (other : c ≠ '#') :
    isRemark (Text.trim line) = false := by
  have trimmed := head?_trim_of_trimStart first
  cases text : Text.trim line with
  | nil => simp [text] at trimmed
  | cons d rest =>
    rw [text, List.head?_cons] at trimmed
    simp [isRemark, Option.some.inj trimmed, other]

theorem className?_of_isRemark (remark : isRemark (Text.trim line) = true) : className? line = none := by
  apply className?_eq_none_of_start
  intro first
  rw [isRemark_eq_false first (by decide)] at remark
  cases remark

def functionLine (isAsync : Bool) (name : Identifier) : Text :=
  (if isAsync then "async ".toList else []) ++ ("def ".toList ++ (name.text ++ "():".toList))

def passLine : Text := "    pass"

theorem not_mem_functionLine (isAsync : Bool) (name : Identifier) (other : isWord c = false)
    (listed : c ∉ "async def ():".toList) : c ∉ functionLine isAsync name := by
  unfold functionLine
  simp only [String.reduceToList, List.mem_cons, List.not_mem_nil, not_or] at listed
  cases isAsync <;> simp [name.not_mem other, listed]

theorem className?_functionLine (isAsync : Bool) (name : Identifier) :
    className? (functionLine isAsync name) = none := by
  cases isAsync with
  | true => exact className?_eq_none (c := 'a') rfl (by decide)
  | false => exact className?_eq_none (c := 'd') rfl (by decide)

theorem className?_passLine : className? passLine = none :=
  className?_eq_none (c := 'p') rfl (by decide)

theorem reads_defPattern {indent : Text} (blank : indent.all isBlank) (isAsync : Bool)
    (stops : ∀ c, rest.head? = some c → isBlank c = false) :
    Reads defPattern none (indent ++ (if isAsync then "async".toList ++ [' '] else []) ++
      "def".toList ++ [' ']) rest ([] ++ [] ++ [] ++ []) := by
  have gap : ∀ c ∈ [' '], isBlank c := List.all_eq_true.mp (by decide)
  refine .seq (.seq (.seq (.many (List.all_eq_true.mp blank) ?_) ?_) (.text _))
    (.many1 (by simp) gap stops)
  · cases isAsync <;> (rintro c ⟨⟩; decide)
  · cases isAsync with
    | true =>
      refine .left (.seq (.text _) (.many1 (by simp) gap ?_))
      rintro c ⟨⟩
      decide
    | false =>
      refine .right (runs_eq_nil fun stop passes => ?_) .nothing
      obtain ⟨_, word, _⟩ := passes_seq.mp passes
      obtain ⟨more, found, _⟩ := passes_text.mp word
      have letters : some 'd' = some 'a' := congrArg List.head? found
      exact absurd letters (by decide)

theorem rest_of_passes_defPattern {indent : Text} {stop : Cursor} (blank : indent.all isBlank)
    (stops : ∀ c, rest.head? = some c → isBlank c = false)
    (passes : defPattern.Passes ⟨none, indent ++ ("def ".toList ++ rest)⟩ stop) : stop.rest = rest := by
  have start : (indent ++ ("def ".toList ++ rest)).dropWhile isBlank = "def ".toList ++ rest :=
    dropWhile_append_eq (List.all_eq_true.mp blank) (by rintro c ⟨⟩; decide)
  simp only [defPattern, maybe, blanks, someBlanks, passes_seq, passes_alt, passes_empty, passes_text,
    passes_many, passes_many1, start] at passes
  obtain ⟨_, ⟨_, ⟨_, rfl, word⟩, after, found, rfl⟩, _, rfl⟩ := passes
  rcases word with ⟨_, ⟨more, async, _⟩, _⟩ | rfl
  · have letters : some 'd' = some 'a' := congrArg List.head? async
    exact absurd letters (by decide)
  · have same : ' ' :: rest = after := by simpa using found
    have gap : ∀ c ∈ [' '], isBlank c := List.all_eq_true.mp (by decide)
    rw [← same]
    exact dropWhile_append_eq gap stops

theorem functionName?_functionLine (isAsync : Bool) (name : Identifier) :
    functionName? (functionLine isAsync name) = some name.text := by
  have stops : ∀ c, "():".toList.head? = some c → isWord c = false := by
    rintro c ⟨⟩
    decide
  have lead : Reads defPattern none ([] ++ (if isAsync then "async".toList ++ [' '] else []) ++
      "def".toList ++ [' ']) (name.text ++ "():".toList) [] :=
    reads_defPattern (by simp) isAsync fun c first => name.head_not_blank _ first
  have found := (lead.seq (.capture 1 (.many1 name.filled name.word stops))).partAtStart? 1
  cases isAsync <;> (rw [List.append_assoc] at found; exact found)

end Headers

section Handlers

variable {dotted arguments : Text} (below : List Text)

theorem handlerBelow_function (isAsync : Bool) (name : Identifier) :
    handlerBelow 0 (functionLine isAsync name :: below) = name.text := by
  have needs : Needs '@' decoratorPattern := .left (.right (.text (by decide)))
  have unmarked : '@' ∉ functionLine isAsync name :=
    not_mem_functionLine isAsync name (by decide) (by decide)
  have code : isRemark (Text.trim (functionLine isAsync name)) = false := by
    cases isAsync with
    | true => exact isRemark_eq_false (c := 'a') rfl (by decide)
    | false => exact isRemark_eq_false (c := 'd') rfl (by decide)
  rw [handlerBelow, code, needs.atStart?_eq_none unmarked, functionName?_functionLine]
  rfl

theorem handlerBelow_decorator (filled : dotted ≠ []) (inside : ∀ c ∈ dotted, isDotted c)
    (inert : Inert arguments) :
    handlerBelow 0 (('@' :: dotted) :: below) = handlerBelow 0 below ∧
      handlerBelow 0 (('@' :: (dotted ++ '(' :: (arguments ++ [')']))) :: below) =
        handlerBelow 0 below := by
  have read : ∀ rest, (∀ c, rest.head? = some c → isDotted c = false) →
      Reads decoratorPattern none ([] ++ ['@'] ++ dotted) rest [] := by
    intro rest stops
    refine .seq (.seq (.many (by simp) ?_) (.text _)) (.many1 filled inside stops)
    rintro c ⟨⟩
    decide
  have code : ∀ rest : Text, isRemark (Text.trim ('@' :: rest)) = false := fun rest =>
    isRemark_eq_false (c := '@') rfl (by decide)
  constructor
  · obtain ⟨found, here, rest, _⟩ := (read [] (by simp)).at?
    rw [List.append_nil] at here
    have start : decoratorPattern.atStart? ('@' :: dotted) = some found := here
    rw [handlerBelow, code, start]
    simp [rest, Call.read?_of_blank]
  · obtain ⟨found, here, rest, _⟩ := (read ('(' :: (arguments ++ [')'])) (by rintro c ⟨⟩; decide)).at?
    have start : decoratorPattern.atStart? ('@' :: (dotted ++ '(' :: (arguments ++ [')']))) = some found :=
      here
    have call : Call.read? ([] ++ '(' :: (arguments ++ ')' :: [])) below = some ⟨arguments, 0, []⟩ :=
      Call.read?_eq_some (by simp) inert
    rw [List.nil_append, ← rest] at call
    rw [handlerBelow, code, start]
    simp [call]

theorem enclosingClass?_margin {line : Text} (margin : indentOf line = 0) (above : List Text) :
    enclosingClass? ⟨above, line, below⟩ = none := by
  have outside : ∀ above, enclosingFrom 0 above = none := by
    intro above
    cases above <;> rfl
  rw [enclosingClass?, margin, outside]

end Handlers

section Arguments

def Assigns (text : Text) : Prop :=
  ∃ left gap quote right, text = left ++ '=' :: (gap ++ quote :: right) ∧ (∀ c ∈ gap, isBlank c) ∧
    isQuote quote

variable {text front back : Text}

theorem not_assigns_of_not_mem (free : '=' ∉ text) : ¬ Assigns text := by
  rintro ⟨left, gap, quote, right, rfl, _⟩
  simp at free

theorem not_assigns_of_single {c : Char} (before : '=' ∉ front) (after : '=' ∉ c :: back)
    (solid : isBlank c = false) (other : isQuote c = false) :
    ¬ Assigns (front ++ '=' :: c :: back) := by
  rintro ⟨left, gap, quote, right, same, blank, opens⟩
  obtain ⟨_, rest⟩ := Text.append_cons_inj_single before after same
  cases gap with
  | nil =>
    rw [List.nil_append] at rest
    rw [(List.cons.inj rest).1, opens] at other
    cases other
  | cons d gap =>
    rw [(List.cons.inj rest).1, blank d (by simp)] at solid
    cases solid

/-- A word right before the only equals sign stands before it nowhere else. -/
theorem not_keyword_earlier {word front left right rest after more : Text} {c : Char}
    (filled : word ≠ []) (spelled : word.all isWord) (free : '=' ∉ front)
    (split : front = left ++ c :: right) (sign : after.dropWhile isBlank = '=' :: more) :
    c :: (right ++ (word ++ '=' :: rest)) ≠ word ++ after := by
  intro same
  have blank : ∀ d ∈ after.takeWhile isBlank, isBlank d := List.all_eq_true.mp List.all_takeWhile
  rw [← List.takeWhile_append_dropWhile (p := isBlank) (l := after), sign] at same
  generalize after.takeWhile isBlank = gap at same blank
  have solid : ∀ d ∈ word, isWord d := List.all_eq_true.mp spelled
  have signless : '=' ∉ word := not_mem_of_accepted solid (by decide)
  have apart : '=' ∉ c :: right ++ word := by
    rw [split] at free
    simp only [List.mem_append, not_or] at free ⊢
    exact ⟨free.2, signless⟩
  have clear : '=' ∉ word ++ gap := by
    simp [signless, not_mem_of_accepted blank (show isBlank '=' = false by decide)]
  obtain ⟨longer, _⟩ := Text.append_cons_inj apart clear
    (show (c :: right ++ word) ++ '=' :: rest = (word ++ gap) ++ '=' :: more by simpa using same)
  cases last : gap.getLast? with
  | none =>
    rw [List.getLast?_eq_none_iff.mp last] at longer
    have length := congrArg List.length longer
    simp only [List.length_append, List.length_cons, List.length_nil] at length
    omega
  | some d =>
    -- the last character of the gap would be that of the word
    have ended := congrArg List.getLast? longer
    rw [List.getLast?_append, List.getLast?_append, last, List.getLast?_eq_some_getLast filled] at ended
    have word := solid _ (List.getLast_mem filled)
    rw [Option.some.inj ended] at word
    rw [isWord_eq_false_of_isBlank (blank d (List.mem_of_getLast? last))] at word
    cases word

def StartsWithLiteral (text : Text) (opening : Char) (value : Text) (closing : Char) (rest : Text) : Prop :=
  ∃ gap space, text = gap ++ '=' :: (space ++ opening :: (value ++ closing :: rest)) ∧
    (∀ c ∈ gap, isBlank c) ∧ (∀ c ∈ space, isBlank c) ∧ isQuote opening ∧ isQuote closing ∧
    ∀ c ∈ value, isQuote c = false

theorem startsWithLiteral_of_passes {place stop : Cursor} (passes : assignedLiteral.Passes place stop) :
    ∃ opening value closing, StartsWithLiteral place.rest opening value closing stop.rest := by
  simp only [assignedLiteral, literalPattern, blanks, passes_seq, passes_many, passes_text,
    passes_one, passes_capture] at passes
  obtain ⟨_, ⟨_, ⟨_, rfl, rest, found, rfl⟩, rfl⟩, _, ⟨_, ⟨opening, right, starts, opens, rfl⟩, rfl⟩,
    closing, tail, ends, closes, rfl⟩ := passes
  refine ⟨opening, right.takeWhile fun c => !isQuote c, closing, place.rest.takeWhile isBlank,
    rest.takeWhile isBlank, ?_, List.all_eq_true.mp List.all_takeWhile,
    List.all_eq_true.mp List.all_takeWhile, opens, closes, fun c member => ?_⟩
  · have value : (right.takeWhile fun c => !isQuote c) ++ closing :: tail = right := by
      rw [← show (right.dropWhile fun c => !isQuote c) = closing :: tail from ends,
        List.takeWhile_append_dropWhile]
    have literal : rest.takeWhile isBlank ++ opening :: right = rest := by
      rw [← show rest.dropWhile isBlank = opening :: right from starts, List.takeWhile_append_dropWhile]
    rw [value, literal, ← show place.rest.dropWhile isBlank = '=' :: rest from found,
      List.takeWhile_append_dropWhile]
  · have inside := List.all_eq_true.mp (List.all_takeWhile (p := fun c => !isQuote c) (l := right)) c member
    simpa using inside

theorem assigns_of_passes {place stop : Cursor} (passes : assignedLiteral.Passes place stop) :
    Assigns place.rest := by
  obtain ⟨opening, value, closing, gap, space, same, _, blank, opens, _⟩ :=
    startsWithLiteral_of_passes passes
  exact ⟨gap, space, opening, value ++ closing :: stop.rest, same, blank, opens⟩

theorem Assigns.of_suffix {more : Text} (assigns : Assigns more) (suffix : more <:+ text) :
    Assigns text := by
  obtain ⟨left, gap, quote, right, rfl, blank, opens⟩ := assigns
  obtain ⟨lead, rfl⟩ := suffix
  exact ⟨lead ++ left, gap, quote, right, by simp, blank, opens⟩

theorem partIn?_eq_none (lead : Pattern) (plain : ¬ Assigns text) (slot : Nat) :
    (lead ++ assignedLiteral).partIn? slot text = none := by
  have nowhere : (lead ++ assignedLiteral).find? text = none := by
    refine find?_eq_none fun left right same => runs_eq_nil fun stop passes => plain ?_
    obtain ⟨middle, before, after⟩ := passes_seq.mp passes
    have suffix : middle.rest <:+ right := before.suffix
    exact (assigns_of_passes after).of_suffix (suffix.trans ⟨left, same.symm⟩)
  rw [partIn?, nowhere]
  rfl

section Literals

variable {before : Option Char}

theorem reads_literal {opening closing : Char} {value : Text} (opens : isQuote opening)
    (closes : isQuote closing) (plain : ∀ c ∈ value, isQuote c = false) (rest : Text) (slot : Nat) :
    Reads (literalPattern slot) before (opening :: (value ++ [closing])) rest [(slot, value)] := by
  refine .seq (.seq (.one opens) (.capture slot (.many ?_ ?_))) (.one closes)
  · intro c member
    simp [plain c member]
  · rintro c ⟨⟩
    simp [closes]

theorem reads_assignedLiteral {gap space value : Text} {opening closing : Char}
    (before : Option Char) (rest : Text) (blank : ∀ c ∈ gap, isBlank c) (clear : ∀ c ∈ space, isBlank c)
    (opens : isQuote opening) (closes : isQuote closing) (plain : ∀ c ∈ value, isQuote c = false) :
    Reads assignedLiteral before (gap ++ '=' :: (space ++ opening :: (value ++ [closing]))) rest
      [(1, value)] := by
  have pieces : gap ++ '=' :: (space ++ opening :: (value ++ [closing])) =
      gap ++ ['='] ++ space ++ (opening :: (value ++ [closing])) := by simp
  rw [pieces]
  change Reads _ _ _ _ ([] ++ [] ++ [] ++ [(1, value)])
  refine .seq (.seq (.seq (.many blank ?_) (.text _)) (.many clear ?_))
    (reads_literal opens closes plain rest 1)
  · rintro c ⟨⟩
    decide
  · rintro c ⟨⟩
    revert opens
    simp only [isQuote, Bool.or_eq_true, beq_iff_eq]
    rintro (rfl | rfl) <;> decide

theorem not_quote_of_fragment (value : Fragment) : ∀ c ∈ value.text, isQuote c = false := by
  intro c member
  have double := value.quote_not_mem (.inl rfl)
  have single := value.quote_not_mem (.inr rfl)
  have differs : c ≠ '"' ∧ c ≠ '\'' :=
    ⟨by rintro rfl; exact double member, by rintro rfl; exact single member⟩
  simp [isQuote, differs]

variable {quote : Char} (opens : quote = '"' ∨ quote = '\'') (value : Fragment)
  (rest : Text)
include opens

theorem isQuote_of_quote : isQuote quote := by
  rcases opens with rfl | rfl <;> decide

theorem reads_literalPattern (slot : Nat) :
    Reads (literalPattern slot) before (quoted quote value.text) rest [(slot, value.text)] :=
  reads_literal (isQuote_of_quote opens) (isQuote_of_quote opens) (not_quote_of_fragment value) rest slot

theorem reads_keywordPattern {keyword : Text}
    (edge : wordAt before ≠ wordAt (keyword ++ ['=']).head?) :
    Reads (keywordPattern keyword) before (keyword ++ '=' :: quoted quote value.text) rest
      [(1, value.text)] := by
  have start : ((keyword ++ ['=']) ++ (quoted quote value.text ++ rest)).head? =
      (keyword ++ ['=']).head? := by
    cases keyword <;> rfl
  have quotes : isQuote quote := isQuote_of_quote opens
  have assigned : Reads assignedLiteral (lastOr before keyword)
      ([] ++ '=' :: ([] ++ quoted quote value.text)) rest [(1, value.text)] :=
    reads_assignedLiteral _ rest (List.forall_mem_nil _) (List.forall_mem_nil _) quotes quotes
      (not_quote_of_fragment value)
  have fresh : Reads .boundary before [] (keyword ++ ('=' :: quoted quote value.text ++ rest)) [] := by
    refine .boundary ?_
    rw [show keyword ++ ('=' :: quoted quote value.text ++ rest) =
      (keyword ++ ['=']) ++ (quoted quote value.text ++ rest) by simp, start]
    exact edge
  exact .seq (.seq fresh (.text keyword)) assigned

theorem partIn?_keywordPattern (front : Text) {keyword : Text} (filled : keyword ≠ [])
    (spelled : keyword.all isWord) (free : '=' ∉ front)
    (edge : wordAt (lastOr none front) ≠ wordAt (keyword ++ ['=']).head?) :
    (keywordPattern keyword).partIn? 1 (front ++ (keyword ++ '=' :: quoted quote value.text)) =
      some value.text := by
  have read := reads_keywordPattern opens value [] edge
  have found := read.partIn? (fun left c right split => runs_eq_nil fun stop passes => ?_) 1
  · rw [List.append_nil] at found
    exact found
  · simp only [keywordPattern, assignedLiteral, blanks, passes_seq, passes_boundary, passes_text,
      passes_many] at passes
    obtain ⟨_, ⟨_, ⟨_, rfl⟩, after, same, rfl⟩, _, ⟨_, ⟨_, rfl, more, sign, _⟩, _⟩, _⟩ := passes
    rw [List.append_nil] at same
    exact not_keyword_earlier filled spelled free split sign same

end Literals

theorem routeLiteral?_quoted {quote : Char} (opens : quote = '"' ∨ quote = '\'') (route : Fragment)
    (rest : Text) (plain : ¬ Assigns (quoted quote route.text ++ rest)) :
    routeLiteral? (quoted quote route.text ++ rest) = some route.text := by
  have unnamed : namedRoutePattern.partIn? 1 (quoted quote route.text ++ rest) = none :=
    partIn?_eq_none _ plain 1
  have literal := firstLiteral?_quoted (route.quote_not_mem opens) rest opens
  have start : Text.trimStart (quoted quote route.text ++ rest) = quoted quote route.text ++ rest := by
    rcases opens with rfl | rfl <;> rfl
  have quotes : (quoted quote route.text ++ rest).head?.any isQuote := by
    rcases opens with rfl | rfl <;> rfl
  rw [routeLiteral?, unnamed]
  simp only [start, quotes, if_true, literal]

end Arguments

section Constructors

variable {constructor keyword : Pattern} {line front arguments back : Text}
  {above below : List Text}

def keywordAt? (constructor keyword : Pattern) (place : Place) : Option Text := do
  let call ← (constructor.findAll place.line).findSome? fun found =>
    Call.read? found.rest place.below
  keyword.partIn? 1 call.text

theorem gives_no_keyword {lines : List Text} (none : ∀ line ∈ lines, ∀ above below,
      keywordAt? constructor keyword ⟨above, line, below⟩ = none) :
    Place.Gives (fun place => (keywordAt? constructor keyword place).toList) above lines below [] := by
  refine .none fun line member above below => ?_
  rw [none line member]
  rfl

/-- The first item with a keyword gives its value, when no line of an item depends on others. -/
theorem constructorKeyword?_items {ι : Type} {linesOf : ι → List Text} {value? : ι → Option Text}
    (each : ∀ item above below, Place.Gives
      (fun place => (keywordAt? constructor keyword place).toList) above (linesOf item) below
      (value? item).toList) (items : List ι) :
    constructorKeyword? constructor keyword (items.flatMap linesOf) = items.findSome? value? := by
  have gives : Place.Gives (fun place => (keywordAt? constructor keyword place).toList) []
      (items.flatMap linesOf) [] (items.flatMap fun item => (value? item).toList) :=
    .flatMap (fun _ => True) (fun _ _ => trivial) (fun item above below _ => each item above below)
      items trivial
  have first : constructorKeyword? constructor keyword (items.flatMap linesOf) =
      ((Place.all (items.flatMap linesOf)).flatMap fun place =>
        (keywordAt? constructor keyword place).toList).head? := by
    rw [← List.filterMap_eq_flatMap_toList, List.head?_filterMap]
    rfl
  rw [first, gives.flatMap_all, ← List.filterMap_eq_flatMap_toList, List.head?_filterMap]

theorem keywordAt?_of_not_mem (free : '(' ∉ line) :
    keywordAt? constructor keyword ⟨above, line, below⟩ = none := by
  have uncalled : ((constructor.findAll line).findSome? fun found =>
      Call.read? found.rest below) = none := by
    rw [List.findSome?_eq_none_iff]
    intro found member
    by_contra called
    obtain ⟨call, read⟩ := Option.ne_none_iff_exists'.mp called
    obtain ⟨gap, more, rest, _⟩ := Call.exists_paren_of_read? read
    obtain ⟨lead, same⟩ := rest_suffix_of_mem_findAllFrom member
    rw [rest] at same
    simp [← same] at free
  simp [keywordAt?, uncalled]

theorem keywordAt?_of_call (lead : Pattern) (before : '(' ∉ front)
    (after : '(' ∉ arguments ++ ')' :: back) (inert : Inert arguments)
    (plain : ¬ Assigns arguments) :
    keywordAt? constructor (lead ++ assignedLiteral)
      ⟨above, front ++ '(' :: (arguments ++ ')' :: back), below⟩ = none := by
  refine Option.bind_eq_none_iff.mpr fun call called => ?_
  obtain ⟨found, member, read⟩ := List.exists_of_findSome?_eq_some called
  have suffix := rest_suffix_of_mem_findAllFrom member
  rw [Call.text_eq_of_read? suffix before after inert read, partIn?_eq_none lead plain]

theorem keywordAt?_functionLine (lead : Pattern) (isAsync : Bool) (name : Identifier) :
    keywordAt? constructor (lead ++ assignedLiteral) ⟨above, functionLine isAsync name, below⟩ =
      none := by
  have front : '(' ∉ (if isAsync then "async ".toList else []) ++ ("def ".toList ++ name.text) := by
    cases isAsync <;> simp (disch := decide) [name.not_mem]
  have pieces : functionLine isAsync name =
      ((if isAsync then "async ".toList else []) ++ ("def ".toList ++ name.text)) ++
        '(' :: ([] ++ ')' :: [':']) := by
    cases isAsync <;> rfl
  rw [pieces]
  exact keywordAt?_of_call lead front (by decide) .nil (not_assigns_of_not_mem (by simp))

theorem exists_find?_constructor (front : Text) {letter : Char} {word : Text}
    (free : letter ∉ front) (fresh : wordAt (lastOr none front) = false)
    (spelled : (letter :: word).all isWord) (rest : Text) :
    ∃ found, (Pattern.boundary ++ text (letter :: word) ++ Pattern.boundary).find?
      (front ++ (letter :: word ++ '(' :: rest)) = some found ∧ found.rest = '(' :: rest := by
  have read : Reads (Pattern.boundary ++ text (letter :: word) ++ Pattern.boundary) (lastOr none front)
      ([] ++ (letter :: word) ++ []) ('(' :: rest) [] := by
    refine .seq (.seq (.boundary ?_) (.text _)) (.boundary ?_)
    · have start : wordAt (some letter) = true := List.all_eq_true.mp spelled letter (by simp)
      simp [fresh, start]
    · have ended : wordAt (lastOr (lastOr none front) ([] ++ letter :: word)) = true :=
        wordAt_lastOr_word _ (by simp) (List.all_eq_true.mp spelled)
      rw [ended]
      exact Bool.noConfusion
  have starts : ∀ place stop,
      (Pattern.boundary ++ text (letter :: word) ++ Pattern.boundary).Passes place stop →
        place.rest.head? = some letter := by
    intro place stop passes
    simp only [passes_seq, passes_boundary, passes_text] at passes
    obtain ⟨_, ⟨_, ⟨_, rfl⟩, more, found, _⟩, _⟩ := passes
    rw [found]
    rfl
  obtain ⟨found, here, rest, _⟩ := read.find?_of_letter free starts
  rw [List.nil_append, List.append_nil] at here
  exact ⟨found, here, rest⟩

theorem keywordAt?_eq_some {value : Text} {found : Found}
    (here : constructor.find? line = some found) (rest : found.rest = '(' :: (arguments ++ [')']))
    (inert : Inert arguments) (valued : keyword.partIn? 1 arguments = some value) :
    keywordAt? constructor keyword ⟨above, line, below⟩ = some value := by
  have called : Call.read? ([] ++ '(' :: (arguments ++ ')' :: [])) below = some ⟨arguments, 0, []⟩ :=
    Call.read?_eq_some (by simp) inert
  rw [List.nil_append, ← rest] at called
  rw [find?, findFrom_eq_head?] at here
  obtain ⟨others, all⟩ := List.head?_eq_some_iff.mp here
  have first : constructor.findAll line = found :: others := all
  simp [keywordAt?, first, called, valued]

end Constructors

end RouteAtlas.Indented
