import RouteAtlas.Proofs.Echo.Blocks

namespace RouteAtlas.Echo

inductive Region where
  /-- Code; `slash` when the character in front is a slash of the code. -/
  | code (slash : Bool)
  /-- A string or a rune opened by `quote`; `escaped` when a backslash in front escapes the character. -/
  | quoted (quote : Char) (escaped : Bool)
  /-- A raw string, with what it holds so far, last character first. -/
  | raw (held : Text)
  | lineComment
  /-- Somewhere behind the start of a comment that may go on over lines. -/
  | blockComment
deriving DecidableEq, Repr

namespace Region

def next : Region → Char → Region
  | .code slash, c =>
    if c = '"' ∨ c = '\'' then .quoted c false
    else if c = '\x60' then .raw []
    else if slash ∧ c = '/' then .lineComment
    else if slash ∧ c = '*' then .blockComment
    else .code (c == '/')
  | .quoted quote true, _ => .quoted quote false
  | .quoted quote false, c =>
    if c = '\\' then .quoted quote true else if c = quote then .code false else .quoted quote false
  | .raw held, c => if c = '\x60' then .code false else .raw (c :: held)
  | .lineComment, _ => .lineComment
  | .blockComment, _ => .blockComment

def isCode : Region → Bool
  | .code _ => true
  | _ => false

def isComplete : Region → Bool
  | .code _ | .lineComment => true
  | _ => false

def marks : Region → Text → List (Region × Char)
  | _, [] => []
  | region, c :: rest => (region, c) :: marks (region.next c) rest

/-- True for an odd number of backslashes at the end of what a raw string holds. -/
def endsOddly (held : Text) : Bool := (held.takeWhile (· == '\\')).length % 2 == 1

/-- True when a raw string ends here that an escape would keep open. -/
def looksEscaped : Region → Char → Bool
  | .raw held, c => c == '\x60' && endsOddly held
  | _, _ => false

end Region

def lineStart : Region := .code false

def sourceCode (line : Text) : Text :=
  ((lineStart.marks line).filter (·.1.isCode)).map (·.2)

def sourceBalance (line : Text) : Int :=
  ((sourceCode line).count '{' : Int) - (sourceCode line).count '}'

def sourceDepth (lines : List Text) : Int :=
  lines.foldl (fun depth line => depth + sourceBalance line) 0

/-- No block comment starts on the line, and no literal goes on behind it. -/
def SelfContained (line : Text) : Prop := (line.foldl Region.next lineStart).isComplete

/-- No raw string of the line ends in an odd number of backslashes. -/
def RawsEndEvenly (line : Text) : Prop :=
  ∀ mark ∈ lineStart.marks line, mark.1.looksEscaped mark.2 = false

def startsInComment (line : Text) : Bool :=
  (Text.trim line).head? == some '*' || (Text.trim line).head? == some '#'

instance (line : Text) : Decidable (SelfContained line) := inferInstanceAs (Decidable (_ = true))

instance (line : Text) : Decidable (RawsEndEvenly line) :=
  inferInstanceAs (Decidable (∀ mark ∈ lineStart.marks line, mark.1.looksEscaped mark.2 = false))

section Scanning

inductive Agrees : Region → Zone → Prop
  | code (previous : Char) : Agrees (.code (previous == '/')) (.code previous)
  | quoted {quote : Char} (opens : quote = '"' ∨ quote = '\'') (escaped : Bool) :
    Agrees (.quoted quote escaped) (.quoted quote escaped)
  | raw (held : Text) : Agrees (.raw held) (.quoted '\x60' (Region.endsOddly held))
  | lineComment : Agrees .lineComment .comment

variable {region : Region} {zone : Zone} {c : Char} {text line : Text}

theorem foldl_next_blockComment (text : Text) : text.foldl Region.next .blockComment = .blockComment := by
  induction text with
  | nil => rfl
  | cons c text ih => exact ih

theorem endsOddly_cons (c : Char) (held : Text) :
    Region.endsOddly (c :: held) = (c == '\\' && !Region.endsOddly held) := by
  unfold Region.endsOddly
  by_cases escape : c = '\\'
  · subst escape
    rw [List.takeWhile_cons_of_pos (by rfl), List.length_cons, Bool.eq_iff_iff]
    simp only [beq_self_eq_true, Bool.true_and, Bool.not_eq_true', beq_iff_eq, beq_eq_false_iff_ne]
    omega
  · rw [List.takeWhile_cons_of_neg (by simpa using escape)]
    simp [escape]

theorem next_code {slash : Bool} (quote : ¬ (c = '"' ∨ c = '\'')) (raw : c ≠ '\x60')
    (comment : ¬ (slash ∧ c = '/')) (inLine : (Region.code slash).next c ≠ .blockComment) :
    (Region.code slash).next c = .code (c == '/') := by
  have block : (Region.code slash).next c =
      if slash ∧ c = '*' then .blockComment else .code (c == '/') :=
    (if_neg quote).trans ((if_neg raw).trans (if_neg comment))
  rw [block] at inLine ⊢
  exact if_neg fun starts => inLine (if_pos starts)

/-- One character keeps region and zone in agreement, unless it ends a raw string that looks escaped or
starts a block comment. -/
theorem Agrees.next (agrees : Agrees region zone) (even : region.looksEscaped c = false)
    (inLine : region.next c ≠ .blockComment) : Agrees (region.next c) (zone.step c) := by
  cases agrees with
  | code previous =>
    by_cases quote : c = '"' ∨ c = '\''
    · have opens : Zone.isQuote c := by rcases quote with rfl | rfl <;> rfl
      rw [show (Region.code _).next c = .quoted c false from if_pos quote,
        show (Zone.code previous).step c = .quoted c false from if_pos opens]
      exact .quoted quote false
    · by_cases raw : c = '\x60'
      · subst raw
        exact .raw []
      · have plain : Zone.isQuote c = false := by simpa [Zone.isQuote, raw] using quote
        by_cases comment : c = '/' ∧ previous = '/'
        · obtain ⟨rfl, rfl⟩ := comment
          exact .lineComment
        · rw [next_code quote raw (by simpa [and_comm] using comment) inLine,
            show (Zone.code previous).step c = .code c by simp [Zone.step, plain, comment]]
          exact .code c
  | quoted opens escaped =>
    cases escaped with
    | true => exact .quoted opens false
    | false =>
      simp only [Region.next, Zone.step]
      split
      · exact .quoted opens true
      · split
        · rename_i quote _ _
          have solid : (quote == '/') = false := by rcases opens with rfl | rfl <;> rfl
          exact solid ▸ .code quote
        · exact .quoted opens false
  | raw held =>
    by_cases closes : c = '\x60'
    · subst closes
      -- with an odd number of backslashes the reader would go on in the literal
      have plain : Region.endsOddly held = false := by simpa [Region.looksEscaped] using even
      rw [plain]
      exact .code '\x60'
    · have stays : Zone.step (.quoted '\x60' (Region.endsOddly held)) c =
          .quoted '\x60' (Region.endsOddly (c :: held)) := by
        rw [endsOddly_cons]
        cases Region.endsOddly held <;> by_cases escape : c = '\\' <;> simp [Zone.step, escape, closes]
      rw [stays, Region.next, if_neg closes]
      exact .raw (c :: held)
  | lineComment => exact .lineComment

theorem Agrees.isCode_eq (agrees : Agrees region zone) : zone.isCode = region.isCode := by
  cases agrees <;> rfl

theorem Agrees.codeOf_eq (agrees : Agrees region zone)
    (complete : (text.foldl Region.next region).isComplete)
    (even : ∀ mark ∈ region.marks text, mark.1.looksEscaped mark.2 = false) :
    codeOf zone text = ((region.marks text).filter (·.1.isCode)).map (·.2) := by
  induction text generalizing region zone with
  | nil => rfl
  | cons c text ih =>
    have inLine : region.next c ≠ .blockComment := by
      intro block
      rw [List.foldl_cons, block, foldl_next_blockComment] at complete
      cases complete
    have later := ih (agrees.next (even (region, c) List.mem_cons_self) inLine) complete fun mark member =>
      even mark (List.mem_cons_of_mem _ member)
    rw [codeOf, Region.marks, List.filter_cons, agrees.isCode_eq, later]
    split <;> rfl

theorem SelfContained.braceBalance_eq (contained : SelfContained line) (even : RawsEndEvenly line) :
    braceBalance line = sourceBalance line := by
  have same : codeOf (.code '\x00') line = sourceCode line := (Agrees.code '\x00').codeOf_eq contained even
  rw [braceBalance, braceCounts, same]
  rfl

end Scanning

section Lines

variable {line front rest : Text} {file : Path} {lines : List Text} {number : Nat}

theorem foldl_next_blank (blank : ∀ c ∈ front, isBlank c) : front.foldl Region.next lineStart = lineStart := by
  induction front with
  | nil => rfl
  | cons c front ih =>
    have solid : ['"', '\'', '\x60', '/'].all fun d => !isBlank d := by decide
    have other : ∀ d ∈ ['"', '\'', '\x60', '/'], c ≠ d := by
      rintro d member rfl
      have clear := List.all_eq_true.mp solid c member
      rw [blank c List.mem_cons_self] at clear
      cases clear
    have stays : lineStart.next c = lineStart := by
      simp [lineStart, Region.next, other]
    rw [List.foldl_cons, stays]
    exact ih fun d member => blank d (List.mem_cons_of_mem _ member)

theorem codeOf_comment (text : Text) : codeOf .comment text = [] := by
  induction text with
  | nil => rfl
  | cons c text ih => exact ih

theorem braceBalance_comment (blank : ∀ c ∈ front, isBlank c) (rest : Text) :
    braceBalance (front ++ '/' :: '/' :: rest) = 0 := by
  obtain ⟨last, code, same, noOpen, noClose⟩ := Calm.of_blank blank '\x00' ('/' :: '/' :: rest)
  have slashes : ∀ c ∈ codeOf (.code last) ('/' :: '/' :: rest), c = '/' := by
    by_cases slash : last = '/' <;> simp [codeOf, Zone.isCode, Zone.step, Zone.isQuote, slash,
      codeOf_comment]
  have absent : ∀ brace ∈ ['{', '}'], brace ∉ codeOf (.code last) ('/' :: '/' :: rest) := by
    intro brace listed member
    rw [slashes brace member] at listed
    revert listed
    decide
  rw [braceBalance, braceCounts, same]
  simp [List.count_eq_zero_of_not_mem, noOpen, noClose, absent]

theorem SelfContained.not_block (contained : SelfContained (front ++ '/' :: '*' :: rest))
    (blank : ∀ c ∈ front, isBlank c) : False := by
  have block : (front ++ '/' :: '*' :: rest).foldl Region.next lineStart = .blockComment := by
    rw [List.foldl_append, foldl_next_blank blank]
    exact foldl_next_blockComment rest
  rw [SelfContained, block] at contained
  cases contained

def tracked (line : Text) : Int := if isCommentOrBlank (Text.trim line) then 0 else braceBalance line

theorem tracked_eq (contained : SelfContained line) (even : RawsEndEvenly line) :
    tracked line = if startsInComment line then 0 else sourceBalance line := by
  rw [← contained.braceBalance_eq even, tracked]
  obtain ⟨front, back, split, blank, tail⟩ := Text.exists_append_trim_append line
  by_cases inside : startsInComment line
  · have skipped : isCommentOrBlank (Text.trim line) := by
      simp only [startsInComment, Bool.or_eq_true] at inside
      rcases inside with star | hash
      · simp [isCommentOrBlank, star]
      · simp [isCommentOrBlank, hash]
    rw [if_pos skipped, if_pos inside]
  · rw [if_neg inside]
    split
    · rename_i skipped
      have kinds : (Text.trim line).isEmpty ∨ Text.startsWith (Text.trim line) "//" ∨
          Text.startsWith (Text.trim line) "/*" := by
        simp only [startsInComment, Bool.or_eq_true] at inside
        simpa only [isCommentOrBlank, Bool.or_eq_true, or_assoc, inside, or_false] using skipped
      rcases kinds with empty | comment | block
      · rw [List.isEmpty_iff.mp empty, List.append_nil] at split
        rw [split]
        exact ((Calm.of_blank blank).append (.of_blank tail)).braceBalance_eq.symm
      · obtain ⟨rest, same⟩ := List.isPrefixOf_iff_prefix.mp comment
        rw [← same, List.append_assoc, List.append_assoc] at split
        rw [split]
        exact (braceBalance_comment blank (rest ++ back)).symm
      · obtain ⟨rest, same⟩ := List.isPrefixOf_iff_prefix.mp block
        rw [← same, List.append_assoc, List.append_assoc] at split
        rw [split] at contained
        exact (contained.not_block blank).elim
    · rfl

theorem depth_succ (file : Path) (here : lines[number]? = some line) :
    (groupsBefore file lines (number + 1)).depth = (groupsBefore file lines number).depth + tracked line := by
  rw [groupsBefore_succ file here, tracked]
  split
  · rw [Int.add_zero]
  · rw [Groups.advance, depth_readCalls]

theorem sourceDepth_succ (here : lines[number]? = some line) :
    sourceDepth (lines.take (number + 1)) = sourceDepth (lines.take number) + sourceBalance line := by
  rw [sourceDepth, List.take_add_one, here, List.foldl_append]
  rfl

/--
In a source without block comments and without literals over several lines, whose raw strings do not end in
a backslash that looks like an escape, the tracked depth is the depth of the source in front of every line
exactly when the lines that are taken for parts of a comment have balanced braces.
-/
theorem depth_eq_sourceDepth_iff (file : Path) (contained : ∀ line ∈ lines, SelfContained line)
    (even : ∀ line ∈ lines, RawsEndEvenly line) :
    (∀ number ≤ lines.length, (groupsBefore file lines number).depth = sourceDepth (lines.take number)) ↔
      ∀ line ∈ lines, startsInComment line → sourceBalance line = 0 := by
  have each : ∀ line ∈ lines, tracked line = if startsInComment line then 0 else sourceBalance line :=
    fun line member => tracked_eq (contained line member) (even line member)
  constructor
  · intro same line member inside
    obtain ⟨number, here⟩ := List.mem_iff_getElem?.mp member
    have bound : number < lines.length := (List.getElem?_eq_some_iff.mp here).1
    -- the depths in front of the line and behind it differ by what was counted on it
    have before := same number (Nat.le_of_lt bound)
    have after := same (number + 1) bound
    rw [depth_succ file here, sourceDepth_succ here, each line member, if_pos inside] at after
    omega
  · intro balanced number bound
    induction number with
    | zero => rfl
    | succ number ih =>
      have here : lines[number]? = some lines[number] := List.getElem?_eq_getElem bound
      have member : lines[number] ∈ lines := List.getElem_mem bound
      have counted : tracked lines[number] = sourceBalance lines[number] := by
        rw [each _ member]
        split
        · rename_i inside
          exact (balanced _ member inside).symm
        · rfl
      rw [depth_succ file here, sourceDepth_succ here, ih (Nat.le_of_lt bound), counted]

def bracedLiterals : List Text :=
  ["func routes(e *echo.Echo) \x7b // \x7b", "\t*cfg = Config\x7bDebug: true\x7d", "\tif dir == \x60\\\\\x60 \x7b",
    "\t\tlog(\"\\\"\x7d\", '\x7b', \x60\x7d\"\x60)", "\t\x7d"]

theorem depth_of_bracedLiterals :
    (∀ line ∈ bracedLiterals, SelfContained line) ∧ (∀ line ∈ bracedLiterals, RawsEndEvenly line) ∧
      (groupsBefore ⟨"a.go"⟩ bracedLiterals 4).depth = 2 := by
  have contained : ∀ line ∈ bracedLiterals, SelfContained line := by decide +kernel
  have even : ∀ line ∈ bracedLiterals, RawsEndEvenly line := by decide +kernel
  refine ⟨contained, even, ?_⟩
  rw [(depth_eq_sourceDepth_iff ⟨"a.go"⟩ contained even).mpr (by decide +kernel) 4 (by decide)]
  decide +kernel

def starredStatement : List Text :=
  ["func routes(e *echo.Echo) \x7b", "\te.Group(\"/api\")", "\t*cfg = Config\x7b", "\t\tDebug: true,", "\t\x7d",
    "\te.GET(\"/users\", list)", "\x7d"]

def rawBackslash : List Text :=
  ["func routes(e *echo.Echo) \x7b", "\te.Group(\"/api\")", "\tif dir == \x60\\\x60 \x7b", "\t\tdir = \"/\"", "\t\x7d",
    "\te.GET(\"/users\", list)", "\x7d"]

/-- In both sources the opening brace of the inner block is not counted, so that its end looks like that of
the function. -/
theorem depth_lost_at_openings :
    ((∀ line ∈ starredStatement, SelfContained line) ∧ sourceDepth (starredStatement.take 5) = 1 ∧
      (groupsBefore ⟨"a.go"⟩ starredStatement 5).depth = 0) ∧
    (∀ line ∈ rawBackslash, SelfContained line) ∧ sourceDepth (rawBackslash.take 5) = 1 ∧
      (groupsBefore ⟨"a.go"⟩ rawBackslash 5).depth = 0 := by
  decide +kernel

end Lines

end RouteAtlas.Echo
