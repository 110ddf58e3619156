import RouteAtlas.Extract.Echo
import RouteAtlas.Proofs.Code.Brace
import RouteAtlas.Proofs.Text.Pattern
import RouteAtlas.Proofs.Text.Pieces

namespace RouteAtlas.Echo

open Pattern

structure Name where
  text : Text
  filled : text ≠ []
  spelled : text.all isWord

/-- A name of a function that serves a route. A function without a name starts with a keyword. -/
structure Handler extends Name where
  named : text ≠ "func".toList

structure Literal where
  text : Text
  simple : text.all fun c => !(['"', '\x60', '\\', '(', ')'].contains c)

inductive Verb where
  | get
  | post
  | put
  | delete
  | patch

def Verb.method : Verb → Method
  | .get => .get
  | .post => .post
  | .put => .put
  | .delete => .delete
  | .patch => .patch

def Literal.quoted (literal : Literal) : Text := '"' :: (literal.text ++ ['"'])

inductive Statement where
  | assign (binder receiver : Name) (literal : Literal)
  | group (receiver : Name) (literal : Literal)
  | route (receiver : Name) (verb : Verb) (literal : Literal) (handler : Handler)
  | chained (receiver : Name) (literal : Literal) (verb : Verb) (own : Literal) (handler : Handler)

def groupCall (receiver : Name) (literal : Literal) : Text :=
  receiver.text ++ '.' :: ("Group".toList ++ '(' :: literal.quoted)

def routeCall (verb : Verb) (literal : Literal) (handler : Handler) : Text :=
  '.' :: (verb.method.tag ++ '(' :: (literal.quoted ++ ", ".toList ++ handler.text))

def Statement.text : Statement → Text
  | .assign binder receiver literal =>
    binder.text ++ " := ".toList ++ groupCall receiver literal ++ [')']
  | .group receiver literal => groupCall receiver literal ++ [')']
  | .route receiver verb literal handler =>
    receiver.text ++ routeCall verb literal handler ++ [')']
  | .chained receiver literal verb own handler =>
    groupCall receiver literal ++ ')' :: (routeCall verb own handler ++ [')'])

def opening : Option Name → Text
  | some name => "func ".toList ++ name.text ++ "() \x7b".toList
  | none => ['{']

theorem opening_none : opening none = ['{'] := rfl

theorem opening_some (name : Name) :
    opening (some name) = "func ".toList ++ name.text ++ "() \x7b".toList := rfl

def closing : Text := ['}']

theorem Name.word (name : Name) : ∀ c ∈ name.text, isWord c := List.all_eq_true.mp name.spelled

theorem Literal.plain (literal : Literal) :
    ∀ c ∈ literal.text, c ≠ '"' ∧ c ≠ '\x60' ∧ c ≠ '\\' ∧ c ≠ '(' ∧ c ≠ ')' := by
  intro c member
  simpa using List.all_eq_true.mp literal.simple c member

section Shapes

/-- Whatever the pattern reads, the next parenthesis after its start opens a call of one of the
methods. -/
structure Calls (pattern : Pattern) (methods : List Text) : Prop where
  starts : ∀ {before text reading}, reading ∈ pattern.runs ⟨before, text⟩ →
    ∀ c, text.head? = some c → isBlank c = false
  shape : ∀ {before text reading}, reading ∈ pattern.runs ⟨before, text⟩ →
    ∃ front method rest, text = front ++ '.' :: (method ++ '(' :: rest) ∧ '(' ∉ front ∧
      method ∈ methods
  methods : ∀ method ∈ methods, '(' ∉ method ∧ '.' ∉ method

theorem firstArgument_opens {slot : Nat} {place : Cursor} {reading : Reading}
    (member : reading ∈ (firstArgument slot).runs place) : ∃ rest, place.rest = '(' :: rest := by
  simp only [firstArgument, mem_runs_seq, mem_runs_text] at member
  obtain ⟨_, ⟨_, ⟨_, ⟨_, ⟨rest, found, _⟩, _⟩, _⟩, _⟩, _⟩ := member
  exact ⟨rest, found⟩

theorem of_mem_runs_routePattern {before : Option Char} {text : Text} {reading : Reading}
    (member : reading ∈ routePattern.runs ⟨before, text⟩) :
    ∃ word verb rest, text = word ++ '.' :: (verb ++ '(' :: rest) ∧ verb ∈ verbs ∧
      (word = [')'] ∨ word ≠ [] ∧ (∀ c ∈ word, isWord c) ∧ wordAt before = false) := by
  simp only [routePattern, mem_runs_seq] at member
  obtain ⟨_, ⟨_, ⟨_, ⟨_, ⟨start, receiver, _, dot, rfl⟩, _, method, rfl⟩, _, argument, rfl⟩, _⟩, _⟩ :=
    member
  obtain ⟨afterDot, dotted, rfl⟩ := mem_runs_text.mp dot
  obtain ⟨named, called, rfl⟩ := mem_runs_capture.mp method
  obtain ⟨verb, listed, spelled⟩ := mem_runs_anyOf called
  obtain ⟨rest, opened⟩ := firstArgument_opens argument
  replace dotted : start.stop.rest = '.' :: afterDot := dotted
  replace spelled : afterDot = verb ++ named.stop.rest := spelled
  replace opened : named.stop.rest = '(' :: rest := opened
  rcases mem_runs_alt.mp receiver with fresh | closed
  · obtain ⟨edge, filled, stop⟩ := mem_runs_freshName fresh
    replace stop : start.stop.rest = text.dropWhile isWord := by rw [stop]
    refine ⟨text.takeWhile isWord, verb, rest, ?_, listed, .inr ⟨filled, ?_, edge⟩⟩
    · rw [← opened, ← spelled, ← dotted, stop, List.takeWhile_append_dropWhile]
    · exact fun c inside => List.all_eq_true.mp List.all_takeWhile c inside
  · obtain ⟨more, found, rfl⟩ := mem_runs_text.mp closed
    refine ⟨[')'], verb, rest, ?_, listed, .inl rfl⟩
    rw [← opened, ← spelled, ← dotted]
    exact found

theorem of_mem_runs_assignment {before : Option Char} {text : Text} {reading : Reading}
    (member : reading ∈ assignment.runs ⟨before, text⟩) :
    wordAt text.head? ∧ (∃ front, text = front ++ reading.stop.rest ∧ '(' ∉ front) ∧
      ((text.dropWhile isWord).dropWhile isBlank).head? ∈ [some ':', some '='] := by
  simp only [assignment, mem_runs_seq] at member
  obtain ⟨_, ⟨_, ⟨_, ⟨binder, fresh, _, gap, rfl⟩, colon, optional, rfl⟩, _, equals, rfl⟩, _, space,
    rfl⟩ := member
  obtain ⟨_, filled, stop⟩ := mem_runs_freshName fresh
  obtain rfl := mem_runs_many.mp gap
  obtain ⟨rest, signed, rfl⟩ := mem_runs_text.mp equals
  obtain rfl := mem_runs_many.mp space
  replace stop : binder.stop.rest = text.dropWhile isWord := by rw [stop]
  replace signed : colon.stop.rest = '=' :: rest := signed
  -- the colon is there or not
  have passed : ∃ mark, (mark = [':'] ∨ mark = []) ∧
      (text.dropWhile isWord).dropWhile isBlank = mark ++ '=' :: rest := by
    rw [← stop, ← signed]
    rcases mem_runs_alt.mp optional with present | absent
    · obtain ⟨more, found, rfl⟩ := mem_runs_text.mp present
      exact ⟨[':'], .inl rfl, found⟩
    · obtain rfl : colon = _ := by simpa using absent
      exact ⟨[], .inr rfl, rfl⟩
  obtain ⟨mark, signs, marked⟩ := passed
  have free : '(' ∉ mark := by
    rcases signs with rfl | rfl <;> decide
  refine ⟨wordAt_of_takeWhile filled, ⟨text.takeWhile isWord ++
    (text.dropWhile isWord).takeWhile isBlank ++ mark ++ '=' :: rest.takeWhile isBlank, ?_, ?_⟩, ?_⟩
  · calc text = text.takeWhile isWord ++ text.dropWhile isWord := by
          rw [List.takeWhile_append_dropWhile]
      _ = text.takeWhile isWord ++ ((text.dropWhile isWord).takeWhile isBlank ++
            (mark ++ '=' :: rest)) := by
          simp only [← marked, List.takeWhile_append_dropWhile]
      _ = _ := by simp [List.takeWhile_append_dropWhile]
  · simp only [List.mem_append, List.mem_cons, not_or]
    exact ⟨⟨⟨not_mem_takeWhile (by decide) _, not_mem_takeWhile (by decide) _⟩, free⟩, by decide,
      not_mem_takeWhile (by decide) _⟩
  · rw [marked]
    rcases signs with rfl | rfl <;> simp

theorem of_mem_runs_groupPattern {before : Option Char} {text : Text} {reading : Reading}
    (member : reading ∈ groupPattern.runs ⟨before, text⟩) :
    wordAt text.head? ∧ ∃ front rest, text = front ++ '.' :: ("Group".toList ++ '(' :: rest) ∧
      '(' ∉ front := by
  simp only [groupPattern, mem_runs_seq] at member
  obtain ⟨_, ⟨_, ⟨lead, optional, named, receiver, rfl⟩, _, method, rfl⟩, _, argument, _⟩ := member
  obtain ⟨afterMethod, spelled, rfl⟩ := mem_runs_text.mp method
  obtain ⟨rest, opened⟩ := firstArgument_opens argument
  obtain ⟨_, filled, stop⟩ := mem_runs_freshName receiver
  replace stop : named.stop.rest = lead.stop.rest.dropWhile isWord := by rw [stop]
  replace spelled : named.stop.rest = '.' :: ("Group".toList ++ afterMethod) := spelled
  replace opened : afterMethod = '(' :: rest := opened
  have tail : lead.stop.rest =
      lead.stop.rest.takeWhile isWord ++ '.' :: ("Group".toList ++ '(' :: rest) := by
    rw [← opened, ← spelled, stop, List.takeWhile_append_dropWhile]
  have free : '(' ∉ lead.stop.rest.takeWhile isWord := not_mem_takeWhile (by decide) _
  rcases mem_runs_alt.mp optional with assigned | absent
  · obtain ⟨word, ⟨front, found, clear⟩, _⟩ := of_mem_runs_assignment assigned
    refine ⟨word, front ++ lead.stop.rest.takeWhile isWord, rest, ?_, ?_⟩
    · rw [List.append_assoc, ← tail]
      exact found
    · rw [List.mem_append, not_or]
      exact ⟨clear, free⟩
  · obtain rfl : lead = _ := by simpa using absent
    exact ⟨wordAt_of_takeWhile filled, _, rest, tail, free⟩

theorem calls_routePattern : Calls routePattern verbs := by
  refine ⟨?_, ?_, by decide⟩
  · intro before text reading member c first
    obtain ⟨word, verb, rest, rfl, _, shape⟩ := of_mem_runs_routePattern member
    rcases shape with rfl | ⟨filled, inside, _⟩
    · cases first
      decide
    · obtain ⟨d, more, rfl⟩ := List.exists_cons_of_ne_nil filled
      cases first
      exact not_blank_of_isWord (inside c (by simp))
  · intro before text reading member
    obtain ⟨word, verb, rest, rfl, listed, shape⟩ := of_mem_runs_routePattern member
    refine ⟨word, verb, rest, rfl, ?_, listed⟩
    rcases shape with rfl | ⟨_, inside, _⟩
    · decide
    · intro paren
      exact absurd (inside '(' paren) (by decide)

theorem calls_groupPattern : Calls groupPattern ["Group".toList] := by
  refine ⟨?_, ?_, by decide⟩
  · intro before text reading member c first
    obtain ⟨word, _⟩ := of_mem_runs_groupPattern member
    rw [first] at word
    exact not_blank_of_isWord word
  · intro before text reading member
    obtain ⟨_, front, rest, rfl, free⟩ := of_mem_runs_groupPattern member
    exact ⟨front, _, rest, rfl, free, by simp⟩

end Shapes

section Search

variable {pattern : Pattern} {methods : List Text} (calls : Calls pattern methods)
  {before : Option Char}
include calls

theorem Calls.runs_eq_nil {text : Text} (free : '(' ∉ text) : pattern.runs ⟨before, text⟩ = [] := by
  rw [List.eq_nil_iff_forall_not_mem]
  intro reading member
  obtain ⟨front, method, rest, rfl, _, _⟩ := calls.shape member
  simp at free

theorem Calls.method_mem {text rest : Text} {reading : Reading} (free : '(' ∉ text)
    (member : reading ∈ pattern.runs ⟨before, text ++ '(' :: rest⟩) :
    ∃ front method, text = front ++ '.' :: method ∧ '.' ∉ method ∧ method ∈ methods := by
  obtain ⟨front, method, more, same, clear, listed⟩ := calls.shape member
  obtain ⟨parenless, dotless⟩ := calls.methods method listed
  have closed : '(' ∉ front ++ '.' :: method := by
    simp [clear, parenless]
  have split : text ++ '(' :: rest = (front ++ '.' :: method) ++ '(' :: more := by simpa using same
  exact ⟨front, method, (Text.append_cons_inj free closed split).1, dotless, listed⟩

theorem Calls.findAllFrom_end {text : Text} (free : '(' ∉ text) :
    findAllFrom pattern 0 before text = [] := by
  refine findAllFrom_eq_nil ?_
  rintro left right rfl
  exact calls.runs_eq_nil (by simp_all)

theorem Calls.findAllFrom_pass {text rest : Text} (free : '(' ∉ text)
    (other : ∀ front method, text = front ++ '.' :: method → '.' ∉ method → method ∉ methods) :
    findAllFrom pattern 0 before (text ++ '(' :: rest) =
      findAllFrom pattern 0 (some '(') rest := by
  have passed : findAllFrom pattern 0 before ((text ++ ['(']) ++ rest) =
      findAllFrom pattern 0 (lastOr before (text ++ ['('])) rest := by
    refine Pattern.findAllFrom_pass fun left c right same => ?_
    rw [List.eq_nil_iff_forall_not_mem]
    intro reading member
    -- what is left of the text up to the parenthesis ends with the same call
    have suffix : ∃ remaining, text = left ++ remaining ∧ c :: right = remaining ++ ['('] := by
      rcases List.append_eq_append_iff.mp same with ⟨more, longer, last⟩ | ⟨more, found, last⟩
      · cases more with
        | nil => exact ⟨[], by simpa using longer.symm, by simpa using last.symm⟩
        | cons d more => simp at last
      · exact ⟨more, found, last⟩
    obtain ⟨remaining, rfl, last⟩ := suffix
    have clear : '(' ∉ remaining := by simp_all
    rw [← List.cons_append, last, List.append_assoc, List.singleton_append] at member
    obtain ⟨front, method, rfl, dotless, listed⟩ := calls.method_mem clear member
    exact other (left ++ front) method (by simp) dotless listed
  simpa [lastOr] using passed

theorem Calls.findAll_single {front taken rest : Text} {parts : List (Nat × Text)}
    (blank : ∀ c ∈ front, isBlank c) (filled : taken ≠ [])
    (read : Reads pattern (lastOr none front) taken rest parts)
    (ended : ∀ before, findAllFrom pattern 0 before rest = []) :
    ∃ found, pattern.findAll (front ++ (taken ++ rest)) = [found] ∧
      ∀ slot, found.part? slot = parts.lookup slot := by
  have passed : findAllFrom pattern 0 none (front ++ (taken ++ rest)) =
      findAllFrom pattern 0 (lastOr none front) (taken ++ rest) := by
    refine Pattern.findAllFrom_pass fun left c right same => ?_
    rw [List.eq_nil_iff_forall_not_mem]
    intro reading member
    have solid := calls.starts member c rfl
    rw [blank c (by simp [same])] at solid
    cases solid
  obtain ⟨found, here, noted⟩ := read.findAllFrom filled
  exact ⟨found, by rw [findAll, passed, here, ended], noted⟩

end Search

section Reading

variable {before : Option Char} {start rest : Text} {parts : List (Nat × Text)}

theorem Name.head_word (name : Name) (rest : Text) : wordAt (name.text ++ rest).head? := by
  obtain ⟨c, more, spelled⟩ := List.exists_cons_of_ne_nil name.filled
  simpa [spelled, wordAt] using name.word c (by simp [spelled])

theorem Name.head_not_blank (name : Name) (rest : Text) {c : Char}
    (first : (name.text ++ rest).head? = some c) : isBlank c = false := by
  have word := name.head_word rest
  rw [first] at word
  exact not_blank_of_isWord word

theorem Name.dropWhile_isWord (name : Name) {c : Char} (other : isWord c = false) (rest : Text) :
    (name.text ++ c :: rest).dropWhile isWord = c :: rest := by
  rw [List.dropWhile_append_of_pos name.word, List.dropWhile_cons_of_neg (by simp [other])]

theorem reads_firstArgument (slot : Nat) (literal : Literal) :
    Reads (firstArgument slot) before ('(' :: literal.quoted) rest [(slot, literal.text)] := by
  have unquoted : ∀ c ∈ literal.text, (!isQuote c) = true := by
    intro c member
    obtain ⟨double, back, _⟩ := literal.plain c member
    simp [isQuote, double, back]
  change Reads _ before (['('] ++ [] ++ ['"'] ++ literal.text ++ ['"']) rest
    ([] ++ [] ++ [] ++ [(slot, literal.text)] ++ [])
  refine .seq (.seq (.seq (.seq (.text _) (.many (by simp) ?_)) (.one (by decide)))
    (.capture slot (.many unquoted ?_))) (.one (by decide))
  · rintro c ⟨⟩
    decide
  · rintro c ⟨⟩
    decide

theorem reads_verb (verb : Verb) : Reads (anyOf verbs) before verb.method.tag ('(' :: rest) [] := by
  cases verb <;> exact ⟨⟨⟨_, '(' :: rest⟩, []⟩, rfl, rfl, rfl⟩

theorem reads_routePattern (verb : Verb) (literal : Literal) (handler : Handler)
    (receiver : Reads (freshName 1 <|> text ")") before start
      (routeCall verb literal handler ++ ')' :: rest) parts) :
    Reads routePattern before (start ++ routeCall verb literal handler) (')' :: rest)
      (parts ++ [(2, verb.method.tag), (3, literal.text), (4, handler.text)]) := by
  have dotted : ∀ c ∈ handler.text, isDotted c := by
    intro c member
    simp [isDotted, handler.word c member]
  have pieces : start ++ routeCall verb literal handler = start ++ ['.'] ++ verb.method.tag ++
      ('(' :: literal.quoted) ++ [] ++ ([','] ++ [' '] ++ handler.text) := by
    simp [routeCall]
  have noted : parts ++ [(2, verb.method.tag), (3, literal.text), (4, handler.text)] =
      parts ++ [] ++ [(2, verb.method.tag)] ++ [(3, literal.text)] ++ [] ++
        ([] ++ [] ++ [(4, handler.text)]) := by
    simp
  rw [pieces, noted]
  refine .seq (.seq (.seq (.seq (.seq ?_ (.text _)) (.capture 2 ?_)) (reads_firstArgument 3 literal))
    (.many (by simp) ?_)) (.left (.seq (.seq (.text _)
      (.many (List.all_eq_true.mp (by decide)) ?_)) (.capture 4 (.many1 handler.filled dotted ?_))))
  · simpa [routeCall] using receiver
  · exact reads_verb verb
  · rintro c ⟨⟩
    decide
  · intro c first
    exact handler.head_not_blank _ first
  · rintro c ⟨⟩
    decide

theorem reads_routePattern_receiver (receiver : Name) (verb : Verb) (literal : Literal)
    (handler : Handler) (fresh : wordAt before = false) :
    Reads routePattern before (receiver.text ++ routeCall verb literal handler) (')' :: rest)
      [(1, receiver.text), (2, verb.method.tag), (3, literal.text), (4, handler.text)] := by
  refine reads_routePattern verb literal handler
    (.left (.freshName 1 fresh receiver.filled receiver.word ?_))
  rintro c ⟨⟩
  decide

theorem reads_routePattern_chained (verb : Verb) (literal : Literal) (handler : Handler) :
    Reads routePattern before ([')'] ++ routeCall verb literal handler) (')' :: rest)
      [(2, verb.method.tag), (3, literal.text), (4, handler.text)] := by
  refine reads_routePattern verb literal handler (.right ?_ (.text _))
  rw [List.eq_nil_iff_forall_not_mem]
  intro reading member
  obtain ⟨_, filled, _⟩ := mem_runs_freshName member
  exact filled rfl

theorem reads_groupPattern (receiver : Name) (literal : Literal)
    (lead : Reads (maybe assignment) before start (groupCall receiver literal ++ rest) parts)
    (fresh : wordAt (lastOr before start) = false) :
    Reads groupPattern before (start ++ groupCall receiver literal) rest
      (parts ++ [(2, receiver.text), (3, literal.text)]) := by
  have pieces : start ++ groupCall receiver literal =
      start ++ receiver.text ++ ".Group".toList ++ '(' :: literal.quoted := by
    simp [groupCall]
  have noted : parts ++ [(2, receiver.text), (3, literal.text)] =
      parts ++ [(2, receiver.text)] ++ [] ++ [(3, literal.text)] := by
    simp
  rw [pieces, noted]
  refine .seq (.seq (.seq ?_ (.freshName 2 fresh receiver.filled receiver.word ?_)) (.text _))
    (reads_firstArgument 3 literal)
  · simpa [groupCall] using lead
  · rintro c ⟨⟩
    decide

theorem reads_groupPattern_alone (receiver : Name) (literal : Literal)
    (fresh : wordAt before = false) :
    Reads groupPattern before (groupCall receiver literal) rest
      [(2, receiver.text), (3, literal.text)] := by
  have unassigned : assignment.runs ⟨before, groupCall receiver literal ++ rest⟩ = [] := by
    rw [List.eq_nil_iff_forall_not_mem]
    intro reading member
    obtain ⟨_, _, sign⟩ := of_mem_runs_assignment member
    have dot : (groupCall receiver literal ++ rest).dropWhile isWord =
        '.' :: ("Group".toList ++ '(' :: literal.quoted ++ rest) := by
      rw [groupCall, List.append_assoc]
      exact receiver.dropWhile_isWord (by decide) _
    rw [dot, List.dropWhile_cons_of_neg (by decide)] at sign
    simp at sign
  have lead : Reads (maybe assignment) before [] (groupCall receiver literal ++ rest) [] :=
    .right unassigned .nothing
  have read := reads_groupPattern receiver literal lead fresh
  rwa [List.nil_append, List.nil_append] at read

theorem reads_groupPattern_assigned (binder receiver : Name) (literal : Literal)
    (fresh : wordAt before = false) :
    Reads groupPattern before (binder.text ++ " := ".toList ++ groupCall receiver literal) rest
      [(1, binder.text), (2, receiver.text), (3, literal.text)] := by
  have lead : Reads assignment before (binder.text ++ " := ".toList)
      (groupCall receiver literal ++ rest) [(1, binder.text)] := by
    have pieces : binder.text ++ " := ".toList = binder.text ++ [' '] ++ [':'] ++ ['='] ++ [' '] := by
      simp
    have space : ∀ c ∈ [' '], isBlank c := List.all_eq_true.mp (by decide)
    rw [pieces]
    change Reads _ _ _ _ ([(1, binder.text)] ++ [] ++ [] ++ [] ++ [])
    refine .seq (.seq (.seq (.seq (.freshName 1 fresh binder.filled binder.word ?_)
      (.many space ?_)) (.left (.text _))) (.text _)) (.many space ?_)
    · rintro c ⟨⟩
      decide
    · rintro c ⟨⟩
      decide
    · intro c first
      rw [groupCall, List.append_assoc] at first
      exact receiver.head_not_blank _ first
  have gap : wordAt (lastOr before (binder.text ++ " := ".toList)) = false := by
    rw [lastOr_append]
    rfl
  exact reads_groupPattern receiver literal (.left lead) gap

end Reading

section Calls

variable {before : Option Char} {front back rest : Text}

theorem Name.not_mem (name : Name) {c : Char} (other : isWord c = false) : c ∉ name.text :=
  not_mem_of_accepted name.word other

theorem Literal.paren_not_mem_quoted (literal : Literal) : '(' ∉ literal.quoted := by
  intro member
  simp only [quoted, List.mem_cons, List.mem_append, List.not_mem_nil, or_false] at member
  rcases member with same | inside | same
  · exact absurd same (by decide)
  · exact (literal.plain '(' inside).2.2.2.1 rfl
  · exact absurd same (by decide)

theorem Verb.tag_mem (verb : Verb) :
    verb.method.tag ∈ verbs ∧ verb.method.tag ≠ "Group".toList ∧ '.' ∉ verb.method.tag ∧
      '(' ∉ verb.method.tag := by
  cases verb <;> decide

theorem findAllFrom_routePattern_groupCall (receiver : Name) (literal : Literal) (free : '(' ∉ front) :
    routePattern.findAllFrom 0 before (front ++ groupCall receiver literal ++ rest) =
      routePattern.findAllFrom 0 (some '(') (literal.quoted ++ rest) := by
  have pieces : front ++ groupCall receiver literal ++ rest =
      (front ++ receiver.text ++ '.' :: "Group".toList) ++ '(' :: (literal.quoted ++ rest) := by
    simp [groupCall]
  rw [pieces]
  refine calls_routePattern.findAllFrom_pass ?_ ?_
  · simp [free, receiver.not_mem (show isWord '(' = false by decide)]
  · intro lead method same dotless
    obtain ⟨_, rfl⟩ := Text.append_cons_inj_last (by decide) dotless same
    decide

theorem findAllFrom_groupPattern_routeCall (verb : Verb) (literal : Literal) (handler : Handler)
    (free : '(' ∉ front) (ended : '(' ∉ rest) :
    groupPattern.findAllFrom 0 before (front ++ routeCall verb literal handler ++ rest) = [] := by
  obtain ⟨_, other, dotless, parenless⟩ := verb.tag_mem
  have pieces : front ++ routeCall verb literal handler ++ rest =
      (front ++ '.' :: verb.method.tag) ++
        '(' :: (literal.quoted ++ ", ".toList ++ handler.text ++ rest) := by
    simp [routeCall]
  rw [pieces, calls_groupPattern.findAllFrom_pass]
  · refine calls_groupPattern.findAllFrom_end ?_
    simp [literal.paren_not_mem_quoted, handler.not_mem (show isWord '(' = false by decide), ended]
  · simp [free, parenless]
  · intro lead method same clear
    obtain ⟨_, rfl⟩ := Text.append_cons_inj_last dotless clear same
    simpa using other

theorem findAllFrom_routePattern_quoted (literal own : Literal) (verb : Verb) (handler : Handler) :
    routePattern.findAllFrom 0 before
        (literal.quoted ++ ([')'] ++ routeCall verb own handler ++ rest)) =
      routePattern.findAllFrom 0 (lastOr before literal.quoted)
        ([')'] ++ routeCall verb own handler ++ rest) := by
  refine Pattern.findAllFrom_pass fun left c right same => ?_
  rw [List.eq_nil_iff_forall_not_mem]
  intro reading member
  obtain ⟨_, _, dotless, parenless⟩ := verb.tag_mem
  obtain ⟨word, method, more, found, listed, shape⟩ := of_mem_runs_routePattern member
  obtain ⟨clear, flat⟩ := calls_routePattern.methods method listed
  have pieces : (c :: right ++ ')' :: '.' :: verb.method.tag) ++
      '(' :: (own.quoted ++ ", ".toList ++ handler.text ++ rest) =
        (word ++ '.' :: method) ++ '(' :: more := by
    simpa [routeCall] using found
  have inner : '(' ∉ c :: right := by
    intro paren
    refine literal.paren_not_mem_quoted ?_
    rw [same]
    exact List.mem_append_right left paren
  have outer : '(' ∉ word := by
    rcases shape with rfl | ⟨_, inside, _⟩
    · decide
    · intro paren
      exact absurd (inside '(' paren) (by decide)
  -- up to the parenthesis both texts end with one call, and the parenthesis before it is no name
  obtain ⟨heads, _⟩ := Text.append_cons_inj (by simp_all) (by simp_all) pieces
  have split : (c :: right ++ [')']) ++ '.' :: verb.method.tag = word ++ '.' :: method := by
    simpa using heads
  obtain ⟨rfl, _⟩ := Text.append_cons_inj_last dotless flat split
  rcases shape with single | ⟨_, inside, _⟩
  · simp at single
  · exact absurd (inside ')' (by simp)) (by decide)

end Calls

end RouteAtlas.Echo
