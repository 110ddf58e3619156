import RouteAtlas.Proofs.Code.Place
import RouteAtlas.Proofs.Echo.Lines

namespace RouteAtlas.Echo

open Pattern

def Groups.joined (groups : Groups) (receiver : Name) (literal : Literal) : Text :=
  Route.base (Route.compose [groups.baseOf receiver.text, literal.text])

/-- The groups after the call of a statement. A chained group is not kept. -/
def Groups.after (groups : Groups) : Statement → Groups
  | .assign binder receiver literal => groups.bindName binder.text (groups.joined receiver literal)
  | .group receiver literal => groups.push (groups.joined receiver literal)
  | .route .. => groups
  | .chained .. => groups

def Groups.endpoint? (groups : Groups) (location : Location) (owner : Text) :
    Statement → Option Endpoint
  | .assign .. => none
  | .group .. => none
  | .route receiver verb literal handler =>
    some ⟨Route.compose [groups.baseOf receiver.text, literal.text], verb.method, location, owner,
      handler.text, some .echo⟩
  | .chained receiver literal verb own handler =>
    some ⟨Route.compose [groups.joined receiver literal, own.text], verb.method, location, owner,
      handler.text, some .echo⟩

section Plain

theorem of_mem_runs_structPattern {before : Option Char} {text : Text} {reading : Reading}
    (member : reading ∈ structPattern.runs ⟨before, text⟩) :
    ∃ rest, text.dropWhile isBlank = "type".toList ++ rest ∧ rest.takeWhile isBlank ≠ [] ∧
      wordAt (rest.dropWhile isBlank).head? := by
  simp only [structPattern, mem_runs_seq] at member
  obtain ⟨_, ⟨_, ⟨_, ⟨_, ⟨_, ⟨_, gap, _, keyword, rfl⟩, _, space, rfl⟩, _, named, _⟩, _⟩, _⟩, _⟩ :=
    member
  obtain rfl := mem_runs_many.mp gap
  obtain ⟨rest, spelled, rfl⟩ := mem_runs_text.mp keyword
  obtain ⟨filled, rfl⟩ := mem_runs_many1.mp space
  obtain ⟨_, inner, rfl⟩ := mem_runs_capture.mp named
  obtain ⟨word, _⟩ := mem_runs_many1.mp inner
  exact ⟨rest, spelled, filled, wordAt_of_takeWhile word⟩

theorem partAtStart?_structPattern {front word rest : Text} (blank : ∀ c ∈ front, isBlank c)
    (inside : ∀ c ∈ word, isWord c)
    (solid : ∀ c, (word ++ rest).head? = some c → isBlank c = false)
    (stops : ∀ c, rest.head? = some c → isWord c = false)
    (other : word = "type".toList → wordAt (rest.dropWhile isBlank).head? = false) :
    structPattern.partAtStart? 1 (front ++ (word ++ rest)) = none := by
  have nowhere : structPattern.runs ⟨none, front ++ (word ++ rest)⟩ = [] := by
    rw [List.eq_nil_iff_forall_not_mem]
    intro reading member
    obtain ⟨more, found, gap, named⟩ := of_mem_runs_structPattern member
    have stopsMore : ∀ c, more.head? = some c → isWord c = false := by
      intro c first
      cases more with
      | nil => cases first
      | cons d more =>
        cases first
        by_cases space : isBlank c
        · exact isWord_eq_false_of_isBlank space
        · simp [space] at gap
    have same : word ++ rest = "type".toList ++ more := by
      rw [← found, dropWhile_append_eq blank solid]
    have letters : ∀ c ∈ "type".toList, isWord c := List.all_eq_true.mp (by decide)
    have keyword : word = "type".toList := by
      have taken := congrArg (List.takeWhile isWord) same
      rwa [takeWhile_append_eq inside stops, takeWhile_append_eq letters stopsMore] at taken
    have dropped := congrArg (List.dropWhile isWord) same
    rw [dropWhile_append_eq inside stops, dropWhile_append_eq letters stopsMore] at dropped
    rw [dropped, named] at other
    exact absurd (other keyword) (by simp)
  simp [partAtStart?, atStart?, at?, nowhere]

theorem Statement.starts (statement : Statement) : ∃ name : Name, ∃ gap c rest,
    statement.text = name.text ++ (gap ++ c :: rest) ∧ (∀ d ∈ gap, isBlank d) ∧ (c = '.' ∨ c = ':') := by
  cases statement with
  | assign binder receiver literal =>
    refine ⟨binder, [' '], ':', "= ".toList ++ groupCall receiver literal ++ [')'], ?_,
      List.all_eq_true.mp (by decide), .inr rfl⟩
    simp [Statement.text]
  | group receiver literal =>
    refine ⟨receiver, [], '.', "Group".toList ++ '(' :: literal.quoted ++ [')'], ?_, by simp, .inl rfl⟩
    simp [Statement.text, groupCall]
  | route receiver verb literal handler =>
    refine ⟨receiver, [], '.', verb.method.tag ++
      '(' :: (literal.quoted ++ ", ".toList ++ handler.text) ++ [')'], ?_, by simp, .inl rfl⟩
    simp [Statement.text, routeCall]
  | chained receiver literal verb own handler =>
    refine ⟨receiver, [], '.', "Group".toList ++ '(' :: literal.quoted ++
      ')' :: (routeCall verb own handler ++ [')']), ?_, by simp, .inl rfl⟩
    simp [Statement.text, groupCall]

variable {line : Text}

/-- Code that leaves the owner of endpoints as it is. -/
structure Plain (line : Text) : Prop where
  code : isCommentOrBlank (Text.trim line) = false
  ownerless : structPattern.partAtStart? 1 line = none

theorem plain_of_trim {word rest : Text} {c : Char} (same : Text.trim line = word ++ c :: rest)
    (inside : ∀ d ∈ word, isWord d) (stop : isWord c = false) (mark : c ≠ '/' ∧ c ≠ '*' ∧ c ≠ '#')
    (other : word = "type".toList → ∀ back, wordAt ((c :: rest ++ back).dropWhile isBlank).head? = false) :
    Plain line := by
  refine ⟨?_, ?_⟩
  · rw [same]
    cases word with
    | nil => exact isCommentOrBlank_eq_false rfl mark
    | cons d word =>
      refine isCommentOrBlank_eq_false rfl ?_
      have letter := inside d (by simp)
      refine ⟨?_, ?_, ?_⟩ <;> rintro rfl <;> exact absurd letter (by decide)
  · have solid : ∀ d, (Text.trim line).head? = some d → isBlank d = false :=
      fun d => Text.not_blank_of_head?_trim
    rw [same] at solid
    obtain ⟨front, back, rfl, before, _⟩ := Text.exists_blanks_of_trim same
    rw [List.append_assoc]
    refine partAtStart?_structPattern before inside ?_ ?_ fun keyword => other keyword back
    · intro d first
      refine solid d ?_
      cases word with
      | nil => exact first
      | cons e word => exact first
    · rintro d ⟨⟩
      exact stop

theorem plain_statement {statement : Statement} (same : Text.trim line = statement.text) :
    Plain line := by
  obtain ⟨name, gap, c, rest, spelled, blank, sign⟩ := statement.starts
  have solid : isBlank c = false ∧ isWord c = false := by
    rcases sign with rfl | rfl <;> decide
  have next : ∀ back, wordAt (((gap ++ c :: rest) ++ back).dropWhile isBlank).head? = false := by
    intro back
    rw [List.append_assoc, List.dropWhile_append_of_pos blank, List.cons_append,
      List.dropWhile_cons_of_neg (by simp [solid])]
    simp [wordAt, solid]
  rw [spelled] at same
  cases gap with
  | nil =>
    refine plain_of_trim same name.word solid.2 ?_ fun _ => next
    rcases sign with rfl | rfl <;> decide
  | cons d gap =>
    have space := blank d (by simp)
    refine plain_of_trim same name.word (isWord_eq_false_of_isBlank space) ?_ fun _ => next
    refine ⟨?_, ?_, ?_⟩ <;> rintro rfl <;> exact absurd space (by decide)

theorem plain_opening {header : Option Name} (same : Text.trim line = opening header) :
    Plain line := by
  cases header with
  | none =>
    have spelled : Text.trim line = [] ++ '{' :: [] := same
    exact plain_of_trim spelled (by simp) (by decide) (by decide)
      fun keyword => absurd keyword (by decide)
  | some name =>
    have spelled : opening (some name) = "func".toList ++ ' ' :: (name.text ++ "() \x7b".toList) := by
      simp [opening_some]
    rw [spelled] at same
    exact plain_of_trim same (List.all_eq_true.mp (by decide)) (by decide) (by decide)
      fun keyword => absurd keyword (by decide)

theorem plain_closing (same : Text.trim line = closing) : Plain line := by
  have spelled : Text.trim line = [] ++ '}' :: [] := same
  exact plain_of_trim spelled (by simp) (by decide) (by decide)
    fun keyword => absurd keyword (by decide)

end Plain

section Braces

variable {front back : Text}

theorem Name.calm (name : Name) : Calm name.text :=
  .of_accepted name.word (by decide)

theorem Literal.calm_quoted (literal : Literal) : Calm literal.quoted :=
  .quoted (by decide) fun c member =>
    ⟨(literal.plain c member).1, (literal.plain c member).2.2.1⟩

theorem Verb.calm (verb : Verb) : Calm verb.method.tag := by
  refine .of_plain ?_
  cases verb <;> decide

theorem calm_groupCall (receiver : Name) (literal : Literal) : Calm (groupCall receiver literal) := by
  have pieces : groupCall receiver literal =
      receiver.text ++ ".Group(".toList ++ literal.quoted := by
    simp [groupCall]
  rw [pieces]
  exact (receiver.calm.append (.of_plain (by decide))).append literal.calm_quoted

theorem calm_routeCall (verb : Verb) (literal : Literal) (handler : Handler) :
    Calm (routeCall verb literal handler) := by
  have pieces : routeCall verb literal handler = ['.'] ++ verb.method.tag ++ ['('] ++
      literal.quoted ++ ", ".toList ++ handler.text := by
    simp [routeCall]
  rw [pieces]
  have plain : Calm ['.'] ∧ Calm ['('] ∧ Calm ", ".toList :=
    ⟨.of_plain (by decide), .of_plain (by decide), .of_plain (by decide)⟩
  exact ((((plain.1.append verb.calm).append plain.2.1).append literal.calm_quoted).append
    plain.2.2).append handler.calm

theorem Statement.calm (statement : Statement) : Calm statement.text := by
  have closed : Calm [')'] := .of_plain (by decide)
  cases statement with
  | assign binder receiver literal =>
    exact ((binder.calm.append (.of_plain (by decide))).append
      (calm_groupCall receiver literal)).append closed
  | group receiver literal => exact (calm_groupCall receiver literal).append closed
  | route receiver verb literal handler =>
    exact (receiver.calm.append (calm_routeCall verb literal handler)).append closed
  | chained receiver literal verb own handler =>
    exact (calm_groupCall receiver literal).append
      (closed.append ((calm_routeCall verb own handler).append closed))

variable {line : Text}

theorem braceBalance_statement {statement : Statement} (same : Text.trim line = statement.text) :
    braceBalance line = 0 := by
  obtain ⟨front, back, rfl, before, after⟩ := Text.exists_blanks_of_trim same
  exact ((Calm.of_blank before).append
    (statement.calm.append (Calm.of_blank after))).braceBalance_eq

theorem braceBalance_opening {header : Option Name} (same : Text.trim line = opening header) :
    braceBalance line = 1 := by
  obtain ⟨front, back, rfl, before, after⟩ := Text.exists_blanks_of_trim same
  cases header with
  | none =>
    exact (Calm.of_blank before).braceBalance_single (Calm.of_blank after) (.inl rfl)
  | some name =>
    have pieces : front ++ (opening (some name) ++ back) =
        (front ++ ("func ".toList ++ name.text ++ "() ".toList)) ++ '{' :: back := by
      simp [opening_some]
    have header : Calm ("func ".toList ++ name.text ++ "() ".toList) :=
      ((Calm.of_plain (by decide)).append name.calm).append (.of_plain (by decide))
    rw [pieces]
    exact ((Calm.of_blank before).append header).braceBalance_single (Calm.of_blank after) (.inl rfl)

theorem braceBalance_closing (same : Text.trim line = closing) : braceBalance line = -1 := by
  obtain ⟨front, back, rfl, before, after⟩ := Text.exists_blanks_of_trim same
  exact (Calm.of_blank before).braceBalance_single (Calm.of_blank after) (.inr rfl)

end Braces

section Read

variable {file : Path} {state : State} {place : Place}

theorem Plain.readLine_eq (plain : Plain place.line) {routes : List Found} {groups : Groups}
    {inline : Option Text} (found : routePattern.findAll place.line = routes)
    (grouped : readGroups (routes.any fun route => (route.part? 1).isNone) state.groups
      (groupPattern.findAll place.line) = (groups, inline)) :
    readLine file state place = ⟨groups.advance place.line, state.owner, state.endpoints ++
      routes.filterMap (routeEndpoint? file place.number state.owner groups inline)⟩ := by
  simp [readLine, plain.code, plain.ownerless, found, grouped]

theorem Plain.readLine_of_findAll_nil (plain : Plain place.line)
    (routes : routePattern.findAll place.line = [])
    (groups : groupPattern.findAll place.line = []) :
    readLine file state place =
      ⟨state.groups.advance place.line, state.owner, state.endpoints⟩ := by
  have grouped : readGroups false state.groups (groupPattern.findAll place.line) =
      (state.groups, none) := by
    rw [groups]
    rfl
  simpa using plain.readLine_eq routes grouped

theorem Calls.findAll_opening {pattern : Pattern} {methods : List Text}
    (calls : Calls pattern methods) {line : Text} {header : Option Name}
    (same : Text.trim line = opening header) : pattern.findAll line = [] := by
  obtain ⟨front, back, rfl, before, after⟩ := Text.exists_blanks_of_trim same
  have parenFront : '(' ∉ front := not_mem_of_accepted before (by decide)
  have parenBack : '(' ∉ back := not_mem_of_accepted after (by decide)
  cases header with
  | none => exact calls.findAllFrom_end (by simp [opening_none, parenFront, parenBack])
  | some name =>
    have pieces : front ++ (opening (some name) ++ back) =
        (front ++ ("func ".toList ++ name.text)) ++ '(' :: (") \x7b".toList ++ back) := by
      simp [opening_some]
    have paren : '(' ∉ name.text := name.not_mem (by decide)
    have dot : '.' ∉ front ++ ("func ".toList ++ name.text) := by
      have dotFront : '.' ∉ front := not_mem_of_accepted before (by decide)
      have dotName : '.' ∉ name.text := name.not_mem (by decide)
      simp [dotFront, dotName]
    rw [findAll, pieces, calls.findAllFrom_pass]
    · exact calls.findAllFrom_end (by simp [parenBack])
    · simp [parenFront, paren]
    · intro lead method spelled
      rw [spelled] at dot
      simp at dot

theorem Calls.findAll_closing {pattern : Pattern} {methods : List Text}
    (calls : Calls pattern methods) {line : Text} (same : Text.trim line = closing) :
    pattern.findAll line = [] := by
  obtain ⟨front, back, rfl, before, after⟩ := Text.exists_blanks_of_trim same
  have parenFront : '(' ∉ front := not_mem_of_accepted before (by decide)
  have parenBack : '(' ∉ back := not_mem_of_accepted after (by decide)
  exact calls.findAllFrom_end (by simp [closing, parenFront, parenBack])

theorem readLine_opening {header : Option Name} (same : Text.trim place.line = opening header) :
    readLine file state place = ⟨state.groups.advance place.line, state.owner, state.endpoints⟩ :=
  (plain_opening same).readLine_of_findAll_nil (calls_routePattern.findAll_opening same)
    (calls_groupPattern.findAll_opening same)

theorem readLine_closing (same : Text.trim place.line = closing) :
    readLine file state place = ⟨state.groups.advance place.line, state.owner, state.endpoints⟩ :=
  (plain_closing same).readLine_of_findAll_nil (calls_routePattern.findAll_closing same)
    (calls_groupPattern.findAll_closing same)

theorem findAll_routePattern_groupCall {front back : Text} (receiver : Name) (literal : Literal)
    (free : '(' ∉ front) (ended : '(' ∉ back) :
    routePattern.findAll (front ++ groupCall receiver literal ++ ')' :: back) = [] := by
  rw [findAll, findAllFrom_routePattern_groupCall receiver literal free]
  exact calls_routePattern.findAllFrom_end (by simp [literal.paren_not_mem_quoted, ended])

theorem readLine_assign {binder receiver : Name} {literal : Literal}
    (same : Text.trim place.line = (Statement.assign binder receiver literal).text) :
    readLine file state place = ⟨(state.groups.bindName binder.text
      (state.groups.joined receiver literal)).advance place.line, state.owner, state.endpoints⟩ := by
  have plain := plain_statement same
  obtain ⟨front, back, spelled, before, after⟩ := Text.exists_blanks_of_trim same
  have parenFront : '(' ∉ front := not_mem_of_accepted before (by decide)
  have parenBack : '(' ∉ back := not_mem_of_accepted after (by decide)
  have parenBinder : '(' ∉ binder.text := binder.not_mem (by decide)
  have routes : routePattern.findAll place.line = [] := by
    have pieces : place.line = (front ++ (binder.text ++ " := ".toList)) ++
        groupCall receiver literal ++ ')' :: back := by
      simp [spelled, Statement.text]
    rw [pieces]
    exact findAll_routePattern_groupCall receiver literal (by simp [parenFront, parenBinder])
      parenBack
  have groups : ∃ found, groupPattern.findAll place.line = [found] ∧ ∀ slot, found.part? slot =
      [(1, binder.text), (2, receiver.text), (3, literal.text)].lookup slot := by
    have pieces : place.line = front ++
        ((binder.text ++ " := ".toList ++ groupCall receiver literal) ++ ')' :: back) := by
      simp [spelled, Statement.text]
    rw [pieces]
    exact calls_groupPattern.findAll_single before (by simp [groupCall])
      (reads_groupPattern_assigned binder receiver literal (wordAt_lastOr_blank before))
      fun _ => calls_groupPattern.findAllFrom_end (by simp [parenBack])
  obtain ⟨found, single, noted⟩ := groups
  have grouped : readGroups false state.groups (groupPattern.findAll place.line) =
      (state.groups.bindName binder.text (state.groups.joined receiver literal),
        some (state.groups.joined receiver literal)) := by
    rw [single]
    simp [readGroups, readGroup, noted, List.lookup_cons, Groups.joined]
  simpa using plain.readLine_eq routes grouped

theorem readLine_group {receiver : Name} {literal : Literal}
    (same : Text.trim place.line = (Statement.group receiver literal).text) :
    readLine file state place = ⟨(state.groups.push
      (state.groups.joined receiver literal)).advance place.line, state.owner, state.endpoints⟩ := by
  have plain := plain_statement same
  obtain ⟨front, back, spelled, before, after⟩ := Text.exists_blanks_of_trim same
  have parenFront : '(' ∉ front := not_mem_of_accepted before (by decide)
  have parenBack : '(' ∉ back := not_mem_of_accepted after (by decide)
  have routes : routePattern.findAll place.line = [] := by
    have pieces : place.line = front ++ groupCall receiver literal ++ ')' :: back := by
      simp [spelled, Statement.text]
    rw [pieces]
    exact findAll_routePattern_groupCall receiver literal parenFront parenBack
  have groups : ∃ found, groupPattern.findAll place.line = [found] ∧ ∀ slot, found.part? slot =
      [(2, receiver.text), (3, literal.text)].lookup slot := by
    have pieces : place.line = front ++ (groupCall receiver literal ++ ')' :: back) := by
      simp [spelled, Statement.text]
    rw [pieces]
    exact calls_groupPattern.findAll_single before (by simp [groupCall])
      (reads_groupPattern_alone receiver literal (wordAt_lastOr_blank before))
      fun _ => calls_groupPattern.findAllFrom_end (by simp [parenBack])
  obtain ⟨found, single, noted⟩ := groups
  have grouped : readGroups false state.groups (groupPattern.findAll place.line) =
      (state.groups.push (state.groups.joined receiver literal),
        some (state.groups.joined receiver literal)) := by
    rw [single]
    simp [readGroups, readGroup, noted, List.lookup_cons, Groups.joined]
  simpa using plain.readLine_eq routes grouped

theorem Verb.ofToken_tag (verb : Verb) : Method.ofToken verb.method.tag = verb.method := by
  cases verb <;> decide

theorem routeEndpoint?_eq (file : Path) (line : Nat) (owner : Text) {groups : Groups}
    {inline : Option Text} {base : Text} {found : Found} {verb : Verb} {literal : Literal}
    {handler : Handler}
    (method : found.part? 2 = some verb.method.tag) (own : found.part? 3 = some literal.text)
    (serves : found.part? 4 = some handler.text)
    (lead : (found.part? 1).elim (inline.getD groups.activeBase) groups.baseOf = base) :
    routeEndpoint? file line owner groups inline found =
      some ⟨Route.compose [base, literal.text], verb.method, ⟨file, line⟩, owner, handler.text,
        some .echo⟩ := by
  have kept : (some handler.text).filter (· != "func".toList) = some handler.text := by
    rw [Option.filter_some, if_pos]
    exact bne_iff_ne.mpr handler.named
  subst lead
  cases receiver : found.part? 1 <;>
    simp only [routeEndpoint?, method, own, serves, receiver, verb.ofToken_tag, kept,
      Option.getD_some, Option.elim_none, Option.elim_some]

theorem readLine_route {receiver : Name} {verb : Verb} {literal : Literal} {handler : Handler}
    (same : Text.trim place.line = (Statement.route receiver verb literal handler).text) :
    readLine file state place = ⟨state.groups.advance place.line, state.owner,
      state.endpoints ++ [⟨Route.compose [state.groups.baseOf receiver.text, literal.text],
        verb.method, ⟨file, place.number⟩, state.owner, handler.text, some .echo⟩]⟩ := by
  have plain := plain_statement same
  obtain ⟨front, back, spelled, before, after⟩ := Text.exists_blanks_of_trim same
  have parenFront : '(' ∉ front := not_mem_of_accepted before (by decide)
  have parenBack : '(' ∉ back := not_mem_of_accepted after (by decide)
  have parenReceiver : '(' ∉ receiver.text := receiver.not_mem (by decide)
  have routes : ∃ found, routePattern.findAll place.line = [found] ∧ ∀ slot, found.part? slot =
      [(1, receiver.text), (2, verb.method.tag), (3, literal.text),
        (4, handler.text)].lookup slot := by
    have pieces : place.line = front ++
        ((receiver.text ++ routeCall verb literal handler) ++ ')' :: back) := by
      simp [spelled, Statement.text]
    rw [pieces]
    exact calls_routePattern.findAll_single before (by simp [routeCall])
      (reads_routePattern_receiver receiver verb literal handler (wordAt_lastOr_blank before))
      fun _ => calls_routePattern.findAllFrom_end (by simp [parenBack])
  have groups : groupPattern.findAll place.line = [] := by
    have pieces : place.line = (front ++ receiver.text) ++ routeCall verb literal handler ++
        ')' :: back := by
      simp [spelled, Statement.text]
    rw [pieces]
    exact findAllFrom_groupPattern_routeCall verb literal handler
      (by simp [parenFront, parenReceiver]) (by simp [parenBack])
  obtain ⟨found, single, noted⟩ := routes
  have grouped : readGroups ([found].any fun route => (route.part? 1).isNone) state.groups
      (groupPattern.findAll place.line) = (state.groups, none) := by
    rw [groups]
    rfl
  have lead : (found.part? 1).elim ((none : Option Text).getD state.groups.activeBase)
      state.groups.baseOf = state.groups.baseOf receiver.text := by
    rw [noted 1]
    rfl
  have declared := routeEndpoint?_eq file place.number state.owner (noted 2) (noted 3) (noted 4) lead
  rw [plain.readLine_eq single grouped, List.filterMap_cons_some declared, List.filterMap_nil]

theorem findAll_routePattern_chained {front back : Text} (receiver : Name) (literal own : Literal)
    (verb : Verb) (handler : Handler) (free : '(' ∉ front) (ended : '(' ∉ back) :
    ∃ found, routePattern.findAll (front ++ groupCall receiver literal ++
        ([')'] ++ routeCall verb own handler ++ ')' :: back)) = [found] ∧
      ∀ slot, found.part? slot =
        [(2, verb.method.tag), (3, own.text), (4, handler.text)].lookup slot := by
  obtain ⟨found, here, noted⟩ :=
    (reads_routePattern_chained verb own handler).findAllFrom (by simp)
  refine ⟨found, ?_, noted⟩
  rw [findAll, findAllFrom_routePattern_groupCall receiver literal free,
    findAllFrom_routePattern_quoted, here, calls_routePattern.findAllFrom_end]
  simp [ended]

theorem readLine_chained {receiver : Name} {literal own : Literal} {verb : Verb} {handler : Handler}
    (same : Text.trim place.line = (Statement.chained receiver literal verb own handler).text) :
    readLine file state place = ⟨state.groups.advance place.line, state.owner,
      state.endpoints ++ [⟨Route.compose [state.groups.joined receiver literal, own.text],
        verb.method, ⟨file, place.number⟩, state.owner, handler.text, some .echo⟩]⟩ := by
  have plain := plain_statement same
  obtain ⟨front, back, spelled, before, after⟩ := Text.exists_blanks_of_trim same
  have parenFront : '(' ∉ front := not_mem_of_accepted before (by decide)
  have parenBack : '(' ∉ back := not_mem_of_accepted after (by decide)
  have routes : ∃ found, routePattern.findAll place.line = [found] ∧ ∀ slot, found.part? slot =
      [(2, verb.method.tag), (3, own.text), (4, handler.text)].lookup slot := by
    have pieces : place.line = front ++ groupCall receiver literal ++
        ([')'] ++ routeCall verb own handler ++ ')' :: back) := by
      simp [spelled, Statement.text]
    rw [pieces]
    exact findAll_routePattern_chained receiver literal own verb handler parenFront parenBack
  have groups : ∃ found, groupPattern.findAll place.line = [found] ∧ ∀ slot, found.part? slot =
      [(2, receiver.text), (3, literal.text)].lookup slot := by
    have pieces : place.line = front ++ (groupCall receiver literal ++
        ([')'] ++ routeCall verb own handler ++ ')' :: back)) := by
      simp [spelled, Statement.text]
    rw [pieces]
    exact calls_groupPattern.findAll_single before (by simp [groupCall])
      (reads_groupPattern_alone receiver literal (wordAt_lastOr_blank before))
      fun _ => findAllFrom_groupPattern_routeCall verb own handler (by decide) (by simp [parenBack])
  obtain ⟨route, singleRoute, notedRoute⟩ := routes
  obtain ⟨group, singleGroup, notedGroup⟩ := groups
  have grouped : readGroups ([route].any fun route => (route.part? 1).isNone) state.groups
      (groupPattern.findAll place.line) =
        (state.groups, some (state.groups.joined receiver literal)) := by
    rw [singleGroup]
    simp [readGroups, readGroup, notedGroup, notedRoute, List.lookup_cons, Groups.joined]
  have lead : (route.part? 1).elim
      ((some (state.groups.joined receiver literal)).getD state.groups.activeBase)
      state.groups.baseOf = state.groups.joined receiver literal := by
    rw [notedRoute 1]
    rfl
  have declared := routeEndpoint?_eq file place.number state.owner (notedRoute 2) (notedRoute 3)
    (notedRoute 4) lead
  rw [plain.readLine_eq singleRoute grouped, List.filterMap_cons_some declared, List.filterMap_nil]

/-- What a statement says is what reading its line does. -/
theorem readLine_statement {statement : Statement}
    (same : Text.trim place.line = statement.text) :
    readLine file state place = ⟨(state.groups.after statement).advance place.line, state.owner,
      state.endpoints ++
        (state.groups.endpoint? ⟨file, place.number⟩ state.owner statement).toList⟩ := by
  cases statement with
  | assign binder receiver literal =>
    simpa [Groups.endpoint?, Groups.after] using readLine_assign same
  | group receiver literal => simpa [Groups.endpoint?, Groups.after] using readLine_group same
  | route receiver verb literal handler => exact readLine_route same
  | chained receiver literal verb own handler => exact readLine_chained same

end Read

end RouteAtlas.Echo
