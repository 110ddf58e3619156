import RouteAtlas.Proofs.Code.ArgumentList
import RouteAtlas.Proofs.Text.Pattern
import RouteAtlas.Proofs.Text.Pieces

namespace RouteAtlas

namespace Text

/-- The byte column at which `rest` starts on a line. -/
def StartsAt (line : Text) (column : Nat) (rest : Text) : Prop :=
  ∃ front, line = front ++ rest ∧ byteSize front = column

variable {line rest : Text} {column : Nat} {c : Char}

theorem byteSize_append (left right : Text) :
    byteSize (left ++ right) = byteSize left + byteSize right := by
  induction left with
  | nil => simp [byteSize]
  | cons c left ih => rw [List.cons_append, byteSize, byteSize, ih, Nat.add_assoc]

theorem byteSize_close_sub (front rest : Text) :
    byteSize (front ++ ')' :: rest) - byteSize rest = byteSize front + 1 := by
  rw [byteSize_append, byteSize, show ')'.utf8Size = 1 from rfl]
  omega

theorem byteSize_eq_zero_iff : byteSize line = 0 ↔ line = [] := by
  cases line with
  | nil => simp [byteSize]
  | cons c line =>
    have filled := Char.utf8Size_pos c
    simp only [byteSize, reduceCtorEq, iff_false]
    omega

theorem startsAt_zero_iff : StartsAt line 0 rest ↔ line = rest := by
  simp [StartsAt, byteSize_eq_zero_iff]

theorem startsAt_cons_iff (inside : 0 < column) :
    StartsAt (c :: line) column rest ↔
      c.utf8Size ≤ column ∧ StartsAt line (column - c.utf8Size) rest := by
  constructor
  · intro starts
    obtain ⟨front, same, size⟩ := starts
    cases front with
    | nil => simp [byteSize, ← size] at inside
    | cons d front =>
      obtain ⟨rfl, rfl⟩ := List.cons.inj same
      rw [byteSize] at size
      exact ⟨by omega, front, rfl, by omega⟩
  · intro starts
    obtain ⟨fits, front, rfl, size⟩ := starts
    exact ⟨c :: front, rfl, by rw [byteSize, size]; omega⟩

theorem dropBytes?_eq_some_iff : dropBytes? column line = some rest ↔ StartsAt line column rest := by
  fun_induction dropBytes? column line with
  | case1 line => rw [startsAt_zero_iff, Option.some.injEq]
  | case2 column => simp [StartsAt, byteSize]
  | case3 column c line fits ih =>
    rw [ih, startsAt_cons_iff (Nat.succ_pos column)]
    simp [fits]
  | case4 column c line short =>
    rw [startsAt_cons_iff (Nat.succ_pos column)]
    simp [short]

end Text

/-- The characters outside literals, from within a literal with this quote or from outside. -/
def unquoted : Option Char → Text → Text
  | _, [] => []
  | none, c :: rest =>
    if c = '"' ∨ c = '\'' then unquoted (some c) rest else c :: unquoted none rest
  | some _, ['\\'] => []
  | some quote, '\\' :: _ :: rest => unquoted (some quote) rest
  | some quote, c :: rest =>
    if c = quote then unquoted none rest else unquoted (some quote) rest

/-- How many more parentheses a text opens than it closes. -/
def nesting (text : Text) : Int :=
  (unquoted none text).count '(' - (unquoted none text).count ')'

def ClosesAtEnd (text : Text) : Prop :=
  nesting text = 0 ∧ ∀ n < text.length, 0 < n → 0 < nesting (text.take n)

instance (text : Text) : Decidable (ClosesAtEnd text) := inferInstanceAs (Decidable (_ ∧ _))

namespace CallState

variable {state : CallState} {c : Char} {text front : Text}

def after (state : CallState) (text : Text) : CallState := text.foldl step state

/-- Only in a literal a backslash takes away the next character. -/
def Sound (state : CallState) : Prop := state.quote = none → state.escaped = false

theorem sound_opened : opened.Sound := fun _ => rfl

theorem Sound.step (sound : state.Sound) (c : Char) : (state.step c).Sound := by
  obtain ⟨depth, quote, escaped⟩ := state
  cases quote with
  | none =>
    obtain rfl : escaped = false := sound rfl
    by_cases quotes : c = '"' ∨ c = '\''
    · simp [CallState.step, quotes, Sound]
    · by_cases opens : c = '('
      · simp [CallState.step, opens, Sound]
      · by_cases closes : c = ')' <;> simp [CallState.step, quotes, opens, closes, Sound]
  | some quote =>
    by_cases taken : escaped
    · simp [CallState.step, taken, Sound]
    · by_cases slash : c = '\\'
      · simp [CallState.step, taken, slash, Sound]
      · by_cases ends : c = quote
        · subst ends
          simp [CallState.step, taken, slash, Sound]
        · simp [CallState.step, taken, slash, ends, Sound]

def code (state : CallState) (text : Text) : Text :=
  unquoted state.quote (if state.escaped then text.tail else text)

def shown (state : CallState) (c : Char) : Text :=
  if state.quote.isSome ∨ c = '"' ∨ c = '\'' then [] else [c]

theorem code_cons (sound : state.Sound) (c : Char) (text : Text) :
    state.code (c :: text) = state.shown c ++ (state.step c).code text := by
  obtain ⟨depth, quote, escaped⟩ := state
  cases quote with
  | none =>
    obtain rfl : escaped = false := sound rfl
    by_cases quotes : c = '"' ∨ c = '\''
    · simp [code, shown, unquoted, CallState.step, quotes]
    · by_cases opens : c = '('
      · simp [code, shown, unquoted, CallState.step, opens]
      · by_cases closes : c = ')' <;>
          simp [code, shown, unquoted, CallState.step, quotes, opens, closes]
  | some quote =>
    by_cases taken : escaped
    · simp [code, shown, CallState.step, taken]
    · by_cases slash : c = '\\'
      · subst slash
        cases text <;> simp [code, shown, unquoted, CallState.step, taken]
      · by_cases ends : c = quote
        · subst ends
          simp [code, shown, unquoted, CallState.step, taken, slash]
        · simp [code, shown, unquoted, CallState.step, taken, slash, ends]

theorem depth_step (positive : 0 < state.depth) (c : Char) :
    ((state.step c).depth : Int) =
      state.depth + (state.shown c).count '(' - (state.shown c).count ')' := by
  obtain ⟨depth, quote, escaped⟩ := state
  cases quote with
  | none =>
    by_cases quotes : c = '"' ∨ c = '\''
    · simp [shown, CallState.step, quotes]
    · by_cases opens : c = '('
      · subst opens
        simp [shown, CallState.step]
      · by_cases closes : c = ')'
        · subst closes
          have counted : 0 < depth := positive
          simp [shown, CallState.step]
          omega
        · simp [shown, CallState.step, quotes, opens, closes]
  | some quote =>
    have kept : (CallState.step ⟨depth, some quote, escaped⟩ c).depth = depth := by
      simp only [CallState.step]
      split
      · rfl
      split
      · rfl
      split <;> rfl
    simp [shown, kept]

theorem isClosedBy_iff (positive : 0 < state.depth) :
    state.isClosedBy c ↔ c = ')' ∧ (state.step c).depth = 0 := by
  obtain ⟨depth, quote, escaped⟩ := state
  have filled : depth ≠ 0 := Nat.ne_of_gt positive
  cases quote with
  | none =>
    by_cases closes : c = ')'
    · subst closes
      simp [isClosedBy, step]
      omega
    · simp [isClosedBy, closes]
  | some quote =>
    have kept := @depth_step ⟨depth, some quote, escaped⟩ positive c
    simp only [shown, Option.isSome_some, true_or, if_true, List.count_nil] at kept
    simp only [isClosedBy, Option.isNone_some, Bool.false_and, Bool.false_eq_true, false_iff]
    omega

theorem depth_step_pos (positive : 0 < state.depth) (goes : state.isClosedBy c = false) :
    0 < (state.step c).depth := by
  by_cases closes : c = ')'
  · apply Nat.pos_of_ne_zero
    intro last
    have closed := (isClosedBy_iff positive).mpr ⟨closes, last⟩
    rw [goes] at closed
    cases closed
  · have here := depth_step positive c
    have kept : (state.shown c).count ')' = 0 := by
      unfold shown
      split <;> simp [closes]
    omega

def StaysOpen (state : CallState) (text : Text) : Prop :=
  ∀ front, front <+: text → 0 < (state.after front).depth

theorem staysOpen_nil : state.StaysOpen [] ↔ 0 < state.depth := by
  simp [StaysOpen, after]

theorem staysOpen_cons :
    state.StaysOpen (c :: text) ↔ 0 < state.depth ∧ (state.step c).StaysOpen text := by
  constructor
  · intro stays
    refine ⟨stays [] List.nil_prefix, ?_⟩
    intro front start
    exact stays (c :: front) ((List.prefix_cons_inj c).mpr start)
  · intro stays front start
    rcases List.prefix_cons_iff.mp start with rfl | ⟨rest, rfl, more⟩
    · exact stays.1
    · exact stays.2 rest more

theorem depth_after (sound : state.Sound) (stays : ∀ front, front <+: text → front ≠ text →
    0 < (state.after front).depth) :
    ((state.after text).depth : Int) =
      state.depth + (state.code text).count '(' - (state.code text).count ')' := by
  induction text generalizing state with
  | nil =>
    have nothing : state.code [] = [] := by
      unfold code
      split <;> simp [unquoted]
    simp [nothing, after]
  | cons c text ih =>
    have positive : 0 < state.depth := stays [] List.nil_prefix (by simp)
    have later := ih (sound.step c) fun front start differ =>
      stays (c :: front) ((List.prefix_cons_inj c).mpr start) (by simpa using differ)
    have here := depth_step positive c
    rw [code_cons sound]
    rw [List.count_append, List.count_append]
    change (((state.step c).after text).depth : Int) = _
    omega

theorem scanLine_eq_error_iff (positive : 0 < state.depth) {last : CallState} :
    state.scanLine text = .error last ↔ state.StaysOpen text ∧ state.after text = last := by
  induction text generalizing state with
  | nil => simp [scanLine, staysOpen_nil, positive, after]
  | cons c text ih =>
    rw [scanLine, staysOpen_cons]
    cases goes : state.isClosedBy c with
    | true =>
      have closed := ((isClosedBy_iff positive).mp goes).2
      have ended : ¬ (state.step c).StaysOpen text := by
        intro stays
        have still := stays [] List.nil_prefix
        exact Nat.lt_irrefl 0 (closed ▸ still)
      simp [ended]
    | false =>
      rw [if_neg (by simp), ih (depth_step_pos positive goes)]
      simp [positive, after]

theorem scanLine_eq_ok_iff (positive : 0 < state.depth) {rest : Text} :
    state.scanLine text = .ok rest ↔ ∃ front, text = front ++ ')' :: rest ∧
      state.StaysOpen front ∧ (state.after (front ++ [')'])).depth = 0 := by
  induction text generalizing state with
  | nil => simp [scanLine]
  | cons c text ih =>
    rw [scanLine]
    cases goes : state.isClosedBy c with
    | true =>
      obtain ⟨rfl, closed⟩ := (isClosedBy_iff positive).mp goes
      rw [if_pos rfl, Except.ok.injEq]
      constructor
      · rintro rfl
        exact ⟨[], rfl, staysOpen_nil.mpr positive, closed⟩
      · rintro ⟨front, same, stays, _⟩
        cases front with
        | nil => exact (List.cons.inj same).2
        | cons d front =>
          obtain ⟨rfl, _⟩ := List.cons.inj same
          have still := (staysOpen_cons.mp stays).2 [] List.nil_prefix
          exact absurd closed (Nat.ne_of_gt still)
    | false =>
      rw [if_neg (by simp), ih (depth_step_pos positive goes)]
      constructor
      · rintro ⟨front, rfl, stays, last⟩
        exact ⟨c :: front, rfl, staysOpen_cons.mpr ⟨positive, stays⟩, last⟩
      · rintro ⟨front, same, stays, last⟩
        cases front with
        | nil =>
          obtain ⟨rfl, _⟩ := List.cons.inj same
          have closed := (isClosedBy_iff positive).mpr ⟨rfl, last⟩
          rw [goes] at closed
          cases closed
        | cons d front =>
          obtain ⟨rfl, rfl⟩ := List.cons.inj same
          exact ⟨front, rfl, (staysOpen_cons.mp stays).2, last⟩

theorem staysOpen_append {front back : Text} :
    state.StaysOpen (front ++ back) ↔ state.StaysOpen front ∧ (state.after front).StaysOpen back := by
  induction front generalizing state with
  | nil =>
    rw [List.nil_append, staysOpen_nil]
    constructor
    · intro stays
      exact ⟨stays [] List.nil_prefix, stays⟩
    · exact fun both => both.2
  | cons c front ih =>
    rw [List.cons_append, staysOpen_cons, staysOpen_cons, ih, and_assoc]
    rfl

theorem after_append (state : CallState) (front back : Text) :
    state.after (front ++ back) = (state.after front).after back := List.foldl_append

end CallState

namespace Call

variable {state : CallState} {line : Text} {below : List Text} {call : Call}

theorem textBefore_append (front rest : Text) : textBefore (front ++ ')' :: rest) rest = front := by
  have length : (front ++ ')' :: rest).length - rest.length - 1 = front.length := by
    simp
    omega
  rw [textBefore, length, List.take_left]

/-- A call ends on the line behind the whole ones, after the text `last` and a parenthesis. -/
structure EndsBehind (state : CallState) (lines : List Text) (call : Call) (whole : List Text)
    (last : Text) : Prop where
  place : ∃ below, lines = whole ++ (last ++ ')' :: call.rest) :: below
  stays : state.StaysOpen (whole.flatten ++ last)
  closes : (state.after (whole.flatten ++ last ++ [')'])).depth = 0
  text : call.text = Text.join ['\n'] (whole ++ [last])
  span : call.span = whole.length

theorem endsBehind_nil_iff (positive : 0 < state.depth) {last : Text} :
    EndsBehind state (line :: below) call [] last ↔
      state.scanLine line = .ok call.rest ∧ call = ⟨textBefore line call.rest, 0, call.rest⟩ ∧
        last = textBefore line call.rest := by
  rw [CallState.scanLine_eq_ok_iff positive]
  constructor
  · intro ends
    obtain ⟨⟨more, place⟩, stays, closes, text, span⟩ := ends
    obtain ⟨rfl, _⟩ := List.cons.inj place
    rw [textBefore_append]
    obtain ⟨content, lines, rest⟩ := call
    cases text
    cases span
    exact ⟨⟨last, rfl, stays, closes⟩, rfl, rfl⟩
  · intro ends
    obtain ⟨⟨front, same, stays, closes⟩, shape, rfl⟩ := ends
    rw [same, textBefore_append] at shape ⊢
    exact ⟨⟨below, rfl⟩, stays, closes, congrArg Call.text shape, congrArg Call.span shape⟩

theorem endsBehind_cons_iff {whole : List Text} {last head : Text} :
    EndsBehind state (line :: below) call (head :: whole) last ↔
      head = line ∧ state.StaysOpen line ∧ ∃ inner,
        EndsBehind (state.after line) below inner whole last ∧
        call = ⟨line ++ '\n' :: inner.text, inner.span + 1, inner.rest⟩ := by
  constructor
  · intro ends
    obtain ⟨⟨more, place⟩, stays, closes, text, span⟩ := ends
    rw [List.cons_append] at place text
    obtain ⟨rfl, rfl⟩ := List.cons.inj place
    rw [List.flatten_cons, List.append_assoc, CallState.staysOpen_append] at stays
    rw [List.flatten_cons, List.append_assoc, List.append_assoc, CallState.after_append,
      ← List.append_assoc] at closes
    rw [Text.join_cons (by simp)] at text
    refine ⟨rfl, stays.1, ⟨_, whole.length, call.rest⟩, ⟨⟨more, rfl⟩, stays.2, closes, rfl, rfl⟩, ?_⟩
    rw [← List.length_cons, ← span, ← text]
  · intro ends
    obtain ⟨rfl, first, inner, ⟨⟨more, rfl⟩, stays, closes, text, span⟩, rfl⟩ := ends
    constructor
    · exact ⟨more, rfl⟩
    · rw [List.flatten_cons, List.append_assoc, CallState.staysOpen_append]
      exact ⟨first, stays⟩
    · rw [List.flatten_cons, List.append_assoc, List.append_assoc, CallState.after_append,
        ← List.append_assoc]
      exact closes
    · rw [List.cons_append, Text.join_cons (by simp), text]
    · rw [List.length_cons, span]

theorem exists_endsBehind_of_ok {rest : Text} (positive : 0 < state.depth)
    (closed : state.scanLine line = .ok rest) :
    (∃ whole last, EndsBehind state (line :: below) call whole last) ↔
      ⟨textBefore line rest, 0, rest⟩ = call := by
  constructor
  · intro ends
    obtain ⟨whole, last, ends⟩ := ends
    cases whole with
    | nil =>
      obtain ⟨also, shape, _⟩ := (endsBehind_nil_iff positive).mp ends
      obtain rfl : rest = call.rest := Except.ok.inj (closed.symm.trans also)
      exact shape.symm
    | cons head whole =>
      -- an open line and one that closes the call exclude each other
      have goes := (CallState.scanLine_eq_error_iff positive).mpr
        ⟨(endsBehind_cons_iff.mp ends).2.1, rfl⟩
      rw [goes] at closed
      cases closed
  · rintro rfl
    exact ⟨[], _, (endsBehind_nil_iff positive).mpr ⟨closed, rfl, rfl⟩⟩

theorem exists_endsBehind_of_error {next : CallState} (positive : 0 < state.depth)
    (goes : state.scanLine line = .error next) :
    (∃ whole last, EndsBehind state (line :: below) call whole last) ↔
      ∃ inner, (∃ whole last, EndsBehind next below inner whole last) ∧
        ⟨line ++ '\n' :: inner.text, inner.span + 1, inner.rest⟩ = call := by
  obtain ⟨stays, rfl⟩ := (CallState.scanLine_eq_error_iff positive).mp goes
  constructor
  · intro ends
    obtain ⟨whole, last, ends⟩ := ends
    cases whole with
    | nil =>
      have closed := ((endsBehind_nil_iff positive).mp ends).1
      rw [closed] at goes
      cases goes
    | cons head whole =>
      obtain ⟨_, _, inner, later, rfl⟩ := endsBehind_cons_iff.mp ends
      exact ⟨inner, ⟨whole, last, later⟩, rfl⟩
  · rintro ⟨inner, ⟨whole, last, later⟩, rfl⟩
    exact ⟨line :: whole, last, endsBehind_cons_iff.mpr ⟨rfl, stays, inner, later, rfl⟩⟩

theorem scan_eq_some_iff (positive : 0 < state.depth) :
    scan state line below = some call ↔
      ∃ whole last, EndsBehind state (line :: below) call whole last := by
  induction below generalizing state line call with
  | nil =>
    cases scanned : state.scanLine line with
    | ok rest => simp [scan, scanned, exists_endsBehind_of_ok positive scanned]
    | error next =>
      have nothing (inner : Call) (whole : List Text) (last : Text) :
          ¬ EndsBehind next [] inner whole last := fun ends => by
        obtain ⟨more, place⟩ := ends.place
        simp at place
      simp [scan, scanned, exists_endsBehind_of_error positive scanned, nothing]
  | cons following below ih =>
    cases scanned : state.scanLine line with
    | ok rest => simp [scan, scanned, exists_endsBehind_of_ok positive scanned]
    | error next =>
      obtain ⟨stays, reached⟩ := (CallState.scanLine_eq_error_iff positive).mp scanned
      have still : 0 < next.depth := reached ▸ stays line (List.prefix_refl line)
      rw [exists_endsBehind_of_error positive scanned, scan, scanned]
      simp only [Option.map_eq_some_iff, ih still]

theorem exists_take_eq_iff {lines whole : List Text} {line : Text} {count : Nat} :
    (∃ below, lines.take count = whole ++ line :: below) ↔
      (∃ below, lines = whole ++ line :: below) ∧ whole.length < count := by
  constructor
  · intro found
    obtain ⟨below, same⟩ := found
    have short : (lines.take count).length ≤ count := List.length_take_le count lines
    rw [same, List.length_append, List.length_cons] at short
    refine ⟨⟨below ++ lines.drop count, ?_⟩, by omega⟩
    rw [← List.cons_append, ← List.append_assoc, ← same, List.take_append_drop]
  · intro found
    obtain ⟨⟨below, rfl⟩, short⟩ := found
    obtain ⟨more, rfl⟩ := Nat.exists_eq_add_of_lt short
    refine ⟨below.take more, ?_⟩
    rw [List.take_append, List.take_of_length_le (by omega), Nat.add_assoc, Nat.add_sub_cancel_left,
      List.take_succ_cons]

theorem getElem?_of_place {lines whole below : List Text} {front rest last tail : Text} {start : Nat}
    (here : lines[start]? = some (front ++ rest))
    (place : rest :: lines.drop (start + 1) = whole ++ (last ++ tail) :: below) :
    ∃ before, lines[start + whole.length]? = some (before ++ tail) := by
  cases whole with
  | nil =>
    obtain ⟨rfl, _⟩ := List.cons.inj place
    exact ⟨front ++ last, by rw [List.append_assoc]; exact here⟩
  | cons head whole =>
    rw [List.cons_append] at place
    obtain ⟨_, place⟩ := List.cons.inj place
    refine ⟨last, ?_⟩
    have found : (lines.drop (start + 1))[whole.length]? = lines[start + 1 + whole.length]? :=
      List.getElem?_drop
    rw [place, List.getElem?_append_right (Nat.le_refl _), Nat.sub_self] at found
    rw [List.length_cons, Nat.add_comm whole.length 1, ← Nat.add_assoc]
    exact found.symm

end Call

section Nesting

variable {text : Text}

theorem nesting_paren (stays : ∀ front, front <+: text → front ≠ text →
    0 < (CallState.opened.after front).depth) :
    nesting ('(' :: text) = (CallState.opened.after text).depth := by
  rw [CallState.depth_after CallState.sound_opened stays]
  simp [nesting, unquoted, CallState.code, CallState.opened]
  omega

/-- The reader's count is the nesting of the parentheses as long as some of them are open. -/
theorem staysOpen_opened_iff : CallState.opened.StaysOpen text ↔
    ∀ n ≤ text.length, 0 < nesting ('(' :: text.take n) := by
  constructor
  · intro stays n _
    have positive := stays (text.take n) (List.take_prefix n text)
    rw [nesting_paren fun front start _ => stays front (start.trans (List.take_prefix n text))]
    exact_mod_cast positive
  · intro positive
    have upTo : ∀ n ≤ text.length, CallState.opened.StaysOpen (text.take n) := by
      intro n
      induction n with
      | zero => exact fun _ => CallState.staysOpen_nil.mpr (by decide)
      | succ n ih =>
        intro inside front start
        have before := ih (Nat.le_of_succ_le inside)
        have shorter : ∀ other, other <+: text.take (n + 1) → other ≠ text.take (n + 1) →
            0 < (CallState.opened.after other).depth := by
          intro other begins differ
          rw [List.take_succ_eq_append_getElem inside] at begins differ
          rcases List.prefix_concat_iff.mp begins with same | earlier
          · exact absurd same differ
          · exact before other earlier
        by_cases whole : front = text.take (n + 1)
        · have counted := positive (n + 1) inside
          rw [nesting_paren shorter, ← whole] at counted
          exact_mod_cast counted
        · exact shorter front start whole
    have all := upTo text.length (Nat.le_refl _)
    rwa [List.take_length] at all

theorem closesAtEnd_iff : ClosesAtEnd ('(' :: (text ++ [')'])) ↔
    CallState.opened.StaysOpen text ∧ (CallState.opened.after (text ++ [')'])).depth = 0 := by
  have shorter (n : Nat) (inside : n ≤ text.length) :
      ('(' :: (text ++ [')'])).take (n + 1) = '(' :: text.take n := by
    rw [List.take_succ_cons, List.take_append_of_le_length inside]
  have starts : (∀ n < ('(' :: (text ++ [')'])).length, 0 < n →
      0 < nesting (('(' :: (text ++ [')'])).take n)) ↔ CallState.opened.StaysOpen text := by
    rw [staysOpen_opened_iff]
    constructor
    · intro positive n inside
      rw [← shorter n inside]
      exact positive (n + 1) (by simp; omega) (Nat.succ_pos n)
    · intro positive n inside filled
      obtain ⟨m, rfl⟩ := Nat.exists_eq_succ_of_ne_zero (Nat.ne_of_gt filled)
      have within : m ≤ text.length := by
        simp at inside
        omega
      rw [shorter m within]
      exact positive m within
  rw [ClosesAtEnd, starts, and_comm]
  apply and_congr_right
  intro stays
  rw [nesting_paren]
  · exact Int.natCast_eq_zero
  · intro front start differ
    rcases List.prefix_concat_iff.mp start with same | earlier
    · exact absurd same differ
    · exact stays front earlier

theorem Call.read?_eq_some_iff {below : List Text} {call : Call} :
    Call.read? text below = some call ↔
      ∃ gap rest whole last more, text = gap ++ '(' :: rest ∧ (∀ c ∈ gap, isBlank c) ∧
        rest :: below = whole ++ (last ++ ')' :: call.rest) :: more ∧ whole.length < 20 ∧
        ClosesAtEnd ('(' :: (whole.flatten ++ last ++ [')'])) ∧
        call.text = Text.join ['\n'] (whole ++ [last]) ∧ call.span = whole.length := by
  have window (rest : Text) : rest :: below.take (Call.maxLines - 1) = (rest :: below).take 20 := rfl
  constructor
  · intro found
    obtain ⟨rest, opens, scanned⟩ := Call.exists_of_read? found
    obtain ⟨whole, last, place, stays, closes, content, span⟩ :=
      (Call.scan_eq_some_iff (by decide)).mp scanned
    rw [window, Call.exists_take_eq_iff] at place
    obtain ⟨⟨more, place⟩, short⟩ := place
    refine ⟨text.takeWhile isBlank, rest, whole, last, more, ?_, ?_, place, short,
      closesAtEnd_iff.mpr ⟨stays, closes⟩, content, span⟩
    · rw [← opens]
      exact List.takeWhile_append_dropWhile.symm
    · exact List.all_eq_true.mp List.all_takeWhile
  · intro found
    obtain ⟨gap, rest, whole, last, more, rfl, blank, place, short, ends, content, span⟩ := found
    have opens : Text.trimStart (gap ++ '(' :: rest) = '(' :: rest :=
      dropWhile_append_eq blank (by rintro c ⟨⟩; decide)
    obtain ⟨stays, closes⟩ := closesAtEnd_iff.mp ends
    rw [Call.read?_eq_scan opens, Call.scan_eq_some_iff (by decide)]
    refine ⟨whole, last, ?_, stays, closes, content, span⟩
    rw [window, Call.exists_take_eq_iff]
    exact ⟨⟨more, place⟩, short⟩

theorem Call.exists_gap_of_read? {below : List Text} {call : Call} (read : Call.read? text below = some call)
    (flat : call.span = 0) :
    ∃ gap, text = gap ++ '(' :: (call.text ++ ')' :: call.rest) ∧ ∀ c ∈ gap, isBlank c := by
  obtain ⟨gap, rest, whole, last, more, rfl, blank, place, _, _, content, span⟩ :=
    Call.read?_eq_some_iff.mp read
  obtain rfl : whole = [] := List.length_eq_zero_iff.mp (span.symm.trans flat)
  obtain ⟨rfl, _⟩ := List.cons.inj place
  obtain rfl : call.text = last := content
  exact ⟨gap, rfl, blank⟩

end Nesting

/-- The arguments of a call are read just when the column falls between two characters of the line, a
parenthesis is the first character behind it that is not blank, and within twenty lines there is a
parenthesis with which all that were opened since are closed for the first time. The arguments are the
text between these two, and end behind the second one. While the call is open, the reader's count is the
number of open parentheses, so that it can always be lowered by one. -/
theorem callArguments?_eq_some_iff (lines : List Text) (start column : Nat) :
    (∀ arguments, callArguments? lines start column = some arguments ↔
      ∃ line gap rest whole last tail below,
        lines[start]? = some line ∧ Text.StartsAt line column (gap ++ '(' :: rest) ∧
        (∀ c ∈ gap, isBlank c) ∧
        rest :: lines.drop (start + 1) = whole ++ (last ++ ')' :: tail) :: below ∧
        whole.length < 20 ∧ ClosesAtEnd ('(' :: (whole.flatten ++ last ++ [')'])) ∧
        arguments.text = Text.join ['\n'] (whole ++ [last]) ∧
        arguments.endLine = start + whole.length ∧
        ∃ ending close, lines[arguments.endLine]? = some ending ∧
          Text.StartsAt ending close (')' :: tail) ∧ arguments.endColumn = close + 1) ∧
    ∀ read : Text, (∀ n ≤ read.length, 0 < nesting ('(' :: read.take n)) →
      ((CallState.opened.after read).depth : Int) = nesting ('(' :: read) ∧
        0 < (CallState.opened.after read).depth := by
  constructor
  · intro arguments
    simp only [callArguments?, Option.bind_eq_bind, Option.bind_eq_some_iff, Option.pure_def,
      Option.some.injEq, Text.dropBytes?_eq_some_iff, Call.read?_eq_some_iff]
    constructor
    · intro found
      obtain ⟨line, here, text, starts, call, read, ending, there, rfl⟩ := found
      obtain ⟨gap, rest, whole, last, more, rfl, blank, place, short, ends, content, span⟩ := read
      obtain ⟨front, rfl, size⟩ := starts
      rw [span] at there ⊢
      have split : front ++ (gap ++ '(' :: rest) = (front ++ gap ++ ['(']) ++ rest := by simp
      obtain ⟨before, found⟩ := Call.getElem?_of_place (split ▸ here) place
      obtain rfl : before ++ ')' :: call.rest = ending := Option.some.inj (found.symm.trans there)
      refine ⟨_, gap, rest, whole, last, call.rest, more, here, ⟨front, rfl, size⟩, blank, place,
        short, ends, content, rfl, _, Text.byteSize before, there, ⟨before, rfl, rfl⟩, ?_⟩
      exact Text.byteSize_close_sub before call.rest
    · intro found
      obtain ⟨line, gap, rest, whole, last, tail, more, here, starts, blank, place, short, ends,
        content, row, ending, close, there, ⟨before, rfl, size⟩, stop⟩ := found
      refine ⟨line, here, _, starts, ⟨_, whole.length, tail⟩,
        ⟨gap, rest, whole, last, more, rfl, blank, place, short, ends, rfl, rfl⟩,
        before ++ ')' :: tail, row ▸ there, ?_⟩
      obtain ⟨text, endLine, endColumn⟩ := arguments
      cases content
      cases row
      cases stop
      rw [Text.byteSize_close_sub, size]
      rfl
  · intro read positive
    have stays := staysOpen_opened_iff.mpr positive
    constructor
    · exact (nesting_paren fun front start _ => stays front start).symm
    · exact stays read (List.prefix_refl read)

def hiddenParentheses : List Text := ["é = call  ('(\\", "') ' + f(x),", "ü) # é"]

theorem callArguments?_eq_some_iff_of_hiddenParentheses :
    callArguments? hiddenParentheses 0 9 = some ⟨"'(\\\n') ' + f(x),\nü", 2, 3⟩ ∧
    (CallState.opened.after "'(\\') ' + f(x".toList).depth = 2 := by
  obtain ⟨found, counted⟩ := callArguments?_eq_some_iff hiddenParentheses 0 9
  constructor
  · rw [found]
    refine ⟨"é = call  ('(\\", "  ", "'(\\", ["'(\\", "') ' + f(x),"], "ü", " # é", [], ?_⟩
    have blank : ∀ c ∈ ("  " : Text), isBlank c := List.all_eq_true.mp (by decide +kernel)
    refine ⟨by decide +kernel, ⟨"é = call", by decide +kernel, by decide +kernel⟩, blank,
      by decide +kernel, by decide +kernel, by decide +kernel, by decide +kernel, by decide +kernel,
      "ü) # é", 2, by decide +kernel, ⟨"ü", by decide +kernel, by decide +kernel⟩, by decide +kernel⟩
  · have same := (counted "'(\\') ' + f(x".toList (by decide +kernel)).1
    have nested : nesting ('(' :: "'(\\') ' + f(x".toList) = 2 := by decide +kernel
    omega

end RouteAtlas
