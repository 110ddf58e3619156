import RouteAtlas.Text.Pattern

namespace RouteAtlas

theorem inRanges_wordRanges_of_blankRanges {code : Nat} (blank : inRanges blankRanges code) :
    inRanges wordRanges code = false := by
  have apart : ∀ range ∈ blankRanges, ∀ offset ∈ List.range (range.2 + 1 - range.1),
      inRanges wordRanges (range.1 + offset) = false := by decide +kernel
  obtain ⟨range, member, first, last⟩ := (inRanges_iff blankRanges code).mp blank
  have found := apart range member (code - range.1) (List.mem_range.mpr (by omega))
  rwa [Nat.add_sub_cancel' first] at found

theorem isWord_eq_false_of_isBlank {c : Char} (blank : isBlank c) : isWord c = false := by
  by_cases small : c.toNat < 128
  · have apart : ∀ code < 128, isBlank (Char.ofNat code) → isWord (Char.ofNat code) = false := by
      decide +kernel
    have found := apart c.toNat small (by simpa using blank)
    simpa using found
  · simp only [isBlank, small, if_false] at blank
    simpa [isWord, small] using inRanges_wordRanges_of_blankRanges blank

theorem not_blank_of_isWord {c : Char} (word : isWord c) : isBlank c = false := by
  cases blank : isBlank c with
  | false => rfl
  | true => simp [isWord_eq_false_of_isBlank blank] at word

theorem not_mem_of_accepted {accepts : Char → Bool} {text : Text} (inside : ∀ c ∈ text, accepts c)
    {c : Char} (other : accepts c = false) : c ∉ text := by
  intro member
  rw [inside c member] at other
  cases other

theorem not_mem_takeWhile {accepts : Char → Bool} {c : Char} (other : accepts c = false)
    (text : Text) : c ∉ text.takeWhile accepts :=
  not_mem_of_accepted (List.all_eq_true.mp List.all_takeWhile) other

theorem wordAt_of_takeWhile {text : Text} (filled : text.takeWhile isWord ≠ []) :
    wordAt text.head? := by
  cases text with
  | nil => exact absurd rfl filled
  | cons c rest =>
    cases word : isWord c with
    | true => simp [wordAt, word]
    | false => simp [word] at filled

def lastOr (before : Option Char) (text : Text) : Option Char := text.getLast?.or before

@[simp] theorem lastOr_nil (before : Option Char) : lastOr before [] = before := rfl

@[simp] theorem lastOr_append (before : Option Char) (left right : Text) :
    lastOr before (left ++ right) = lastOr (lastOr before left) right := by
  simp [lastOr, List.getLast?_append, Option.or_assoc]

theorem lastOr_cons (before : Option Char) (c : Char) (rest : Text) :
    lastOr before (c :: rest) = lastOr (some c) rest :=
  lastOr_append before [c] rest

theorem wordAt_lastOr_blank {front : Text} (blank : ∀ c ∈ front, isBlank c) :
    wordAt (lastOr none front) = false := by
  rw [lastOr, Option.or_none]
  cases last : front.getLast? with
  | none => rfl
  | some c => exact isWord_eq_false_of_isBlank (blank c (List.mem_of_getLast? last))

theorem wordAt_lastOr_word (before : Option Char) {text : Text} (filled : text ≠ [])
    (inside : ∀ c ∈ text, isWord c) : wordAt (lastOr before text) = true := by
  rw [lastOr, List.getLast?_eq_some_getLast filled, Option.some_or]
  exact inside _ (List.getLast_mem filled)

section Spans

variable {accepts : Char → Bool} {taken rest : Text} (inside : ∀ c ∈ taken, accepts c)
  (outside : ∀ c, rest.head? = some c → accepts c = false)
include inside outside

theorem takeWhile_append_eq : (taken ++ rest).takeWhile accepts = taken := by
  rw [List.takeWhile_append_of_pos inside]
  cases rest with
  | nil => simp
  | cons c rest => simp [outside c rfl]

theorem dropWhile_append_eq : (taken ++ rest).dropWhile accepts = rest := by
  rw [List.dropWhile_append_of_pos inside]
  cases rest with
  | nil => rfl
  | cons c rest => simp [outside c rfl]

end Spans

namespace Cursor

theorem upTo_append (before after : Option Char) (text rest : Text) :
    Cursor.upTo ⟨before, text ++ rest⟩ ⟨after, rest⟩ = text := by
  simp [upTo]

theorem past_eq (accepts : Char → Bool) (before : Option Char) (text : Text) :
    past accepts before text =
      ⟨lastOr before (text.takeWhile accepts), text.dropWhile accepts⟩ := by
  induction text generalizing before with
  | nil => rfl
  | cons c rest ih =>
    by_cases accepted : accepts c
    · simp [past, accepted, ih, lastOr_cons]
    · simp [past, accepted]

theorem rest_suffix_of_mem_spans {accepts : Char → Bool} {before : Option Char} {text : Text}
    {found : List Cursor} {cursor : Cursor} (member : cursor ∈ spans accepts before text found) :
    cursor ∈ found ∨ cursor.rest <:+ text := by
  induction text generalizing before found with
  | nil =>
    rcases List.mem_cons.mp member with rfl | old
    · exact .inr (List.suffix_refl [])
    · exact .inl old
  | cons c text ih =>
    rw [spans] at member
    split at member
    · rcases ih member with old | later
      · rcases List.mem_cons.mp old with rfl | older
        · exact .inr (List.suffix_refl _)
        · exact .inl older
      · exact .inr (later.trans (List.suffix_cons c text))
    · rcases List.mem_cons.mp member with rfl | old
      · exact .inr (List.suffix_refl _)
      · exact .inl old

theorem exists_spans_eq {accepts : Char → Bool} {more rest : Text} (inside : ∀ c ∈ more, accepts c)
    (outside : ∀ c, rest.head? = some c → accepts c = false) (before : Option Char)
    (found : List Cursor) : ∃ longer, spans accepts before (more ++ rest) found =
      longer ++ ⟨before, more ++ rest⟩ :: found ∧
        ∀ place ∈ longer, ∃ left c right, more = left ++ c :: right ∧ place.rest = right ++ rest := by
  induction more generalizing before found with
  | nil =>
    refine ⟨[], ?_, by simp⟩
    cases rest with
    | nil => rfl
    | cons c rest => simp [spans, outside c rfl]
  | cons c more ih =>
    simp only [List.forall_mem_cons] at inside
    obtain ⟨longer, same, ends⟩ := ih inside.2 (some c) (⟨before, c :: (more ++ rest)⟩ :: found)
    refine ⟨longer ++ [⟨some c, more ++ rest⟩], by simp [spans, inside.1, same], ?_⟩
    intro place member
    rcases List.mem_append.mp member with listed | last
    · obtain ⟨left, d, right, split, stop⟩ := ends place listed
      exact ⟨c :: left, d, right, by simp [split], stop⟩
    · obtain rfl := List.mem_singleton.mp last
      exact ⟨[], c, more, rfl, rfl⟩

theorem exists_spans_append {accepts : Char → Bool} {taken more rest : Text}
    (first : ∀ c ∈ taken, accepts c) (inside : ∀ c ∈ more, accepts c)
    (outside : ∀ c, rest.head? = some c → accepts c = false) (before : Option Char)
    (found : List Cursor) : ∃ longer shorter, spans accepts before (taken ++ (more ++ rest)) found =
      longer ++ ⟨lastOr before taken, more ++ rest⟩ :: shorter ∧
        ∀ place ∈ longer, ∃ left c right, more = left ++ c :: right ∧ place.rest = right ++ rest := by
  induction taken generalizing before found with
  | nil =>
    obtain ⟨longer, same, ends⟩ := exists_spans_eq inside outside before found
    exact ⟨longer, found, same, ends⟩
  | cons c taken ih =>
    simp only [List.forall_mem_cons] at first
    obtain ⟨longer, shorter, same, ends⟩ :=
      ih first.2 (some c) (⟨before, c :: (taken ++ (more ++ rest))⟩ :: found)
    exact ⟨longer, shorter, by simp [spans, first.1, same, lastOr_cons], ends⟩

end Cursor

def Reading.parts (reading : Reading) : List (Nat × Text) :=
  reading.captures.map fun capture => (capture.1, capture.2.1.upTo capture.2.2)

namespace Pattern

section Runs

variable {first second body : Pattern} {place : Cursor} {reading : Reading}

@[simp] theorem runs_empty : Pattern.empty.runs place = [⟨place, []⟩] := rfl

@[simp] theorem runs_one_nil (accepts : Char → Bool) (before : Option Char) :
    (Pattern.one accepts).runs ⟨before, []⟩ = [] := rfl

@[simp] theorem runs_one_cons (accepts : Char → Bool) (before : Option Char) (c : Char)
    (rest : Text) : (Pattern.one accepts).runs ⟨before, c :: rest⟩ =
      if accepts c then [⟨⟨some c, rest⟩, []⟩] else [] := rfl

@[simp] theorem runs_many (accepts : Char → Bool) : (Pattern.many accepts).runs place =
    [⟨⟨lastOr place.before (place.rest.takeWhile accepts), place.rest.dropWhile accepts⟩, []⟩] := by
  rw [← Cursor.past_eq]
  rfl

@[simp] theorem runs_seq : (first ++ second).runs place =
    (first.runs place).flatMap fun reading => (second.runs reading.stop).map fun more =>
      ⟨more.stop, reading.captures ++ more.captures⟩ := rfl

@[simp] theorem runs_alt : (Pattern.alt first second).runs place =
    first.runs place ++ second.runs place := rfl

@[simp] theorem runs_capture (slot : Nat) : (Pattern.capture slot body).runs place =
    (body.runs place).map fun reading =>
      ⟨reading.stop, (slot, place, reading.stop) :: reading.captures⟩ := rfl

@[simp] theorem runs_boundary : Pattern.boundary.runs place =
    if wordAt place.before != wordAt place.rest.head? then [⟨place, []⟩] else [] := rfl

theorem mem_runs_seq : reading ∈ (first ++ second).runs place ↔
    ∃ left ∈ first.runs place, ∃ right ∈ second.runs left.stop,
      ⟨right.stop, left.captures ++ right.captures⟩ = reading := by
  simp

theorem mem_runs_alt : reading ∈ (Pattern.alt first second).runs place ↔
    reading ∈ first.runs place ∨ reading ∈ second.runs place := by
  simp

theorem mem_runs_capture {slot : Nat} : reading ∈ (Pattern.capture slot body).runs place ↔
    ∃ inner ∈ body.runs place,
      ⟨inner.stop, (slot, place, inner.stop) :: inner.captures⟩ = reading := by
  simp

theorem mem_runs_one {accepts : Char → Bool} : reading ∈ (Pattern.one accepts).runs place ↔
    ∃ c rest, place.rest = c :: rest ∧ accepts c ∧ reading = ⟨⟨some c, rest⟩, []⟩ := by
  obtain ⟨before, text⟩ := place
  cases text with
  | nil => simp
  | cons c rest =>
    constructor
    · intro member
      rw [runs_one_cons] at member
      split at member
      · exact ⟨c, rest, rfl, ‹_›, List.mem_singleton.mp member⟩
      · cases member
    · rintro ⟨d, more, found, accepted, rfl⟩
      cases found
      simp [accepted]

theorem mem_runs_many {accepts : Char → Bool} : reading ∈ (Pattern.many accepts).runs place ↔
    reading = ⟨⟨lastOr place.before (place.rest.takeWhile accepts),
      place.rest.dropWhile accepts⟩, []⟩ := by
  simp

theorem mem_runs_boundary : reading ∈ Pattern.boundary.runs place ↔
    wordAt place.before ≠ wordAt place.rest.head? ∧ reading = ⟨place, []⟩ := by
  by_cases same : wordAt place.before = wordAt place.rest.head? <;> simp [same]

end Runs

theorem text_cons_cons (c d : Char) (rest : Text) :
    text (c :: d :: rest) = .one (· == c) ++ text (d :: rest) := rfl

theorem mem_runs_text {word : Text} {place : Cursor} {reading : Reading} :
    reading ∈ (text word).runs place ↔
      ∃ rest, place.rest = word ++ rest ∧ reading = ⟨⟨lastOr place.before word, rest⟩, []⟩ := by
  induction word generalizing place reading with
  | nil =>
    obtain ⟨before, rest⟩ := place
    simp [text]
  | cons c word ih =>
    cases word with
    | nil =>
      simp only [text, mem_runs_one, beq_iff_eq]
      constructor
      · rintro ⟨_, rest, found, rfl, rfl⟩
        exact ⟨rest, found, rfl⟩
      · rintro ⟨rest, found, rfl⟩
        exact ⟨c, rest, found, rfl, rfl⟩
    | cons d word =>
      simp only [text_cons_cons, mem_runs_seq, mem_runs_one, ih, beq_iff_eq]
      constructor
      · rintro ⟨_, ⟨_, rest, found, rfl, rfl⟩, _, ⟨more, left, rfl⟩, rfl⟩
        refine ⟨more, ?_, ?_⟩
        · rw [found]
          exact congrArg (_ :: ·) left
        · simp [lastOr_cons]
      · rintro ⟨rest, found, rfl⟩
        refine ⟨_, ⟨c, (d :: word) ++ rest, found, rfl, rfl⟩, _, ⟨rest, rfl, rfl⟩, ?_⟩
        simp [lastOr_cons]

theorem mem_runs_anyOf {texts : List Text} {place : Cursor} {reading : Reading}
    (member : reading ∈ (anyOf texts).runs place) :
    ∃ word ∈ texts, place.rest = word ++ reading.stop.rest := by
  unfold anyOf at member
  induction texts with
  | nil => simp [choice, mem_runs_one] at member
  | cons word texts ih =>
    cases texts with
    | nil =>
      obtain ⟨rest, found, rfl⟩ := mem_runs_text.mp member
      exact ⟨word, by simp, found⟩
    | cons next texts =>
      rcases mem_runs_alt.mp member with first | later
      · obtain ⟨rest, found, rfl⟩ := mem_runs_text.mp first
        exact ⟨word, by simp, found⟩
      · obtain ⟨other, listed, found⟩ := ih later
        exact ⟨other, by simp [listed], found⟩

theorem rest_suffix_of_mem_runs {pattern : Pattern} {place : Cursor} {reading : Reading}
    (member : reading ∈ pattern.runs place) : reading.stop.rest <:+ place.rest := by
  induction pattern generalizing place reading with
  | empty =>
    obtain rfl := List.mem_singleton.mp member
    exact List.suffix_refl _
  | one accepts =>
    obtain ⟨c, rest, found, _, rfl⟩ := mem_runs_one.mp member
    rw [found]
    exact List.suffix_cons c rest
  | many accepts =>
    obtain rfl := mem_runs_many.mp member
    exact List.dropWhile_suffix accepts
  | upToMany accepts =>
    obtain ⟨cursor, listed, rfl⟩ := List.mem_map.mp member
    rcases Cursor.rest_suffix_of_mem_spans listed with none | later
    · cases none
    · exact later
  | seq first second ihFirst ihSecond =>
    obtain ⟨left, leftRun, right, rightRun, rfl⟩ := mem_runs_seq.mp member
    exact (ihSecond rightRun).trans (ihFirst leftRun)
  | alt first second ihFirst ihSecond =>
    rcases mem_runs_alt.mp member with left | right
    · exact ihFirst left
    · exact ihSecond right
  | capture slot body ih =>
    obtain ⟨inner, run, rfl⟩ := mem_runs_capture.mp member
    exact (ih run : inner.stop.rest <:+ place.rest)
  | start =>
    rw [runs] at member
    split at member
    · obtain rfl := List.mem_singleton.mp member
      exact List.suffix_refl _
    · cases member
  | boundary =>
    obtain ⟨_, rfl⟩ := mem_runs_boundary.mp member
    exact List.suffix_refl _

/-- What the preferred reading takes, before a given rest, and the parts that it notes. -/
def Reads (pattern : Pattern) (before : Option Char) (taken rest : Text)
    (parts : List (Nat × Text)) : Prop :=
  ∃ reading, (pattern.runs ⟨before, taken ++ rest⟩).head? = some reading ∧
    reading.stop = ⟨lastOr before taken, rest⟩ ∧ reading.parts = parts

namespace Reads

variable {first second body : Pattern} {before : Option Char} {taken more rest : Text}
  {parts others : List (Nat × Text)}

theorem seq (left : Reads first before taken (more ++ rest) parts)
    (right : Reads second (lastOr before taken) more rest others) :
    Reads (first ++ second) before (taken ++ more) rest (parts ++ others) := by
  obtain ⟨one, oneFirst, oneStop, oneParts⟩ := left
  obtain ⟨two, twoFirst, twoStop, twoParts⟩ := right
  obtain ⟨ones, oneRuns⟩ := List.head?_eq_some_iff.mp oneFirst
  obtain ⟨twos, twoRuns⟩ := List.head?_eq_some_iff.mp twoFirst
  refine ⟨⟨two.stop, one.captures ++ two.captures⟩, ?_, ?_, ?_⟩
  · rw [List.append_assoc]
    simp [oneRuns, oneStop, twoRuns]
  · simp [twoStop]
  · simp [← oneParts, ← twoParts, Reading.parts]

theorem left (read : Reads first before taken rest parts) :
    Reads (.alt first second) before taken rest parts := by
  obtain ⟨one, oneFirst, stop, noted⟩ := read
  obtain ⟨ones, oneRuns⟩ := List.head?_eq_some_iff.mp oneFirst
  exact ⟨one, by simp [oneRuns], stop, noted⟩

theorem right (failed : first.runs ⟨before, taken ++ rest⟩ = [])
    (read : Reads second before taken rest parts) :
    Reads (.alt first second) before taken rest parts := by
  obtain ⟨one, oneFirst, stop, noted⟩ := read
  exact ⟨one, by simpa [failed] using oneFirst, stop, noted⟩

theorem capture (slot : Nat) (read : Reads body before taken rest parts) :
    Reads (.capture slot body) before taken rest ((slot, taken) :: parts) := by
  obtain ⟨one, oneFirst, stop, noted⟩ := read
  obtain ⟨ones, oneRuns⟩ := List.head?_eq_some_iff.mp oneFirst
  refine ⟨⟨one.stop, (slot, ⟨before, taken ++ rest⟩, one.stop) :: one.captures⟩, ?_, stop, ?_⟩
  · simp [oneRuns]
  · simp [Reading.parts, stop, ← noted, Cursor.upTo_append]

theorem nothing : Reads .empty before [] rest [] := ⟨⟨⟨before, rest⟩, []⟩, rfl, rfl, rfl⟩

theorem one {accepts : Char → Bool} {c : Char} (accepted : accepts c) :
    Reads (.one accepts) before [c] rest [] :=
  ⟨⟨⟨some c, rest⟩, []⟩, by simp [accepted], rfl, rfl⟩

theorem boundary (edge : wordAt before ≠ wordAt rest.head?) : Reads .boundary before [] rest [] :=
  ⟨⟨⟨before, rest⟩, []⟩, by simp [edge], rfl, rfl⟩

theorem many {accepts : Char → Bool} (inside : ∀ c ∈ taken, accepts c)
    (outside : ∀ c, rest.head? = some c → accepts c = false) :
    Reads (.many accepts) before taken rest [] := by
  refine ⟨⟨⟨lastOr before taken, rest⟩, []⟩, ?_, rfl, rfl⟩
  simp [takeWhile_append_eq inside outside, dropWhile_append_eq inside outside]

theorem text (word : Text) : Reads (.text word) before word rest [] := by
  refine ⟨⟨⟨lastOr before word, rest⟩, []⟩, ?_, rfl, rfl⟩
  induction word generalizing before with
  | nil => rfl
  | cons c word ih =>
    cases word with
    | nil => simp [Pattern.text, lastOr]
    | cons d word =>
      have later : ((Pattern.text (d :: word)).runs ⟨some c, d :: word ++ rest⟩).head? =
          some ⟨⟨lastOr (some c) (d :: word), rest⟩, []⟩ := ih
      obtain ⟨others, found⟩ := List.head?_eq_some_iff.mp later
      rw [List.cons_append] at found
      simp [text_cons_cons, found, lastOr_cons]

theorem many1 {accepts : Char → Bool} (filled : taken ≠ []) (inside : ∀ c ∈ taken, accepts c)
    (outside : ∀ c, rest.head? = some c → accepts c = false) :
    Reads (.many1 accepts) before taken rest [] := by
  cases taken with
  | nil => exact absurd rfl filled
  | cons c taken =>
    have head : Reads (.one accepts) before [c] (taken ++ rest) [] := one (inside c (by simp))
    exact head.seq (many (fun d member => inside d (by simp [member])) outside)

theorem assoc {third : Pattern} (read : Reads (first ++ (second ++ third)) before taken rest parts) :
    Reads (first ++ second ++ third) before taken rest parts := by
  have same : ∀ place, (first ++ second ++ third).runs place = (first ++ (second ++ third)).runs place := by
    intro place
    simp [List.flatMap_assoc, List.map_flatMap, List.flatMap_map, Function.comp_def]
  unfold Reads
  rw [same]
  exact read

/-- A repetition gives back what the pattern behind it needs. -/
theorem upToMany {accepts : Char → Bool} (inside : ∀ c ∈ taken ++ more, accepts c)
    (outside : ∀ c, rest.head? = some c → accepts c = false)
    (read : Reads second (lastOr before taken) more rest parts)
    (fails : ∀ left c right, more = left ++ c :: right → ∀ last,
      second.runs ⟨last, right ++ rest⟩ = []) :
    Reads (.upToMany accepts ++ second) before (taken ++ more) rest parts := by
  obtain ⟨reading, first, stop, noted⟩ := read
  obtain ⟨longer, shorter, spans, ends⟩ := Cursor.exists_spans_append
    (fun c member => inside c (List.mem_append_left more member))
    (fun c member => inside c (List.mem_append_right taken member)) outside before []
  have nothing : longer.flatMap second.runs = [] := by
    rw [List.flatMap_eq_nil_iff]
    intro place member
    obtain ⟨left, c, right, split, suffix⟩ := ends place member
    obtain ⟨last, text⟩ := place
    rw [show text = right ++ rest from suffix, fails left c right split last]
  have runs : (Pattern.upToMany accepts ++ second).runs ⟨before, taken ++ more ++ rest⟩ =
      second.runs ⟨lastOr before taken, more ++ rest⟩ ++ shorter.flatMap second.runs := by
    have all : (Pattern.upToMany accepts ++ second).runs ⟨before, taken ++ more ++ rest⟩ =
        (Cursor.spans accepts before (taken ++ (more ++ rest)) []).flatMap second.runs := by
      simp [Pattern.runs, List.flatMap_map]
    rw [all, spans, List.flatMap_append, nothing, List.flatMap_cons, List.nil_append]
  refine ⟨reading, ?_, by rw [stop, lastOr_append], noted⟩
  obtain ⟨others, listed⟩ := List.head?_eq_some_iff.mp first
  rw [runs, listed]
  rfl

theorem freshName (slot : Nat) (fresh : wordAt before = false) (filled : taken ≠ [])
    (inside : ∀ c ∈ taken, isWord c) (outside : ∀ c, rest.head? = some c → isWord c = false) :
    Reads (.freshName slot) before taken rest [(slot, taken)] := by
  have edge : wordAt before ≠ wordAt (taken ++ rest).head? := by
    cases taken with
    | nil => exact absurd rfl filled
    | cons c taken =>
      rw [fresh]
      simp [wordAt, inside c (by simp)]
  have start : Reads .boundary before [] (taken ++ rest) [] := boundary edge
  exact start.seq ((many1 filled inside outside).capture slot)

end Reads

section Runs

variable {place : Cursor} {reading : Reading}

theorem mem_runs_many1 {accepts : Char → Bool} : reading ∈ (many1 accepts).runs place ↔
    place.rest.takeWhile accepts ≠ [] ∧
      reading = ⟨⟨lastOr place.before (place.rest.takeWhile accepts),
        place.rest.dropWhile accepts⟩, []⟩ := by
  obtain ⟨before, text⟩ := place
  simp only [many1, mem_runs_seq, mem_runs_one, mem_runs_many]
  cases text with
  | nil => simp
  | cons c rest =>
    by_cases accepted : accepts c
    · constructor
      · rintro ⟨_, ⟨d, more, found, _, rfl⟩, _, rfl, rfl⟩
        cases found
        simp [accepted, lastOr_cons]
      · rintro ⟨_, rfl⟩
        refine ⟨_, ⟨c, rest, rfl, accepted, rfl⟩, _, rfl, ?_⟩
        simp [accepted, lastOr_cons]
    · constructor
      · rintro ⟨_, ⟨d, more, found, other, _⟩, _⟩
        cases found
        exact absurd other accepted
      · simp [accepted]

theorem mem_runs_freshName {slot : Nat} (member : reading ∈ (freshName slot).runs place) :
    wordAt place.before = false ∧ place.rest.takeWhile isWord ≠ [] ∧
      reading.stop = ⟨lastOr place.before (place.rest.takeWhile isWord),
        place.rest.dropWhile isWord⟩ := by
  simp only [freshName, mem_runs_seq, mem_runs_boundary, mem_runs_capture, name,
    mem_runs_many1] at member
  obtain ⟨_, ⟨edge, rfl⟩, _, ⟨_, ⟨filled, rfl⟩, rfl⟩, rfl⟩ := member
  refine ⟨?_, filled, rfl⟩
  cases text : place.rest with
  | nil => simp [text] at filled
  | cons c rest =>
    cases word : isWord c with
    | false => simp [text, word] at filled
    | true => simpa [text, wordAt, word] using edge

end Runs

def Passes (pattern : Pattern) (place stop : Cursor) : Prop :=
  ∃ reading ∈ pattern.runs place, reading.stop = stop

section Passes

variable {pattern first second : Pattern} {accepts : Char → Bool} {place stop : Cursor}

theorem runs_eq_nil (nowhere : ∀ stop, ¬ pattern.Passes place stop) : pattern.runs place = [] := by
  rw [List.eq_nil_iff_forall_not_mem]
  intro reading member
  exact nowhere reading.stop ⟨reading, member, rfl⟩

theorem Passes.suffix (passes : pattern.Passes place stop) : stop.rest <:+ place.rest := by
  obtain ⟨reading, member, rfl⟩ := passes
  exact rest_suffix_of_mem_runs member

theorem passes_seq : (first ++ second).Passes place stop ↔
    ∃ middle, first.Passes place middle ∧ second.Passes middle stop := by
  constructor
  · rintro ⟨_, member, rfl⟩
    obtain ⟨left, leftRun, right, rightRun, rfl⟩ := mem_runs_seq.mp member
    exact ⟨left.stop, ⟨left, leftRun, rfl⟩, right, rightRun, rfl⟩
  · rintro ⟨_, ⟨left, leftRun, rfl⟩, right, rightRun, rfl⟩
    exact ⟨_, mem_runs_seq.mpr ⟨left, leftRun, right, rightRun, rfl⟩, rfl⟩

theorem passes_alt : (Pattern.alt first second).Passes place stop ↔
    first.Passes place stop ∨ second.Passes place stop := by
  simp only [Passes, mem_runs_alt, or_and_right, exists_or]

theorem passes_capture {slot : Nat} : (Pattern.capture slot pattern).Passes place stop ↔
    pattern.Passes place stop := by
  constructor
  · rintro ⟨_, member, rfl⟩
    obtain ⟨inner, run, rfl⟩ := mem_runs_capture.mp member
    exact ⟨inner, run, rfl⟩
  · rintro ⟨inner, run, rfl⟩
    exact ⟨_, mem_runs_capture.mpr ⟨inner, run, rfl⟩, rfl⟩

theorem passes_empty : Pattern.empty.Passes place stop ↔ stop = place := by
  simp [Passes, eq_comm]

theorem passes_one : (Pattern.one accepts).Passes place stop ↔
    ∃ c rest, place.rest = c :: rest ∧ accepts c ∧ stop = ⟨some c, rest⟩ := by
  constructor
  · rintro ⟨_, member, rfl⟩
    obtain ⟨c, rest, found, accepted, rfl⟩ := mem_runs_one.mp member
    exact ⟨c, rest, found, accepted, rfl⟩
  · rintro ⟨c, rest, found, accepted, rfl⟩
    exact ⟨_, mem_runs_one.mpr ⟨c, rest, found, accepted, rfl⟩, rfl⟩

theorem passes_many : (Pattern.many accepts).Passes place stop ↔
    stop = ⟨lastOr place.before (place.rest.takeWhile accepts), place.rest.dropWhile accepts⟩ := by
  simp [Passes, eq_comm]

theorem passes_many1 : (many1 accepts).Passes place stop ↔ place.rest.takeWhile accepts ≠ [] ∧
    stop = ⟨lastOr place.before (place.rest.takeWhile accepts),
      place.rest.dropWhile accepts⟩ := by
  constructor
  · rintro ⟨_, member, rfl⟩
    obtain ⟨filled, rfl⟩ := mem_runs_many1.mp member
    exact ⟨filled, rfl⟩
  · rintro ⟨filled, rfl⟩
    exact ⟨_, mem_runs_many1.mpr ⟨filled, rfl⟩, rfl⟩

theorem passes_text {word : Text} : (text word).Passes place stop ↔
    ∃ rest, place.rest = word ++ rest ∧ stop = ⟨lastOr place.before word, rest⟩ := by
  constructor
  · rintro ⟨_, member, rfl⟩
    obtain ⟨rest, found, rfl⟩ := mem_runs_text.mp member
    exact ⟨rest, found, rfl⟩
  · rintro ⟨rest, found, rfl⟩
    exact ⟨_, mem_runs_text.mpr ⟨rest, found, rfl⟩, rfl⟩

theorem passes_boundary : Pattern.boundary.Passes place stop ↔
    wordAt place.before ≠ wordAt place.rest.head? ∧ stop = place := by
  constructor
  · rintro ⟨_, member, rfl⟩
    obtain ⟨edge, rfl⟩ := mem_runs_boundary.mp member
    exact ⟨edge, rfl⟩
  · rintro ⟨edge, rfl⟩
    exact ⟨_, mem_runs_boundary.mpr ⟨edge, rfl⟩, rfl⟩

theorem passes_anyOf {texts : List Text} : (anyOf texts).Passes place stop ↔
    ∃ word ∈ texts, place.rest = word ++ stop.rest ∧ stop.before = lastOr place.before word := by
  have one {word : Text} : (text word).Passes place stop ↔
      place.rest = word ++ stop.rest ∧ stop.before = lastOr place.before word := by
    rw [passes_text]
    constructor
    · rintro ⟨rest, found, rfl⟩
      exact ⟨found, rfl⟩
    · rintro ⟨found, last⟩
      exact ⟨stop.rest, found, by rw [← last]⟩
  unfold anyOf
  induction texts with
  | nil => simp [choice, passes_one]
  | cons word texts ih =>
    cases texts with
    | nil => simpa [choice] using one
    | cons next texts =>
      have split : (choice ((word :: next :: texts).map text)).Passes place stop ↔
          (text word).Passes place stop ∨ (choice ((next :: texts).map text)).Passes place stop :=
        passes_alt
      simp only [split, one, ih, List.mem_cons, or_and_right, exists_or, exists_eq_left]

theorem Passes.of_anyOf {texts : List Text} (passes : (anyOf texts).Passes place stop) :
    ∃ word ∈ texts, place.rest = word ++ stop.rest := by
  obtain ⟨word, listed, split, _⟩ := passes_anyOf.mp passes
  exact ⟨word, listed, split⟩

def isLocal : Pattern → Bool
  | .empty | .one _ => true
  | .many _ | .upToMany _ | .start | .boundary => false
  | .seq first second | .alt first second => first.isLocal && second.isLocal
  | .capture _ body => body.isLocal

/-- What such a pattern reads at one place, it reads wherever the same characters stand. -/
theorem Passes.moved (alone : pattern.isLocal) (passes : pattern.Passes place stop) :
    ∃ taken, place.rest = taken ++ stop.rest ∧ ∀ before rest,
      pattern.Passes ⟨before, taken ++ rest⟩ ⟨lastOr before taken, rest⟩ := by
  induction pattern generalizing place stop with
  | empty =>
    obtain rfl := passes_empty.mp passes
    exact ⟨[], rfl, fun before rest => passes_empty.mpr rfl⟩
  | one accepts =>
    obtain ⟨c, rest, found, accepted, rfl⟩ := passes_one.mp passes
    exact ⟨[c], found, fun before rest => passes_one.mpr ⟨c, rest, rfl, accepted, rfl⟩⟩
  | seq first second ihFirst ihSecond =>
    obtain ⟨left, right⟩ := Bool.and_eq_true_iff.mp alone
    obtain ⟨middle, before, after⟩ := passes_seq.mp passes
    obtain ⟨taken, start, readFirst⟩ := ihFirst left before
    obtain ⟨more, next, readSecond⟩ := ihSecond right after
    refine ⟨taken ++ more, by rw [start, next, List.append_assoc], fun last rest => ?_⟩
    rw [List.append_assoc, lastOr_append]
    exact passes_seq.mpr ⟨_, readFirst last (more ++ rest), readSecond _ rest⟩
  | alt first second ihFirst ihSecond =>
    obtain ⟨left, right⟩ := Bool.and_eq_true_iff.mp alone
    rcases passes_alt.mp passes with one | other
    · obtain ⟨taken, start, read⟩ := ihFirst left one
      exact ⟨taken, start, fun before rest => passes_alt.mpr (.inl (read before rest))⟩
    · obtain ⟨taken, start, read⟩ := ihSecond right other
      exact ⟨taken, start, fun before rest => passes_alt.mpr (.inr (read before rest))⟩
  | capture slot body ih =>
    obtain ⟨taken, start, read⟩ := ih alone (passes_capture.mp passes)
    exact ⟨taken, start, fun before rest => passes_capture.mpr (read before rest)⟩
  | many | upToMany | start | boundary => cases alone

theorem Passes.isSome_at? (passes : pattern.Passes place stop) : (pattern.at? place).isSome := by
  obtain ⟨reading, member, _⟩ := passes
  rw [at?, Option.isSome_map, List.isSome_head?]
  exact List.ne_nil_of_mem member

theorem passes_of_at? {found : Found} (here : pattern.at? place = some found) :
    pattern.Passes place found.reading.stop := by
  obtain ⟨reading, first, rfl⟩ := Option.map_eq_some_iff.mp here
  exact ⟨reading, List.mem_of_head? first, rfl⟩

end Passes

section Search

variable {pattern : Pattern} {before : Option Char} {taken text rest : Text} {found : Found}
  {parts : List (Nat × Text)}

/-- A search goes on after what belongs to an earlier place. -/
theorem findAllFrom_length :
    findAllFrom pattern taken.length before (taken ++ rest) =
      findAllFrom pattern 0 (lastOr before taken) rest := by
  induction taken generalizing before with
  | nil => rfl
  | cons c taken ih =>
    simp only [List.length_cons, List.cons_append, findAllFrom, ih, lastOr_cons]

theorem lookup_parts (reading : Reading) (slot : Nat) :
    reading.parts.lookup slot = (reading.captures.lookup slot).map fun span => span.1.upTo span.2 := by
  unfold Reading.parts
  induction reading.captures with
  | nil => rfl
  | cons capture captures ih =>
    obtain ⟨noted, span⟩ := capture
    simp only [List.map_cons, List.lookup_cons]
    split
    · rfl
    · exact ih

theorem Reads.findAllFrom (read : Reads pattern before taken rest parts)
    (filled : taken ≠ []) : ∃ found, pattern.findAllFrom 0 before (taken ++ rest) =
      found :: pattern.findAllFrom 0 (lastOr before taken) rest ∧
        ∀ slot, found.part? slot = parts.lookup slot := by
  obtain ⟨reading, first, stop, rfl⟩ := read
  refine ⟨⟨⟨before, taken ++ rest⟩, reading⟩, ?_, fun slot => (lookup_parts reading slot).symm⟩
  cases taken with
  | nil => exact absurd rfl filled
  | cons c taken =>
    have here : pattern.at? ⟨before, c :: (taken ++ rest)⟩ =
        .some ⟨⟨before, c :: (taken ++ rest)⟩, reading⟩ := by
      simp only [List.cons_append] at first
      simp [at?, first]
    have length : (Found.mk ⟨before, c :: (taken ++ rest)⟩ reading).text.length - 1 =
        taken.length := by
      simp [Found.text, stop, Cursor.upTo]
      omega
    simp only [List.cons_append, Pattern.findAllFrom, here, length, findAllFrom_length, lastOr_cons]

theorem findAllFrom_pass (nowhere : ∀ left c right, text = left ++ c :: right →
      pattern.runs ⟨lastOr before left, c :: (right ++ rest)⟩ = []) :
    findAllFrom pattern 0 before (text ++ rest) =
      findAllFrom pattern 0 (lastOr before text) rest := by
  induction text generalizing before with
  | nil => rfl
  | cons c text ih =>
    have here : pattern.at? ⟨before, c :: (text ++ rest)⟩ = none := by
      have failed := nowhere [] c text rfl
      simp only [lastOr_nil] at failed
      simp [at?, failed]
    have later : findAllFrom pattern 0 (some c) (text ++ rest) =
        findAllFrom pattern 0 (lastOr (some c) text) rest := by
      refine ih fun left d right same => ?_
      have failed := nowhere (c :: left) d right (by simp [same])
      rwa [lastOr_cons] at failed
    simp only [List.cons_append, findAllFrom, here, later, lastOr_cons]

theorem findAllFrom_eq_nil (nowhere : ∀ left right, text = left ++ right →
      pattern.runs ⟨lastOr before left, right⟩ = []) :
    findAllFrom pattern 0 before text = [] := by
  have passed : findAllFrom pattern 0 before (text ++ []) =
      findAllFrom pattern 0 (lastOr before text) [] := by
    refine findAllFrom_pass fun left c right same => ?_
    simpa using nowhere left (c :: right) same
  have last := nowhere text [] (by simp)
  rw [List.append_nil] at passed
  simp [passed, findAllFrom, at?, last]

theorem rest_suffix_of_at? {place : Cursor} (here : pattern.at? place = some found) :
    found.rest <:+ place.rest := by
  obtain ⟨reading, first, rfl⟩ := Option.map_eq_some_iff.mp here
  exact rest_suffix_of_mem_runs (List.mem_of_head? first)

/-- A line that starts with the pattern, after blanks, is found among the others. -/
theorem startsLineFrom_of_line {fresh : Bool} {front gap : Text} {c : Char} (starts : front = [] → fresh)
    (ends : ∀ d, front.getLast? = some d → d = '\n') (blank : ∀ d ∈ gap, isBlank d)
    (solid : isBlank c = false) (read : ∀ before, (pattern.at? ⟨before, c :: rest⟩).isSome) :
    pattern.startsLineFrom fresh before (front ++ (gap ++ c :: rest)) := by
  induction front generalizing fresh before with
  | nil =>
    obtain rfl : fresh = true := starts rfl
    induction gap generalizing before with
    | nil => simp [startsLineFrom, solid, read]
    | cons d gap ih =>
      obtain ⟨here, later⟩ := List.forall_mem_cons.mp blank
      have next : pattern.startsLineFrom true (some d) (gap ++ c :: rest) = true := ih later
      simpa [startsLineFrom, here] using next
  | cons d front ih =>
    have line : front = [] → d = '\n' := by
      rintro rfl
      exact ends d rfl
    have rest : ∀ e, front.getLast? = some e → e = '\n' := by
      intro e last
      exact ends e (by rw [List.getLast?_cons, last]; rfl)
    rw [List.cons_append, startsLineFrom]
    cases here : isBlank d with
    | true => exact ih (fun empty => by simp [line empty]) rest
    | false =>
      have further : front ≠ [] := by
        intro empty
        rw [line empty] at here
        exact absurd here (by decide)
      have more : pattern.startsLineFrom false (some d) (front ++ (gap ++ c :: _)) = true :=
        ih (fun empty => absurd empty further) rest
      simp [more]

theorem rest_suffix_of_mem_findAllFrom {skip : Nat}
    (member : found ∈ pattern.findAllFrom skip before text) : found.rest <:+ text := by
  induction text generalizing skip before with
  | nil =>
    cases skip with
    | zero => exact rest_suffix_of_at? (Option.mem_toList.mp member)
    | succ skip => cases member
  | cons c text ih =>
    cases skip with
    | succ skip => exact (ih member).trans (List.suffix_cons c text)
    | zero =>
      rw [findAllFrom] at member
      split at member
      · rename_i first here
        rcases List.mem_cons.mp member with rfl | later
        · exact rest_suffix_of_at? here
        · exact (ih later).trans (List.suffix_cons c text)
      · exact (ih member).trans (List.suffix_cons c text)

theorem Reads.at? (read : Reads pattern before taken rest parts) :
    ∃ found, pattern.at? ⟨before, taken ++ rest⟩ = some found ∧ found.rest = rest ∧
      ∀ slot, found.part? slot = parts.lookup slot := by
  obtain ⟨reading, first, stop, rfl⟩ := read
  refine ⟨⟨⟨before, taken ++ rest⟩, reading⟩, ?_, ?_, fun slot => (lookup_parts reading slot).symm⟩
  · simp [Pattern.at?, first]
  · simp [Found.rest, stop]

theorem findFrom_of_at? (here : pattern.at? ⟨before, text⟩ = some found) :
    findFrom pattern before text = some found := by
  cases text with
  | nil => exact here
  | cons c text => simp [findFrom, here]

theorem Reads.partAtStart? (read : Reads pattern none taken rest parts) (slot : Nat) :
    pattern.partAtStart? slot (taken ++ rest) = parts.lookup slot := by
  obtain ⟨found, here, _, noted⟩ := read.at?
  simp [Pattern.partAtStart?, atStart?, here, noted]

theorem findFrom_eq_head? (pattern : Pattern) (before : Option Char) (text : Text) :
    findFrom pattern before text = (findAllFrom pattern 0 before text).head? := by
  induction text generalizing before with
  | nil => simp [findFrom, findAllFrom]
  | cons c text ih =>
    rw [findFrom, findAllFrom]
    split
    · rfl
    · exact ih (some c)

theorem exists_passes_of_findFrom (here : findFrom pattern before text = some found) :
    ∃ left right, text = left ++ right ∧
      pattern.Passes ⟨lastOr before left, right⟩ found.reading.stop := by
  have passes : ∀ place, pattern.at? place = some found →
      pattern.Passes place found.reading.stop := by
    intro place first
    obtain ⟨reading, head, rfl⟩ := Option.map_eq_some_iff.mp first
    exact ⟨reading, List.mem_of_head? head, rfl⟩
  induction text generalizing before with
  | nil => exact ⟨[], [], rfl, passes _ here⟩
  | cons c text ih =>
    rw [findFrom] at here
    split at here
    · rename_i first found
      cases here
      exact ⟨[], c :: text, rfl, passes _ found⟩
    · obtain ⟨left, right, rfl, later⟩ := ih here
      exact ⟨c :: left, right, rfl, by rwa [lastOr_cons]⟩

theorem findFrom_eq_none_iff : findFrom pattern before text = none ↔
    ∀ left right, text = left ++ right → ∀ stop, ¬ pattern.Passes ⟨lastOr before left, right⟩ stop := by
  constructor
  · intro absent left right split stop passes
    induction left generalizing before text with
    | nil =>
      obtain rfl : text = right := split
      obtain ⟨reading, member, _⟩ := passes
      cases here : pattern.at? ⟨before, text⟩ with
      | none =>
        have nothing : pattern.runs ⟨before, text⟩ = [] := by simpa [at?] using here
        rw [lastOr_nil, nothing] at member
        cases member
      | some found =>
        rw [findFrom_of_at? here] at absent
        cases absent
    | cons c left ih =>
      subst split
      rw [List.cons_append, findFrom] at absent
      split at absent
      · cases absent
      · exact ih absent rfl (by rwa [lastOr_cons] at passes)
  · intro nowhere
    cases here : findFrom pattern before text with
    | none => rfl
    | some found =>
      obtain ⟨left, right, split, passes⟩ := exists_passes_of_findFrom here
      exact absurd passes (nowhere left right split _)

theorem findFrom_pass (nowhere : ∀ left c right, text = left ++ c :: right →
      pattern.runs ⟨lastOr before left, c :: (right ++ rest)⟩ = []) :
    findFrom pattern before (text ++ rest) = findFrom pattern (lastOr before text) rest := by
  rw [findFrom_eq_head?, findFrom_eq_head?, findAllFrom_pass nowhere]

theorem find?_eq_none (nowhere : ∀ left right, text = left ++ right →
      pattern.runs ⟨lastOr none left, right⟩ = []) : pattern.find? text = none := by
  rw [find?, findFrom_eq_head?, findAllFrom_eq_nil nowhere, List.head?_nil]

theorem Reads.find? {front : Text} (read : Reads pattern (lastOr none front) taken rest parts)
    (nowhere : ∀ left c right, front = left ++ c :: right →
      pattern.runs ⟨lastOr none left, c :: (right ++ (taken ++ rest))⟩ = []) :
    ∃ found, pattern.find? (front ++ (taken ++ rest)) = some found ∧ found.rest = rest ∧
      ∀ slot, found.part? slot = parts.lookup slot := by
  obtain ⟨found, here, ended, noted⟩ := read.at?
  refine ⟨found, ?_, ended, noted⟩
  rw [Pattern.find?, findFrom_pass nowhere, findFrom_of_at? here]

end Search

theorem Reads.find?_of_letter {front : Text} {letter : Char}
    (read : Reads pattern (lastOr none front) taken rest parts) (free : letter ∉ front)
    (starts : ∀ place stop, pattern.Passes place stop → place.rest.head? = some letter) :
    ∃ found, pattern.find? (front ++ (taken ++ rest)) = some found ∧ found.rest = rest ∧
      ∀ slot, found.part? slot = parts.lookup slot := by
  refine read.find? fun left c right same => runs_eq_nil fun stop passes => ?_
  have first : some c = some letter := starts _ stop passes
  simp [same, Option.some.inj first] at free

theorem Reads.partIn? {pattern : Pattern} {front taken rest : Text} {parts : List (Nat × Text)}
    (read : Reads pattern (lastOr none front) taken rest parts)
    (nowhere : ∀ left c right, front = left ++ c :: right →
      pattern.runs ⟨lastOr none left, c :: (right ++ (taken ++ rest))⟩ = []) (slot : Nat) :
    pattern.partIn? slot (front ++ (taken ++ rest)) = parts.lookup slot := by
  obtain ⟨found, here, _, noted⟩ := read.find? nowhere
  simp [Pattern.partIn?, here, noted]

theorem Reads.partIn?_start {pattern : Pattern} {taken rest : Text} {parts : List (Nat × Text)}
    (read : Reads pattern none taken rest parts) (slot : Nat) :
    pattern.partIn? slot (taken ++ rest) = parts.lookup slot := by
  obtain ⟨found, here, _, noted⟩ := read.at?
  simp [Pattern.partIn?, Pattern.find?, findFrom_of_at? here, noted]

def Needs (c : Char) (pattern : Pattern) : Prop :=
  ∀ place stop, pattern.Passes place stop → c ∈ place.rest

namespace Needs

variable {c : Char} {pattern first second : Pattern} {line : Text}

theorem text {word : Text} (member : c ∈ word) : Needs c (.text word) := by
  intro place stop passes
  obtain ⟨rest, found, _⟩ := passes_text.mp passes
  simp [found, member]

theorem left (needs : Needs c first) : Needs c (first ++ second) := by
  intro place stop passes
  obtain ⟨middle, before, _⟩ := passes_seq.mp passes
  exact needs place middle before

theorem right (needs : Needs c second) : Needs c (first ++ second) := by
  intro place stop passes
  obtain ⟨middle, before, after⟩ := passes_seq.mp passes
  exact before.suffix.mem (needs middle stop after)

theorem find?_eq_none (needs : Needs c pattern) (free : c ∉ line) : pattern.find? line = none := by
  refine Pattern.find?_eq_none fun left right same => runs_eq_nil fun stop passes => ?_
  have member := needs _ stop passes
  simp [same] at free
  exact free.2 member

theorem atStart?_eq_none (needs : Needs c pattern) (free : c ∉ line) :
    pattern.atStart? line = none := by
  have nowhere : pattern.runs ⟨none, line⟩ = [] :=
    runs_eq_nil fun stop passes => free (needs _ stop passes)
  simp [atStart?, at?, nowhere]

theorem partIn?_eq_none (needs : Needs c pattern) (free : c ∉ line) (slot : Nat) :
    pattern.partIn? slot line = none := by
  simp [partIn?, needs.find?_eq_none free]

end Needs

end Pattern

end RouteAtlas
