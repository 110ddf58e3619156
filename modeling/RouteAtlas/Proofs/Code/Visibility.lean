import RouteAtlas.Code.Annotations
import RouteAtlas.Proofs.Text.Pattern
import RouteAtlas.Proofs.Text.Pieces

namespace RouteAtlas

open Pattern

def visibilityWords : List Text := ["public", "private", "protected"]

/-- No word goes on from one text into the next. -/
def BreaksWord (left right : Text) : Prop :=
  wordAt left.getLast? = false ∨ wordAt right.head? = false

theorem lastOr_none (text : Text) : lastOr none text = text.getLast? := Option.or_none

theorem breaksWord_of_blank {front : Text} (blank : ∀ c ∈ front, isBlank c) (rest : Text) :
    BreaksWord front rest := by
  have last := wordAt_lastOr_blank blank
  rw [lastOr_none] at last
  exact .inl last

section Visibility

variable {lead code text right : Text} {place stop : Cursor} {before : Option Char}

theorem isWord_of_mem_visibilityWords {word : Text} (listed : word ∈ visibilityWords) :
    word ≠ [] ∧ ∀ c ∈ word, isWord c := by
  have each : ∀ word ∈ visibilityWords, word ≠ [] ∧ word.all isWord := by decide
  obtain ⟨filled, inside⟩ := each word listed
  exact ⟨filled, List.all_eq_true.mp inside⟩

theorem wordAt_head?_of_mem_visibilityWords {word : Text} (listed : word ∈ visibilityWords)
    (rest : Text) : wordAt (word ++ rest).head? = true := by
  obtain ⟨filled, inside⟩ := isWord_of_mem_visibilityWords listed
  cases word with
  | nil => exact absurd rfl filled
  | cons c word => exact inside c List.mem_cons_self

theorem passes_visibilityPattern : visibilityPattern.Passes place stop ↔
    ∃ word ∈ visibilityWords, place.rest = word ++ stop.rest ∧ wordAt place.before = false ∧
      wordAt stop.rest.head? = false ∧ stop.before = lastOr place.before word := by
  have edges : ∀ word ∈ visibilityWords, ∀ rest, wordAt (word ++ rest).head? = true ∧
      wordAt (lastOr place.before word) = true := by
    intro word listed rest
    obtain ⟨filled, inside⟩ := isWord_of_mem_visibilityWords listed
    exact ⟨wordAt_head?_of_mem_visibilityWords listed rest,
      wordAt_lastOr_word place.before filled inside⟩
  simp only [visibilityPattern, passes_seq, passes_boundary, passes_anyOf]
  constructor
  · rintro ⟨_, ⟨_, ⟨starts, rfl⟩, word, listed, spelled, last⟩, ends, rfl⟩
    obtain ⟨first, whole⟩ := edges word listed stop.rest
    rw [spelled, first] at starts
    rw [last, whole] at ends
    exact ⟨word, listed, spelled, by simpa using starts, by simpa using ends.symm, last⟩
  · rintro ⟨word, listed, spelled, starts, ends, last⟩
    obtain ⟨first, whole⟩ := edges word listed stop.rest
    refine ⟨stop, ⟨place, ⟨?_, rfl⟩, word, listed, spelled, last⟩, ?_, rfl⟩
    · rw [spelled, first, starts]
      decide
    · rw [last, whole, ends]
      decide

theorem wordAt_of_afterVisibility?_eq_none (silent : afterVisibility? text = none)
    {left word right : Text} (listed : word ∈ visibilityWords) (split : text = left ++ (word ++ right))
    (starts : wordAt left.getLast? = false) : wordAt right.head? = true := by
  have nowhere := findFrom_eq_none_iff.mp (Option.map_eq_none_iff.mp silent) left (word ++ right) split
    ⟨lastOr (lastOr none left) word, right⟩
  simp only [passes_visibilityPattern, lastOr_none, not_exists, not_and] at nowhere
  cases ends : wordAt right.head? with
  | true => rfl
  | false => exact absurd rfl (nowhere word listed rfl starts ends)

theorem exists_of_afterVisibility? (found : afterVisibility? text = some right) :
    ∃ left, ∃ word ∈ visibilityWords, text = left ++ (word ++ right) ∧
      wordAt left.getLast? = false ∧ wordAt right.head? = false := by
  obtain ⟨result, here, rfl⟩ := Option.map_eq_some_iff.mp found
  obtain ⟨left, rest, split, passes⟩ := exists_passes_of_findFrom here
  obtain ⟨word, listed, rfl, starts, ends, _⟩ := passes_visibilityPattern.mp passes
  exact ⟨left, word, listed, split, lastOr_none left ▸ starts, ends⟩

theorem at?_visibilityPattern_of_head (edge : wordAt text.head? = false) :
    visibilityPattern.at? ⟨before, text⟩ = none := by
  have nowhere : visibilityPattern.runs ⟨before, text⟩ = [] := by
    refine runs_eq_nil fun stop passes => ?_
    obtain ⟨word, listed, spelled, _⟩ := passes_visibilityPattern.mp passes
    have starts := wordAt_head?_of_mem_visibilityWords listed stop.rest
    rw [← show text = word ++ stop.rest from spelled, edge] at starts
    cases starts
  rw [at?, nowhere]
  rfl

theorem map_rest_findFrom_visibility (edge : wordAt before = false ∨ wordAt text.head? = false) :
    (visibilityPattern.findFrom before text).map (·.rest) = afterVisibility? text := by
  have here : (visibilityPattern.at? ⟨before, text⟩).map (·.rest) =
      (visibilityPattern.at? ⟨none, text⟩).map (·.rest) := by
    rcases edge with fresh | other
    · have same : visibilityPattern.runs ⟨before, text⟩ = visibilityPattern.runs ⟨none, text⟩ := by
        have none : wordAt none = false := rfl
        simp only [visibilityPattern, runs_seq, runs_boundary, fresh, none]
        cases text with
        | nil => rfl
        | cons c rest => cases wordAt (c :: rest).head? <;> rfl
      simp only [at?, same, Option.map_map, Function.comp_def, Found.rest]
    · rw [at?_visibilityPattern_of_head other, at?_visibilityPattern_of_head other]
  cases text with
  | nil => exact here
  | cons c rest =>
    rw [afterVisibility?, find?, findFrom, findFrom]
    cases first : visibilityPattern.at? ⟨before, c :: rest⟩ with
    | none =>
      rw [first, Option.map_none, eq_comm, Option.map_eq_none_iff] at here
      rw [here]
    | some found =>
      rw [first, Option.map_some, eq_comm, Option.map_eq_some_iff] at here
      obtain ⟨other, also, same⟩ := here
      rw [also]
      simp [same]

/-- A front part without a visibility word does not count. -/
theorem afterVisibility?_append (silent : afterVisibility? lead = none) (breaks : BreaksWord lead code) :
    afterVisibility? (lead ++ code) = afterVisibility? code := by
  have passed : visibilityPattern.find? (lead ++ code) =
      visibilityPattern.findFrom (lastOr none lead) code := by
    refine findFrom_pass fun left c right split => runs_eq_nil fun stop passes => ?_
    obtain ⟨word, listed, spelled, starts, ends, _⟩ := passes_visibilityPattern.mp passes
    rw [lastOr_none] at starts
    replace spelled : (c :: right) ++ code = word ++ stop.rest := spelled
    -- a word that ends in the lead goes on behind it
    have goesOn : ∀ more, c :: right = word ++ more → wordAt more.head? = true := by
      intro more same
      exact wordAt_of_afterVisibility?_eq_none silent listed (by rw [split, same]) starts
    rcases List.append_eq_append_iff.mp spelled with ⟨more, longer, found⟩ | ⟨more, shorter, found⟩
    · cases more with
      | nil => cases goesOn [] (by simpa using longer.symm)
      | cons d more =>
        have inside := (isWord_of_mem_visibilityWords listed).2
        rw [longer] at inside
        have last : wordAt (lastOr (lastOr none left) (c :: right)) = true :=
          wordAt_lastOr_word _ (by simp) fun e member => inside e (List.mem_append_left _ member)
        have first : wordAt code.head? = true := by
          rw [found]
          exact inside d (by simp)
        rw [← lastOr_append, ← split, lastOr_none] at last
        rw [BreaksWord, last, first] at breaks
        simp at breaks
    · cases more with
      | nil => cases goesOn [] shorter
      | cons d more =>
        rw [found] at ends
        have goes := goesOn (d :: more) shorter
        rw [show wordAt (d :: more).head? = wordAt (d :: more ++ code).head? from rfl, ends] at goes
        cases goes
  rw [afterVisibility?, passed, map_rest_findFrom_visibility]
  rwa [lastOr_none]

def behindVisibility? (text : Text) : Option Text := afterVisibility? (Text.trim text)

theorem afterVisibility?_blank_append {front : Text} (blank : ∀ c ∈ front, isBlank c) (text : Text) :
    afterVisibility? (front ++ text) = afterVisibility? text := by
  have silent : afterVisibility? front = none := by
    cases found : afterVisibility? front with
    | none => rfl
    | some right =>
      obtain ⟨left, word, listed, split, _⟩ := exists_of_afterVisibility? found
      obtain ⟨filled, inside⟩ := isWord_of_mem_visibilityWords listed
      obtain ⟨c, member⟩ := List.exists_mem_of_ne_nil word filled
      have also := isWord_eq_false_of_isBlank (blank c (by simp [split, member]))
      rw [inside c member] at also
      cases also
  exact afterVisibility?_append silent (breaksWord_of_blank blank text)

theorem behindVisibility?_append {c : Char} (last : lead.getLast? = some c) (solid : isBlank c = false)
    (silent : behindVisibility? lead = none) (breaks : BreaksWord lead code) :
    behindVisibility? (lead ++ code) = behindVisibility? code := by
  -- the blanks in front of the code are kept when it stands behind the lead, and do not count either
  obtain ⟨front, blank, ended⟩ := Text.exists_trimEnd_eq code
  have edge : BreaksWord (Text.trim lead) (Text.trimEnd code) := by
    rcases breaks with closed | fresh
    · rw [BreaksWord, Text.trim_eq_trimStart last solid, Text.getLast?_trimStart last solid, ← last]
      exact .inl closed
    · obtain ⟨blanks, same, _⟩ := Text.exists_trimEnd_append code
      cases kept : Text.trimEnd code with
      | nil => exact .inr rfl
      | cons d more =>
        rw [same, kept] at fresh
        exact .inr fresh
  rw [behindVisibility?, Text.trim_append last solid, afterVisibility?_append silent edge, ended,
    afterVisibility?_blank_append blank, behindVisibility?]

end Visibility

section Names

variable {front right : Text}

theorem exists_of_passes_callNamePattern {place stop : Cursor}
    (passes : callNamePattern.Passes place stop) :
    ∃ name gap more, place.rest = name ++ (gap ++ '(' :: more) ∧ name ≠ [] ∧
      (∀ c ∈ name, isWord c) ∧ ∀ c ∈ gap, isBlank c := by
  simp only [callNamePattern, freshName, Pattern.name, blanks, passes_seq, passes_boundary,
    passes_capture, passes_many1, passes_many, passes_text] at passes
  obtain ⟨_, ⟨_, ⟨_, ⟨_, here⟩, filled, rfl⟩, rfl⟩, more, opens, _⟩ := passes
  rw [here] at filled opens
  refine ⟨place.rest.takeWhile isWord, (place.rest.dropWhile isWord).takeWhile isBlank, more, ?_,
    filled, List.all_eq_true.mp List.all_takeWhile, List.all_eq_true.mp List.all_takeWhile⟩
  replace opens : (place.rest.dropWhile isWord).dropWhile isBlank = '(' :: more := opens
  rw [← opens, List.takeWhile_append_dropWhile, List.takeWhile_append_dropWhile]

/-- A front part without parentheses declares nothing, unless it ends with the declared name. -/
theorem declaredName?_append (free : '(' ∉ front) (breaks : wordAt right.head? = false)
    (apart : (Text.trimStart right).head? ≠ some '(') :
    declaredName? (front ++ right) = declaredName? right := by
  have passed : callNamePattern.find? (front ++ right) =
      callNamePattern.findFrom (lastOr none front) right := by
    refine findFrom_pass fun left c rest split => runs_eq_nil fun stop passes => ?_
    obtain ⟨name, gap, more, spelled, _, word, blank⟩ := exists_of_passes_callNamePattern passes
    have clear : '(' ∉ c :: rest := by
      intro member
      rw [split] at free
      exact free (List.mem_append_right left member)
    obtain ⟨gone, reach, found⟩ := Text.exists_of_append_eq_left clear
      (show (c :: rest) ++ right = (name ++ gap) ++ '(' :: more by simpa using spelled)
    -- what stands between the front and the parenthesis is no part of the name, so it is blank
    have between : ∀ d ∈ gone, isBlank d := by
      rcases List.append_eq_append_iff.mp reach with ⟨more, _, ended⟩ | ⟨more, named, ended⟩
      · intro d member
        rw [ended] at blank
        exact blank d (List.mem_append_right more member)
      · cases more with
        | nil =>
          rw [ended]
          exact blank
        | cons d more =>
          rw [found, ended] at breaks
          have inside : isWord d = true := word d (by simp [named])
          simp [wordAt, inside] at breaks
    rw [found, Text.trimStart, dropWhile_append_eq between (by rintro d ⟨⟩; decide)] at apart
    exact apart rfl
  have fresh : callNamePattern.findFrom (lastOr none front) right = callNamePattern.find? right := by
    have nowhere : ∀ before, callNamePattern.runs ⟨before, right⟩ = [] := by
      refine fun before => runs_eq_nil fun stop passes => ?_
      obtain ⟨name, gap, more, spelled, filled, word, _⟩ := exists_of_passes_callNamePattern passes
      replace spelled : right = name ++ (gap ++ '(' :: more) := spelled
      cases name with
      | nil => exact filled rfl
      | cons c name =>
        rw [spelled] at breaks
        have inside : isWord c = true := word c List.mem_cons_self
        simp [wordAt, inside] at breaks
    cases right with
    | nil => rw [findFrom, find?, findFrom, at?, at?, nowhere, nowhere]; rfl
    | cons c rest => rw [findFrom, find?, findFrom, at?, at?, nowhere, nowhere]; rfl
  rw [declaredName?, partIn?, passed, fresh, declaredName?, partIn?]

end Names

end RouteAtlas
