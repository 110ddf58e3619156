import RouteAtlas.Text.Basic

namespace RouteAtlas.Text

theorem trimEnd_cons (c : Char) (text : Text) :
    trimEnd (c :: text) =
      if (trimEnd text).isEmpty && isBlank c then [] else c :: trimEnd text := rfl

theorem exists_trimEnd_append (text : Text) :
    ∃ blanks, text = trimEnd text ++ blanks ∧ ∀ c ∈ blanks, isBlank c := by
  induction text with
  | nil => exact ⟨[], rfl, by simp⟩
  | cons c text ih =>
    obtain ⟨blanks, same, blank⟩ := ih
    rw [trimEnd_cons]
    split
    · rename_i ends
      simp only [Bool.and_eq_true, List.isEmpty_iff] at ends
      rw [ends.1, List.nil_append] at same
      refine ⟨c :: text, rfl, ?_⟩
      intro d member
      rcases List.mem_cons.mp member with rfl | member
      · exact ends.2
      · exact blank d (same ▸ member)
    · exact ⟨blanks, by rw [List.cons_append, ← same], blank⟩

theorem not_blank_of_getLast?_trimEnd {text : Text} {c : Char}
    (last : (trimEnd text).getLast? = some c) : isBlank c = false := by
  induction text with
  | nil => simp [trimEnd] at last
  | cons d text ih =>
    rw [trimEnd_cons] at last
    split at last
    · cases last
    · rename_i kept
      cases ends : trimEnd text with
      | nil =>
        simp only [ends, List.getLast?_singleton, Option.some.injEq] at last
        simpa [ends, ← last] using kept
      | cons e more =>
        rw [ends] at last ih
        exact ih (by simpa using last)

theorem trimEnd_eq_self {text : Text} (last : ∀ c, text.getLast? = some c → isBlank c = false) :
    trimEnd text = text := by
  induction text with
  | nil => rfl
  | cons c text ih =>
    rw [trimEnd_cons]
    cases text with
    | nil => simp [trimEnd, last c rfl]
    | cons d text =>
      have kept := ih fun e found => last e (by simpa using found)
      rw [kept]
      simp

/-- A text is its trimmed form with blanks around it. -/
theorem exists_append_trim_append (text : Text) : ∃ front back, text = front ++ trim text ++ back ∧
    (∀ c ∈ front, isBlank c) ∧ ∀ c ∈ back, isBlank c := by
  obtain ⟨back, same, blank⟩ := exists_trimEnd_append (trimStart text)
  refine ⟨text.takeWhile isBlank, back, ?_, ?_, blank⟩
  · rw [List.append_assoc, trim, ← same, trimStart, List.takeWhile_append_dropWhile]
  · intro c member
    exact List.all_eq_true.mp List.all_takeWhile c member

theorem exists_blanks_of_trim {line text : Text} (same : trim line = text) :
    ∃ front back, line = front ++ (text ++ back) ∧ (∀ c ∈ front, isBlank c) ∧
      ∀ c ∈ back, isBlank c := by
  obtain ⟨front, back, pieces, before, after⟩ := exists_append_trim_append line
  rw [same, List.append_assoc] at pieces
  exact ⟨front, back, pieces, before, after⟩

theorem mem_of_mem_trim {text : Text} {c : Char} (member : c ∈ trim text) : c ∈ text := by
  obtain ⟨front, back, same, _, _⟩ := exists_append_trim_append text
  rw [same]
  simp [member]

theorem not_blank_of_head?_trim {text : Text} {c : Char} (first : (trim text).head? = some c) :
    isBlank c = false := by
  have start : (trimStart text).head? = some c := by
    obtain ⟨back, same, _⟩ := exists_trimEnd_append (trimStart text)
    rw [same]
    cases kept : trimEnd (trimStart text) with
    | nil => simp [trim, kept] at first
    | cons d rest => simpa [trim, kept] using first
  have stops := List.head?_dropWhile_not isBlank text
  rw [show text.dropWhile isBlank = trimStart text from rfl, start] at stops
  simpa using stops

theorem trim_eq_self {text : Text} (first : ∀ c, text.head? = some c → isBlank c = false)
    (last : ∀ c, text.getLast? = some c → isBlank c = false) : trim text = text := by
  have start : trimStart text = text := by
    cases text with
    | nil => rfl
    | cons c text => simp [trimStart, first c rfl]
  rw [trim, start, trimEnd_eq_self last]

theorem head?_trim {front text : Text} {c : Char} (blank : ∀ d ∈ front, isBlank d)
    (first : text.head? = some c) (solid : isBlank c = false) :
    (trim (front ++ text)).head? = some c := by
  cases text with
  | nil => cases first
  | cons d rest =>
    cases first
    have start : trimStart (front ++ c :: rest) = c :: rest := by
      rw [trimStart, List.dropWhile_append_of_pos blank,
        List.dropWhile_cons_of_neg (by simp [solid])]
    rw [trim, start, trimEnd_cons]
    simp [solid]

/-- Trimming at the end stops at the latest in front of a text that ends with no blank. -/
theorem trimEnd_append {front text : Text}
    (last : ∀ c, (front ++ trimEnd text).getLast? = some c → isBlank c = false) :
    trimEnd (front ++ text) = front ++ trimEnd text := by
  induction front with
  | nil => rfl
  | cons c front ih =>
    have kept := ih fun d found => last d (by rw [List.cons_append, List.getLast?_cons, found]; rfl)
    rw [List.cons_append, trimEnd_cons, kept]
    cases rest : front ++ trimEnd text with
    | nil =>
      rw [List.cons_append, rest] at last ⊢
      simp [last c rfl]
    | cons d more => simp [rest]

section Solid

variable {lead : Text} {c : Char} (last : lead.getLast? = some c) (solid : isBlank c = false)
include last solid

theorem getLast?_trimStart : (trimStart lead).getLast? = some c := by
  rw [← List.takeWhile_append_dropWhile (p := isBlank) (l := lead), List.getLast?_append] at last
  rcases Option.or_eq_some_iff.mp last with here | ⟨_, front⟩
  · exact here
  · have blank := List.all_eq_true.mp List.all_takeWhile c (List.mem_of_getLast? front)
    rw [solid] at blank
    cases blank

theorem trim_eq_trimStart : trim lead = trimStart lead := by
  apply trimEnd_eq_self
  rw [getLast?_trimStart last solid]
  rintro d ⟨⟩
  exact solid

theorem trim_append (text : Text) : trim (lead ++ text) = trim lead ++ trimEnd text := by
  have ended := getLast?_trimStart last solid
  have start : trimStart (lead ++ text) = trimStart lead ++ text := by
    have filled : lead.dropWhile isBlank ≠ [] := by
      intro empty
      rw [trimStart, empty] at ended
      cases ended
    rw [trimStart, List.dropWhile_append, if_neg (by simpa using filled)]
    rfl
  rw [trim, start, trim_eq_trimStart last solid]
  apply trimEnd_append
  intro d found
  rw [List.getLast?_append, ended] at found
  rcases Option.or_eq_some_iff.mp found with here | ⟨_, same⟩
  · exact not_blank_of_getLast?_trimEnd here
  · cases same
    exact solid

end Solid

theorem exists_trimEnd_eq (text : Text) :
    ∃ front, (∀ c ∈ front, isBlank c) ∧ trimEnd text = front ++ trim text := by
  cases core : trim text with
  | nil =>
    obtain ⟨front, back, same, before, after⟩ := exists_append_trim_append text
    obtain ⟨blanks, split, _⟩ := exists_trimEnd_append text
    refine ⟨trimEnd text, ?_, (List.append_nil _).symm⟩
    intro c member
    have inside : c ∈ front ++ trim text ++ back := by
      rw [← same, split]
      exact List.mem_append_left blanks member
    rw [core, List.append_nil] at inside
    rcases List.mem_append.mp inside with first | last
    · exact before c first
    · exact after c last
  | cons d more =>
    refine ⟨text.takeWhile isBlank, List.all_eq_true.mp List.all_takeWhile, ?_⟩
    have cut : trimEnd (text.takeWhile isBlank ++ trimStart text) =
        text.takeWhile isBlank ++ trim text := by
      apply trimEnd_append
      intro c found
      rw [List.getLast?_append] at found
      rcases Option.or_eq_some_iff.mp found with here | ⟨empty, _⟩
      · exact not_blank_of_getLast?_trimEnd here
      · rw [List.getLast?_eq_none_iff, ← trim, core] at empty
        cases empty
    rwa [trimStart, List.takeWhile_append_dropWhile, core] at cut

theorem trim_of_blank {text : Text} (blank : ∀ c ∈ text, isBlank c) : trim text = [] := by
  have empty : trimStart (text ++ []) = [] := List.dropWhile_append_of_pos blank
  rw [List.append_nil] at empty
  rw [trim, empty]
  rfl

@[simp] theorem trim_trim (text : Text) : trim (trim text) = trim text :=
  trim_eq_self (fun _ => not_blank_of_head?_trim) (fun _ => not_blank_of_getLast?_trimEnd)

theorem contains_append (front needle back : Text) :
    contains (front ++ (needle ++ back)) needle = true := by
  induction front with
  | nil =>
    have starts : needle.isPrefixOf (needle ++ back) = true :=
      List.isPrefixOf_iff_prefix.mpr (List.prefix_append needle back)
    rw [List.nil_append]
    cases text : needle ++ back with
    | nil => simp [contains, (List.append_eq_nil_iff.mp text).1]
    | cons c rest =>
      rw [text] at starts
      simp [contains, starts]
  | cons c front ih => simp [contains, ih]

section Split

variable {separator : Char}

theorem append_cons_inj {left right rest more : Text} (free : separator ∉ left)
    (clear : separator ∉ right) (same : left ++ separator :: rest = right ++ separator :: more) :
    left = right ∧ rest = more := by
  induction left generalizing right with
  | nil =>
    cases right with
    | nil => exact ⟨rfl, (List.cons.inj same).2⟩
    | cons c right =>
      have first := (List.cons.inj same).1
      simp [first] at clear
  | cons c left ih =>
    cases right with
    | nil =>
      have first := (List.cons.inj same).1
      simp [first] at free
    | cons d right =>
      obtain ⟨rfl, tails⟩ := List.cons.inj same
      simp only [List.mem_cons, not_or] at free clear
      obtain ⟨rfl, rests⟩ := ih free.2 clear.2 tails
      exact ⟨rfl, rests⟩

theorem append_cons_inj_last {left right rest more : Text} (free : separator ∉ rest)
    (clear : separator ∉ more) (same : left ++ separator :: rest = right ++ separator :: more) :
    left = right ∧ rest = more := by
  have mirrored := congrArg List.reverse same
  simp only [List.reverse_append, List.reverse_cons, List.append_assoc,
    List.singleton_append] at mirrored
  obtain ⟨rests, lefts⟩ := append_cons_inj (by simpa using free) (by simpa using clear) mirrored
  exact ⟨List.reverse_inj.mp lefts, List.reverse_inj.mp rests⟩

theorem append_cons_inj_single {left right rest more : Text} (free : separator ∉ left)
    (clear : separator ∉ rest) (same : left ++ separator :: rest = right ++ separator :: more) :
    left = right ∧ rest = more := by
  have ended : separator ∉ more := by
    intro member
    have twice := congrArg (List.count separator) same
    have counted : 0 < more.count separator := List.count_pos_iff.mpr member
    simp only [List.count_append, List.count_cons_self, List.count_eq_zero_of_not_mem free,
      List.count_eq_zero_of_not_mem clear] at twice
    omega
  exact append_cons_inj_last clear ended same

theorem exists_of_append_eq_left {left right front rest : Text} (free : separator ∉ left)
    (same : left ++ right = front ++ separator :: rest) :
    ∃ more, front = left ++ more ∧ right = more ++ separator :: rest := by
  rcases List.append_eq_append_iff.mp same with ⟨more, longer, found⟩ | ⟨more, shorter, found⟩
  · exact ⟨more, longer, found⟩
  · cases more with
    | nil => exact ⟨[], by simpa using shorter.symm, by simpa using found.symm⟩
    | cons c more =>
      obtain ⟨rfl, _⟩ := List.cons.inj found
      simp [shorter] at free

theorem exists_of_append_eq_right {left right front rest : Text} (free : separator ∉ right)
    (same : left ++ right = front ++ separator :: rest) :
    ∃ more, left = front ++ separator :: more ∧ rest = more ++ right := by
  rcases List.append_eq_append_iff.mp same with ⟨more, longer, found⟩ | ⟨more, shorter, found⟩
  · simp [found] at free
  · cases more with
    | nil => simp [← show separator :: rest = right from found] at free
    | cons c more =>
      obtain ⟨rfl, ended⟩ := List.cons.inj found
      exact ⟨more, shorter, ended⟩

theorem afterLast_eq_self {text : Text} (free : separator ∉ text) :
    afterLast separator text = text := by
  have kept : (text.reverse ++ []).takeWhile (· ≠ separator) = text.reverse := by
    rw [List.takeWhile_append_of_pos, List.takeWhile_nil, List.append_nil]
    intro c member
    have differ : c ≠ separator := by
      rintro rfl
      exact free (List.mem_reverse.mp member)
    simpa using differ
  rw [List.append_nil] at kept
  rw [afterLast, kept, List.reverse_reverse]

theorem splitOn_cons_self (text : Text) :
    splitOn separator (separator :: text) = [] :: splitOn separator text := by
  simp [splitOn]

theorem splitOn_cons_of_ne {c : Char} (differ : c ≠ separator) (text : Text) :
    splitOn separator (c :: text) = pushFront c (splitOn separator text) := by
  simp [splitOn, differ]

theorem splitOn_ne_nil (text : Text) : splitOn separator text ≠ [] := by
  cases text with
  | nil => simp [splitOn]
  | cons c text =>
    by_cases same : c = separator
    · rw [same, splitOn_cons_self]
      simp
    · rw [splitOn_cons_of_ne same]
      cases splitOn separator text <;> simp [pushFront]

theorem not_mem_of_mem_splitOn {text piece : Text} (member : piece ∈ splitOn separator text) :
    separator ∉ piece := by
  induction text generalizing piece with
  | nil =>
    have empty : piece = [] := by simpa [splitOn] using member
    simp [empty]
  | cons c text ih =>
    by_cases same : c = separator
    · rw [same, splitOn_cons_self] at member
      rcases List.mem_cons.mp member with rfl | member
      · simp
      · exact ih member
    · rw [splitOn_cons_of_ne same] at member
      cases pieces : splitOn separator text with
      | nil => exact absurd pieces (splitOn_ne_nil text)
      | cons head tail =>
        rw [pieces, pushFront] at member
        rw [pieces] at ih
        rcases List.mem_cons.mp member with rfl | member
        · have free : separator ∉ head := ih (by simp)
          simp [free, Ne.symm same]
        · exact ih (by simp [member])

theorem mem_of_mem_splitOn {text piece : Text} {c : Char} (member : piece ∈ splitOn separator text)
    (inside : c ∈ piece) : c ∈ text := by
  induction text generalizing piece with
  | nil =>
    obtain rfl := List.mem_singleton.mp member
    exact inside
  | cons d text ih =>
    by_cases same : d = separator
    · rw [same, splitOn_cons_self] at member
      rcases List.mem_cons.mp member with rfl | later
      · cases inside
      · exact List.mem_cons_of_mem d (ih later inside)
    · rw [splitOn_cons_of_ne same] at member
      cases pieces : splitOn separator text with
      | nil => exact absurd pieces (splitOn_ne_nil text)
      | cons head tail =>
        rw [pieces] at member ih
        rcases List.mem_cons.mp member with rfl | later
        · rcases List.mem_cons.mp inside with rfl | deeper
          · exact List.mem_cons_self
          · exact List.mem_cons_of_mem d (ih List.mem_cons_self deeper)
        · exact List.mem_cons_of_mem d (ih (List.mem_cons_of_mem head later) inside)

theorem splitOn_append_cons {piece : Text} (free : separator ∉ piece) (rest : Text) :
    splitOn separator (piece ++ separator :: rest) = piece :: splitOn separator rest := by
  induction piece with
  | nil => exact splitOn_cons_self rest
  | cons c piece ih =>
    simp only [List.mem_cons, not_or] at free
    rw [List.cons_append, splitOn_cons_of_ne (Ne.symm free.1), ih free.2, pushFront]

theorem splitOn_append_separator (left right : Text) :
    splitOn separator (left ++ separator :: right) =
      splitOn separator left ++ splitOn separator right := by
  induction left with
  | nil => exact splitOn_cons_self right
  | cons c left ih =>
    by_cases same : c = separator
    · subst same
      rw [List.cons_append, splitOn_cons_self, ih, splitOn_cons_self, List.cons_append]
    · rw [List.cons_append, splitOn_cons_of_ne same, ih, splitOn_cons_of_ne same]
      cases pieces : splitOn separator left with
      | nil => exact absurd pieces (splitOn_ne_nil left)
      | cons head tail => rfl

theorem splitOn_eq_self {piece : Text} (free : separator ∉ piece) :
    splitOn separator piece = [piece] := by
  induction piece with
  | nil => rfl
  | cons c piece ih =>
    simp only [List.mem_cons, not_or] at free
    rw [splitOn_cons_of_ne (Ne.symm free.1), ih free.2, pushFront]

theorem splitOn_join {pieces : List Text} (filled : pieces ≠ [])
    (free : ∀ piece ∈ pieces, separator ∉ piece) :
    splitOn separator (join [separator] pieces) = pieces := by
  induction pieces with
  | nil => exact absurd rfl filled
  | cons piece rest ih =>
    have here := free piece (by simp)
    cases rest with
    | nil => exact splitOn_eq_self here
    | cons next rest =>
      have later := ih (by simp) fun other member => free other (by simp [member])
      rw [join, List.append_assoc, List.singleton_append, splitOn_append_cons here, later]
      simp

theorem join_splitOn (separator : Char) (text : Text) :
    join [separator] (splitOn separator text) = text := by
  induction text with
  | nil => rfl
  | cons c text ih =>
    cases pieces : splitOn separator text with
    | nil => exact absurd pieces (splitOn_ne_nil text)
    | cons piece rest =>
      rw [pieces] at ih
      by_cases same : c = separator
      · rw [same, splitOn_cons_self, pieces, join, ih]
        · rfl
        · simp
      · rw [splitOn_cons_of_ne same, pieces, pushFront]
        cases rest with
        | nil => rw [← ih]; rfl
        | cons next rest => rw [← ih]; rfl

theorem exists_head?_splitOn {c : Char} (differ : c ≠ separator) (text : Text) :
    ∃ piece, (splitOn separator (c :: text)).head? = some (c :: piece) := by
  rw [splitOn_cons_of_ne differ]
  cases splitOn separator text with
  | nil => exact ⟨[], rfl⟩
  | cons piece rest => exact ⟨piece, rfl⟩

theorem exists_getLast?_splitOn {text ending : Text} (free : separator ∉ ending)
    (ends : ending <:+ text) :
    ∃ last, (splitOn separator text).getLast? = some last ∧ ending <:+ last := by
  obtain ⟨front, rfl⟩ := ends
  induction front with
  | nil => exact ⟨ending, by rw [List.nil_append, splitOn_eq_self free]; rfl, List.suffix_refl ending⟩
  | cons c front ih =>
    obtain ⟨last, found, inside⟩ := ih
    rw [List.cons_append]
    cases pieces : splitOn separator (front ++ ending) with
    | nil => exact absurd pieces (splitOn_ne_nil _)
    | cons piece rest =>
      rw [pieces] at found
      by_cases same : c = separator
      · rw [same, splitOn_cons_self, pieces]
        exact ⟨last, by simpa using found, inside⟩
      · rw [splitOn_cons_of_ne same, pieces, pushFront]
        cases rest with
        | nil =>
          obtain rfl : piece = last := by simpa using found
          exact ⟨c :: piece, rfl, inside.trans (List.suffix_cons c piece)⟩
        | cons next rest => exact ⟨last, by simpa using found, inside⟩

theorem join_cons {pieces : List Text} (more : pieces ≠ []) (piece : Text) :
    join [separator] (piece :: pieces) = piece ++ separator :: join [separator] pieces := by
  cases pieces with
  | nil => exact absurd rfl more
  | cons next pieces => simp [join]

theorem dropReturn_prefix (line : Text) : dropReturn line <+: line := by
  unfold dropReturn
  split
  · exact List.dropLast_prefix line
  · exact List.prefix_refl line

theorem exists_of_mem_linesOfPieces {pieces : List Text} {line : Text}
    (member : line ∈ linesOfPieces pieces) :
    ∃ front back, join ['\n'] pieces = front ++ (line ++ back) ∧
      ∀ c, front.getLast? = some c → c = '\n' := by
  induction pieces with
  | nil => cases member
  | cons piece pieces ih =>
    cases pieces with
    | nil =>
      rw [linesOfPieces] at member
      split at member
      · cases member
      · obtain rfl := List.mem_singleton.mp member
        exact ⟨[], [], by simp [join], by simp⟩
    | cons next pieces =>
      rcases List.mem_cons.mp member with rfl | later
      · obtain ⟨ending, same⟩ := dropReturn_prefix piece
        refine ⟨[], ending ++ '\n' :: join ['\n'] (next :: pieces), ?_, by simp⟩
        rw [join_cons (by simp), List.nil_append, ← List.append_assoc, same]
      · obtain ⟨front, back, rest, ends⟩ := ih later
        refine ⟨piece ++ '\n' :: front, back, ?_, ?_⟩
        · rw [join_cons (by simp), rest]
          simp
        · intro c last
          rw [List.getLast?_append, List.getLast?_cons] at last
          cases ended : front.getLast? with
          | none =>
            rw [ended] at last
            exact (Option.some.inj last).symm
          | some d =>
            rw [ended] at last
            exact ends c (ended.trans last)

theorem exists_of_mem_lines {text line : Text} (member : line ∈ lines text) :
    ∃ front back, text = front ++ (line ++ back) ∧ ∀ c, front.getLast? = some c → c = '\n' := by
  obtain ⟨front, back, same, ends⟩ := exists_of_mem_linesOfPieces member
  exact ⟨front, back, (join_splitOn '\n' text).symm.trans same, ends⟩

end Split

end RouteAtlas.Text
