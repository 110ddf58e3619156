import RouteAtlas.Code.Place

namespace RouteAtlas

theorem isCommentOrBlank_eq_false {text : Text} {c : Char} (first : text.head? = some c)
    (other : c ≠ '/' ∧ c ≠ '*' ∧ c ≠ '#') : isCommentOrBlank text = false := by
  cases text with
  | nil => cases first
  | cons d rest =>
    cases first
    simp [isCommentOrBlank, Text.startsWith, List.isPrefixOf, other, Ne.symm other.1]

namespace Place

variable {σ : Type} {read : σ → Place → σ} {above left right lines below : List Text}
  {before middle after : σ}

/-- Between what stands above and below, the lines take the reader from one state to another. -/
def Leads (read : σ → Place → σ) (above lines below : List Text) (before after : σ) : Prop :=
  (allFrom above (lines ++ below)).foldl read before =
    (allFrom (lines.reverse ++ above) below).foldl read after

theorem Leads.nil : Leads read above [] below before before := rfl

theorem Leads.single {line : Text} (step : read before ⟨above, line, below⟩ = after) :
    Leads read above [line] below before after := by
  simp [Leads, allFrom, step]

theorem Leads.append (first : Leads read above left (right ++ below) before middle)
    (second : Leads read (left.reverse ++ above) right below middle after) :
    Leads read above (left ++ right) below before after := by
  unfold Leads at first second ⊢
  rw [List.append_assoc, first, second, List.reverse_append, List.append_assoc]

theorem Leads.foldl_all (leads : Leads read [] lines [] before after) :
    (all lines).foldl read before = after := by
  unfold Leads at leads
  rw [List.append_nil] at leads
  exact leads

section Numbers

theorem length_le_number_of_mem_allFrom {place : Place} (member : place ∈ allFrom above lines) :
    above.length ≤ place.number := by
  induction lines generalizing above with
  | nil => cases member
  | cons line lines ih =>
    rcases List.mem_cons.mp member with rfl | later
    · exact Nat.le_refl _
    · have bound := ih later
      rw [List.length_cons] at bound
      omega

theorem pairwise_number_allFrom (above lines : List Text) :
    (allFrom above lines).Pairwise fun place other => place.number < other.number := by
  induction lines generalizing above with
  | nil => exact .nil
  | cons line lines ih =>
    apply List.Pairwise.cons _ (ih (line :: above))
    intro other member
    exact length_le_number_of_mem_allFrom member

theorem foldl_allFrom_induction (above lines : List Text) (holds : Nat → σ → Prop)
    (step : ∀ place state, holds place.number state → holds (place.number + 1) (read state place))
    (start : holds above.length before) :
    holds (above.length + lines.length) ((allFrom above lines).foldl read before) := by
  induction lines generalizing above before with
  | nil => exact start
  | cons line lines ih =>
    have rest := ih (line :: above) (step ⟨above, line, lines⟩ before start)
    simp only [List.length_cons, allFrom, List.foldl_cons] at rest ⊢
    rw [Nat.add_right_comm] at rest
    exact rest

theorem foldl_all_induction (holds : Nat → σ → Prop) (start : holds 0 before)
    (step : ∀ place state, holds place.number state → holds (place.number + 1) (read state place)) :
    holds lines.length ((all lines).foldl read before) := by
  have done := foldl_allFrom_induction [] lines holds step start
  rwa [List.length_nil, Nat.zero_add] at done

theorem number_of_getElem?_allFrom {count : Nat} {place : Place}
    (here : (allFrom above lines)[count]? = some place) : place.number = above.length + count := by
  induction lines generalizing above count with
  | nil => cases here
  | cons line lines ih =>
    cases count with
    | zero =>
      cases here
      rfl
    | succ count =>
      have later := ih here
      rw [List.length_cons] at later
      omega

theorem getElem?_number_of_mem {place : Place} (member : place ∈ all lines) :
    (all lines)[place.number]? = some place := by
  obtain ⟨count, here⟩ := List.mem_iff_getElem?.mp member
  have same := number_of_getElem?_allFrom here
  rw [List.length_nil, Nat.zero_add] at same
  rwa [same]

theorem number_lt_of_mem_all {place : Place} (member : place ∈ all lines) :
    place.number < lines.length := by
  obtain ⟨inside, _⟩ := List.getElem?_eq_some_iff.mp (getElem?_number_of_mem member)
  rwa [all, length_allFrom] at inside

theorem map_line_allFrom (above lines : List Text) : (allFrom above lines).map (·.line) = lines := by
  induction lines generalizing above with
  | nil => rfl
  | cons line lines ih => rw [allFrom, List.map_cons, ih (line :: above)]

theorem mem_allFrom_iff {place : Place} : place ∈ allFrom above lines ↔
    ∃ front, lines = front ++ place.line :: place.below ∧ place.above = front.reverse ++ above := by
  induction lines generalizing above with
  | nil => simp [allFrom]
  | cons line lines ih =>
    rw [allFrom, List.mem_cons, ih]
    constructor
    · rintro (rfl | ⟨front, same, before⟩)
      · exact ⟨[], rfl, rfl⟩
      · exact ⟨line :: front, congrArg (line :: ·) same, by simp [before]⟩
    · rintro ⟨front, same, before⟩
      cases front with
      | nil =>
        obtain ⟨rfl, rfl⟩ := List.cons.inj same
        obtain ⟨_, _, _⟩ := place
        exact .inl (congrArg (Place.mk · _ _) before)
      | cons first front =>
        obtain ⟨rfl, rest⟩ := List.cons.inj same
        exact .inr ⟨front, rest, by simp [before]⟩

theorem mem_all_iff {place : Place} :
    place ∈ all lines ↔ lines = place.above.reverse ++ place.line :: place.below := by
  rw [all, mem_allFrom_iff]
  constructor
  · rintro ⟨front, same, before⟩
    simpa [before] using same
  · exact fun same => ⟨place.above.reverse, same, by simp⟩

theorem exists_between {first second : Place} (member : first ∈ all lines) (present : second ∈ all lines)
    (earlier : first.number < second.number) : ∃ between,
      second.above.reverse = first.above.reverse ++ first.line :: between ∧
        first.below = between ++ second.line :: second.below := by
  have same : first.above.reverse ++ first.line :: first.below =
      second.above.reverse ++ second.line :: second.below :=
    (mem_all_iff.mp member).symm.trans (mem_all_iff.mp present)
  have shorter : first.above.length < second.above.length := earlier
  rcases List.append_eq_append_iff.mp same with ⟨more, longer, found⟩ | ⟨more, longer, _⟩
  · cases more with
    | nil =>
      have sizes := congrArg List.length longer
      simp only [List.length_append, List.length_reverse, List.length_nil] at sizes
      omega
    | cons line between =>
      obtain ⟨rfl, below⟩ := List.cons.inj found
      exact ⟨between, longer, below⟩
  · have sizes := congrArg List.length longer
    simp only [List.length_append, List.length_reverse] at sizes
    omega

theorem number_of_between {first second : Place} {between : List Text}
    (above : second.above.reverse = first.above.reverse ++ first.line :: between) :
    second.number = first.number + between.length + 1 := by
  have sizes := congrArg List.length above
  simp only [List.length_append, List.length_reverse, List.length_cons] at sizes
  exact sizes

theorem getElem?_line {place : Place} (member : place ∈ all lines) :
    lines[place.number]? = some place.line := by
  rw [← map_line_allFrom [] lines, List.getElem?_map]
  exact congrArg (Option.map (·.line)) (getElem?_number_of_mem member)

theorem getElem?_below {place : Place} (member : place ∈ all lines) (count : Nat) :
    place.below[count]? = lines[place.number + 1 + count]? := by
  conv => rhs; rw [mem_all_iff.mp member]
  rw [List.getElem?_append_right (by rw [List.length_reverse, number]; omega), List.length_reverse,
    number, show place.above.length + 1 + count - place.above.length = count + 1 by omega,
    List.getElem?_cons_succ]

theorem exists_of_getElem? {number : Nat} {line : Text} (here : lines[number]? = some line) :
    ∃ place ∈ all lines, place.number = number ∧ place.line = line := by
  rw [← map_line_allFrom [] lines, List.getElem?_map] at here
  obtain ⟨place, found, same⟩ := Option.map_eq_some_iff.mp here
  have numbered := number_of_getElem?_allFrom found
  rw [List.length_nil, Nat.zero_add] at numbered
  exact ⟨place, List.mem_of_getElem? found, numbered, same⟩

theorem forall_take_below_iff {place : Place} (member : place ∈ all lines) (count : Nat)
    {holds : Text → Prop} : (∀ line ∈ place.below.take count, holds line) ↔
      ∀ other ∈ all lines, place.number < other.number → other.number ≤ place.number + count →
        holds other.line := by
  constructor
  · intro each other present after near
    refine each _ (List.mem_iff_getElem?.mpr ⟨other.number - place.number - 1, ?_⟩)
    rw [List.getElem?_take_of_lt (by omega), getElem?_below member,
      show place.number + 1 + (other.number - place.number - 1) = other.number by omega]
    exact getElem?_line present
  · intro each line inside
    obtain ⟨index, here⟩ := List.mem_iff_getElem?.mp inside
    rw [List.getElem?_take] at here
    split at here
    · rw [getElem?_below member] at here
      obtain ⟨other, present, numbered, rfl⟩ := exists_of_getElem? here
      exact each other present (by omega) (by omega)
    · cases here

theorem eq_of_number_eq {place other : Place} (member : place ∈ all lines)
    (present : other ∈ all lines) (same : place.number = other.number) : place = other := by
  have here := getElem?_number_of_mem member
  rw [same, getElem?_number_of_mem present] at here
  exact (Option.some.inj here).symm

theorem foldl_take_succ (before : σ) {place : Place} (member : place ∈ all lines) :
    ((all lines).take (place.number + 1)).foldl read before =
      read (((all lines).take place.number).foldl read before) place := by
  rw [List.take_add_one, getElem?_number_of_mem member, List.foldl_append]
  rfl

theorem foldl_all_induction_of_mem (lines : List Text) (holds : Nat → σ → Prop) (start : holds 0 before)
    (step : ∀ place ∈ all lines, ∀ state, holds place.number state →
      holds (place.number + 1) (read state place)) :
    holds lines.length ((all lines).foldl read before) := by
  have each : ∀ count ≤ (all lines).length,
      holds count (((all lines).take count).foldl read before) := by
    intro count inside
    induction count with
    | zero => exact start
    | succ count ih =>
      have here : (all lines)[count]? = some (all lines)[count] := List.getElem?_eq_getElem inside
      have number := number_of_getElem?_allFrom here
      rw [List.length_nil, Nat.zero_add] at number
      have next := step _ (List.getElem_mem inside) _ (number ▸ ih (by omega))
      rw [number] at next
      rwa [List.take_add_one, here, List.foldl_append]
  have done := each _ (Nat.le_refl _)
  rwa [List.take_length, all, length_allFrom] at done

end Numbers

section Search

variable {α ι : Type} {find : Place → List α} {found more : List α}

/-- Between what stands above and below, the search finds this on the lines. -/
def Gives (find : Place → List α) (above lines below : List Text) (found : List α) : Prop :=
  (allFrom above (lines ++ below)).flatMap find =
    found ++ (allFrom (lines.reverse ++ above) below).flatMap find

theorem Gives.nil : Gives find above [] below [] := rfl

theorem Gives.single {line : Text} (here : find ⟨above, line, below⟩ = found) :
    Gives find above [line] below found := by
  simp [Gives, allFrom, here]

theorem Gives.append (first : Gives find above left (right ++ below) found)
    (second : Gives find (left.reverse ++ above) right below more) :
    Gives find above (left ++ right) below (found ++ more) := by
  unfold Gives at first second ⊢
  rw [List.append_assoc, first, second, List.reverse_append, List.append_assoc, List.append_assoc]

theorem Gives.none (nothing : ∀ line ∈ lines, ∀ above below, find ⟨above, line, below⟩ = []) :
    Gives find above lines below [] := by
  induction lines generalizing above with
  | nil => exact .nil
  | cons line lines ih =>
    have rest : Gives find ([line].reverse ++ above) lines below [] := ih fun other member =>
      nothing other (List.mem_cons_of_mem line member)
    exact (Gives.single (nothing line List.mem_cons_self above (lines ++ below))).append rest

/-- What is found on the lines of some items, when it depends on nothing below an item but on where the
next one starts. -/
theorem Gives.flatMap {linesOf : ι → List Text} {foundOf : ι → List α} (Fits : List Text → Prop)
    (starts : ∀ item below, Fits (linesOf item ++ below))
    (each : ∀ item above below, Fits below → Gives find above (linesOf item) below (foundOf item))
    (items : List ι) (fits : Fits below) :
    Gives find above (items.flatMap linesOf) below (items.flatMap foundOf) := by
  induction items generalizing above with
  | nil => exact .nil
  | cons item items ih =>
    -- only the last item looks at what stands below all of them
    have next : Fits (items.flatMap linesOf ++ below) := by
      cases items with
      | nil => exact fits
      | cons other items =>
        rw [List.flatMap_cons, List.append_assoc]
        exact starts other _
    exact (each item above _ next).append ih

theorem pairwise_flatMap_all {order : α → α → Prop} (lines : List Text)
    (within : ∀ place, (find place).Pairwise order)
    (across : ∀ place other, place.number < other.number → ∀ a ∈ find place, ∀ b ∈ find other,
      order a b) : ((all lines).flatMap find).Pairwise order := by
  rw [List.pairwise_flatMap]
  constructor
  · exact fun place _ => within place
  · apply (pairwise_number_allFrom [] lines).imp
    intro place other earlier a found b more
    exact across place other earlier a found b more

theorem Gives.flatMap_all (gives : Gives find [] lines [] found) :
    (all lines).flatMap find = found := by
  unfold Gives at gives
  rw [List.append_nil] at gives
  simpa [allFrom, all] using gives

end Search

end Place

end RouteAtlas
