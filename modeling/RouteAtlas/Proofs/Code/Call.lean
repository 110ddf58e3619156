import RouteAtlas.Code.Call
import RouteAtlas.Proofs.Text.Pattern
import RouteAtlas.Proofs.Text.Pieces

namespace RouteAtlas

def Inert (text : Text) : Prop :=
  ∀ rest, CallState.opened.scanLine (text ++ rest) = CallState.opened.scanLine rest

def CallState.marks : List Char := ['"', '\'', '(', ')']

namespace Inert

theorem nil : Inert [] := fun _ => rfl

theorem cons {c : Char} {text : Text} (plain : c ∉ CallState.marks) (inert : Inert text) :
    Inert (c :: text) := by
  intro rest
  simp only [CallState.marks, List.mem_cons, List.not_mem_nil, or_false, not_or] at plain
  obtain ⟨double, single, opens, closes⟩ := plain
  have stays : CallState.opened.step c = CallState.opened := by
    simp [CallState.opened, CallState.step, double, single, opens, closes]
  have goes : CallState.opened.isClosedBy c = false := by
    simp [CallState.opened, CallState.isClosedBy, closes]
  simp only [List.cons_append, CallState.scanLine, goes, stays, Bool.false_eq_true, if_false]
  exact inert rest

theorem append {left right : Text} (first : Inert left) (second : Inert right) :
    Inert (left ++ right) := by
  intro rest
  rw [List.append_assoc, first, second]

theorem of_accepted {accepts : Char → Bool} {text : Text} (inside : ∀ c ∈ text, accepts c)
    (outside : CallState.marks.all fun c => !accepts c) : Inert text := by
  induction text with
  | nil => exact nil
  | cons c text ih =>
    refine cons ?_ (ih fun d member => inside d (by simp [member]))
    intro mark
    have other := List.all_eq_true.mp outside c mark
    simp [inside c (by simp)] at other

theorem of_plain {text : Text} (plain : text.all fun c => !CallState.marks.contains c) :
    Inert text :=
  of_accepted (List.all_eq_true.mp plain) (by decide)

theorem quoted {quote : Char} {text : Text} (opens : quote = '"' ∨ quote = '\'')
    (inside : ∀ c ∈ text, c ≠ quote ∧ c ≠ '\\') : Inert (quote :: (text ++ [quote])) := by
  intro rest
  have closes : CallState.scanLine ⟨1, some quote, false⟩ (text ++ quote :: rest) =
      CallState.opened.scanLine rest := by
    induction text with
    | nil =>
      have other : quote ≠ '\\' := by
        rcases opens with rfl | rfl <;> decide
      simp [CallState.scanLine, CallState.isClosedBy, CallState.step, other, CallState.opened]
    | cons c text ih =>
      obtain ⟨differ, plain⟩ := inside c (by simp)
      have later := ih fun d member => inside d (by simp [member])
      simpa [CallState.scanLine, CallState.isClosedBy, CallState.step, differ, plain] using later
  have starts : CallState.opened.isClosedBy quote = false ∧
      CallState.opened.step quote = ⟨1, some quote, false⟩ := by
    rcases opens with rfl | rfl <;> decide
  simpa [CallState.scanLine, starts] using closes

end Inert

namespace Call

variable {gap arguments text rest front back : Text} {below : List Text}

theorem read?_eq_some (blank : ∀ c ∈ gap, isBlank c) (inert : Inert arguments) :
    read? (gap ++ '(' :: (arguments ++ ')' :: rest)) below = some ⟨arguments, 0, rest⟩ := by
  have opens : Text.trimStart (gap ++ '(' :: (arguments ++ ')' :: rest)) =
      '(' :: (arguments ++ ')' :: rest) :=
    dropWhile_append_eq blank (by rintro c ⟨⟩; decide)
  have closes : CallState.opened.scanLine (arguments ++ ')' :: rest) = .ok rest := by
    rw [inert]
    rfl
  have taken : textBefore (arguments ++ ')' :: rest) rest = arguments := by
    have length : (arguments ++ ')' :: rest).length - rest.length - 1 = arguments.length := by
      simp
      omega
    rw [textBefore, length, List.take_left]
  unfold read?
  rw [opens]
  cases below.take (maxLines - 1) <;> simp [scan, closes, taken]

theorem read?_of_blank (blank : ∀ c ∈ text, isBlank c) : read? text below = none := by
  have empty : Text.trimStart (text ++ []) = [] := List.dropWhile_append_of_pos blank
  rw [List.append_nil] at empty
  simp [read?, empty]

theorem exists_paren_of_read? {call : Call} (found : read? text below = some call) :
    ∃ gap more, text = gap ++ '(' :: more ∧ ∀ c ∈ gap, isBlank c := by
  unfold read? at found
  split at found
  · rename_i more opens
    refine ⟨text.takeWhile isBlank, more, ?_, List.all_eq_true.mp List.all_takeWhile⟩
    rw [← opens]
    exact List.takeWhile_append_dropWhile.symm
  · cases found

theorem text_eq_of_read? {call : Call}
    (suffix : text <:+ front ++ '(' :: (arguments ++ ')' :: back)) (before : '(' ∉ front)
    (after : '(' ∉ arguments ++ ')' :: back) (inert : Inert arguments)
    (found : read? text below = some call) : call.text = arguments := by
  obtain ⟨gap, more, rfl, blank⟩ := exists_paren_of_read? found
  obtain ⟨lead, same⟩ := suffix
  have split : front ++ '(' :: (arguments ++ ')' :: back) = (lead ++ gap) ++ '(' :: more := by
    simpa using same.symm
  obtain ⟨_, rfl⟩ := Text.append_cons_inj_single before after split
  rw [read?_eq_some blank inert] at found
  cases found
  rfl

end Call

end RouteAtlas
