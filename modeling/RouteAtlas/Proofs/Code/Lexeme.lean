import RouteAtlas.Proofs.Code.Brace
import RouteAtlas.Proofs.Code.Call
import RouteAtlas.Text.Basic

namespace RouteAtlas

structure Identifier where
  text : Text
  starts : text.head?.any isNameStart
  spelled : text.all isWord

def isRouteChar (c : Char) : Bool := isWord c || ['-', '{', '}', ':', '/', '<', '>'].contains c

theorem isWord_eq_false_of_not_routeChar {c : Char} (other : isRouteChar c = false) : isWord c = false := by
  simp only [isRouteChar, Bool.or_eq_false_iff] at other
  exact other.1

structure Fragment where
  text : Text
  spelled : text.all isRouteChar

def quoted (quote : Char) (text : Text) : Text := quote :: (text ++ [quote])

theorem quoted_append (quote : Char) (text rest : Text) :
    quoted quote text ++ rest = quote :: (text ++ quote :: rest) := by
  simp [quoted]

namespace Identifier

variable (name : Identifier)

theorem word : ∀ c ∈ name.text, isWord c := List.all_eq_true.mp name.spelled

theorem exists_cons : ∃ c rest, name.text = c :: rest ∧ isNameStart c := by
  have starts := name.starts
  cases text : name.text with
  | nil => simp [text] at starts
  | cons c rest =>
    rw [text] at starts
    exact ⟨c, rest, rfl, by simpa using starts⟩

theorem filled : name.text ≠ [] := by
  obtain ⟨c, rest, text, _⟩ := name.exists_cons
  simp [text]

theorem solid : ∀ c ∈ name.text, isBlank c = false :=
  fun c member => not_blank_of_isWord (name.word c member)

theorem not_mem {c : Char} (other : isWord c = false) : c ∉ name.text :=
  not_mem_of_accepted name.word other

theorem wordAt_head (rest : Text) : wordAt (name.text ++ rest).head? := by
  obtain ⟨c, more, text, _⟩ := name.exists_cons
  simpa [text, wordAt] using name.word c (by simp [text])

theorem head_not_blank (rest : Text) {c : Char} (first : (name.text ++ rest).head? = some c) :
    isBlank c = false := by
  have word := name.wordAt_head rest
  rw [first] at word
  exact not_blank_of_isWord word

theorem calm : Calm name.text := .of_accepted name.word (by decide)

theorem inert : Inert name.text := .of_accepted name.word (by decide)

theorem inert_quoted {quote : Char} (opens : quote = '"' ∨ quote = '\'') :
    Inert (quoted quote name.text) := by
  refine .quoted opens fun c member => ⟨?_, ?_⟩
  · rintro rfl
    have word := name.word c member
    rcases opens with rfl | rfl <;> revert word <;> decide
  · rintro rfl
    exact absurd (name.word '\\' member) (by decide)

end Identifier

namespace Fragment

variable (fragment : Fragment)

theorem routeChar : ∀ c ∈ fragment.text, isRouteChar c := List.all_eq_true.mp fragment.spelled

theorem not_mem {c : Char} (other : isRouteChar c = false) : c ∉ fragment.text :=
  not_mem_of_accepted fragment.routeChar other

theorem solid : ∀ c ∈ fragment.text, isBlank c = false := by
  intro c member
  have routeChar := fragment.routeChar c member
  simp only [isRouteChar, Bool.or_eq_true] at routeChar
  rcases routeChar with word | listed
  · exact not_blank_of_isWord word
  · have solid : ['-', '{', '}', ':', '/', '<', '>'].all fun d => !isBlank d := by decide
    simpa using List.all_eq_true.mp solid c (by simpa using listed)

variable {quote : Char} (opens : quote = '"' ∨ quote = '\'')
include opens

theorem quote_not_mem : quote ∉ fragment.text :=
  fragment.not_mem (by rcases opens with rfl | rfl <;> decide)

theorem plain : ∀ c ∈ fragment.text, c ≠ quote ∧ c ≠ '\\' := by
  intro c member
  refine ⟨?_, ?_⟩
  · rintro rfl
    exact fragment.quote_not_mem opens member
  · rintro rfl
    exact absurd member (fragment.not_mem (by decide))

theorem calm_quoted : Calm (quoted quote fragment.text) :=
  .quoted (by rcases opens with rfl | rfl <;> decide) (fragment.plain opens)

theorem inert_quoted : Inert (quoted quote fragment.text) := .quoted opens (fragment.plain opens)

end Fragment

section Literals

variable {quote : Char} {text : Text} (free : quote ∉ text) (rest : Text)
include free

theorem upToQuote?_append : upToQuote? quote (text ++ quote :: rest) = some text := by
  induction text with
  | nil => simp [upToQuote?]
  | cons c text ih =>
    simp only [List.mem_cons, not_or] at free
    simp [upToQuote?, Ne.symm free.1, ih free.2]

theorem firstLiteral?_quoted (opens : quote = '"' ∨ quote = '\'') :
    firstLiteral? (quoted quote text ++ rest) = some text := by
  rw [quoted_append, firstLiteral?, if_pos opens, upToQuote?_append free]

end Literals

theorem firstDoubleQuoted?_quoted {text : Text} (free : '"' ∉ text) (rest : Text) :
    firstDoubleQuoted? (quoted '"' text ++ rest) = some text := by
  rw [quoted_append, firstDoubleQuoted?, if_pos rfl, upToQuote?_append free]

end RouteAtlas
