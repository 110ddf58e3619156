import RouteAtlas.Extract.FastApi
import RouteAtlas.Proofs.Code.Call
import RouteAtlas.Proofs.Code.Place
import RouteAtlas.Proofs.Text.Pattern
import RouteAtlas.Proofs.Text.Pieces

namespace RouteAtlas.FastApi

open Pattern

/-- The text after an at sign, when it starts with a receiver, a verb in any case and a parenthesis. -/
def Opens (text : Text) : Prop :=
  ∃ receiver verb gap rest, text = receiver ++ '.' :: (verb ++ (gap ++ '(' :: rest)) ∧
    receiver ≠ [] ∧ (∀ c ∈ receiver, isWord c) ∧ (∀ c ∈ gap, isBlank c) ∧
    ∀ before rest, verbPattern.Passes ⟨before, verb ++ rest⟩ ⟨lastOr before verb, rest⟩

section Decorators

variable {line text content : Text} {found : Found} {call : Call} {below : List Text}

theorem Opens.append (opens : Opens text) (back : Text) : Opens (text ++ back) := by
  obtain ⟨receiver, verb, gap, rest, rfl, filled, word, blank, verbs⟩ := opens
  exact ⟨receiver, verb, gap, rest ++ back, by simp, filled, word, blank, verbs⟩

theorem Opens.isSome_at? (opens : Opens text) (before : Option Char) :
    (anyDecoratorPattern.at? ⟨before, '@' :: text⟩).isSome := by
  obtain ⟨receiver, verb, gap, rest, rfl, filled, word, blank, verbs⟩ := opens
  have receiverEnds : ∀ c, ('.' :: (verb ++ (gap ++ '(' :: rest))).head? = some c → isWord c = false := by
    rintro c ⟨⟩
    decide
  have gapEnds : ∀ c, ('(' :: rest).head? = some c → isBlank c = false := by
    rintro c ⟨⟩
    decide
  have sign : (Pattern.text "@").Passes ⟨before, '@' :: (receiver ++ '.' :: (verb ++ (gap ++ '(' :: rest)))⟩
      ⟨some '@', receiver ++ '.' :: (verb ++ (gap ++ '(' :: rest))⟩ :=
    passes_text.mpr ⟨_, rfl, rfl⟩
  have named : name.Passes ⟨some '@', receiver ++ '.' :: (verb ++ (gap ++ '(' :: rest))⟩
      ⟨lastOr (some '@') receiver, '.' :: (verb ++ (gap ++ '(' :: rest))⟩ := by
    refine passes_many1.mpr ?_
    rw [takeWhile_append_eq word receiverEnds, dropWhile_append_eq word receiverEnds]
    exact ⟨filled, rfl⟩
  have dot : (Pattern.text ".").Passes
      ⟨lastOr (some '@') receiver, '.' :: (verb ++ (gap ++ '(' :: rest))⟩
      ⟨some '.', verb ++ (gap ++ '(' :: rest)⟩ :=
    passes_text.mpr ⟨_, rfl, rfl⟩
  have spaced : blanks.Passes ⟨lastOr (some '.') verb, gap ++ '(' :: rest⟩
      ⟨lastOr (lastOr (some '.') verb) gap, '(' :: rest⟩ := by
    refine passes_many.mpr ?_
    rw [takeWhile_append_eq blank gapEnds, dropWhile_append_eq blank gapEnds]
  have paren : (Pattern.text "(").Passes ⟨lastOr (lastOr (some '.') verb) gap, '(' :: rest⟩
      ⟨some '(', rest⟩ :=
    passes_text.mpr ⟨rest, rfl, rfl⟩
  exact Passes.isSome_at? (passes_seq.mpr ⟨_, passes_seq.mpr ⟨_, passes_seq.mpr ⟨_, passes_seq.mpr
    ⟨_, passes_seq.mpr ⟨_, sign, named⟩, dot⟩, verbs (some '.') _⟩, spaced⟩, paren⟩)

theorem exists_opens_of_decorator (here : decoratorPattern.atStart? line = some found)
    (read : Call.read? found.rest below = some call) :
    ∃ lead text, line = lead ++ '@' :: text ∧ (∀ c ∈ lead, isBlank c) ∧ Opens text := by
  obtain ⟨gap, rest, opens, blank⟩ := Call.exists_paren_of_read? read
  have passes := passes_of_at? here
  simp only [decoratorPattern, blanks, name, passes_seq, passes_many, passes_many1, passes_text,
    passes_capture, passes_boundary] at passes
  obtain ⟨_, ⟨_, ⟨_, ⟨_, ⟨_, rfl, text, sign, rfl⟩, filled, rfl⟩, tail, dot, rfl⟩, verb⟩, _, same⟩ := passes
  obtain ⟨taken, split, verbs⟩ := verb.moved (by decide)
  have lineSplit : line = line.takeWhile isBlank ++ '@' :: text := by
    rw [← show line.dropWhile isBlank = '@' :: text from sign, List.takeWhile_append_dropWhile]
  have textSplit : text = text.takeWhile isWord ++ '.' :: tail := by
    rw [← show text.dropWhile isWord = '.' :: tail from dot, List.takeWhile_append_dropWhile]
  have tailSplit : tail = taken ++ (gap ++ '(' :: rest) := by
    rw [← opens, Found.rest, same]
    exact split
  refine ⟨line.takeWhile isBlank, text, lineSplit, List.all_eq_true.mp List.all_takeWhile,
    text.takeWhile isWord, taken, gap, rest, ?_, filled, List.all_eq_true.mp List.all_takeWhile, blank, verbs⟩
  rw [← tailSplit]
  exact textSplit

/-- A decorator is found in the whole text as it is on its own line. -/
theorem startsLineOf_of_decorator (member : line ∈ Text.lines content)
    (here : decoratorPattern.atStart? line = some found)
    (read : Call.read? found.rest below = some call) :
    anyDecoratorPattern.startsLineOf content = true := by
  obtain ⟨front, back, rfl, ends⟩ := Text.exists_of_mem_lines member
  obtain ⟨lead, text, rfl, blank, opens⟩ := exists_opens_of_decorator here read
  rw [List.append_assoc]
  exact startsLineFrom_of_line (fun _ => rfl) ends blank (by decide) (opens.append back).isSome_at?

end Decorators

/-- The quick look passes over no text that has an endpoint, if the text imports the framework. -/
theorem claims_of_extract {file : Path} {content : Text}
    (imports : Text.contains content "from fastapi" = true ∨ Text.contains content "import fastapi" = true)
    (filled : extract file content ≠ []) : claims content = true := by
  obtain ⟨endpoint, member⟩ := List.exists_mem_of_ne_nil _ filled
  obtain ⟨place, present, here⟩ := List.mem_filterMap.mp member
  simp only [endpointAt?, Option.bind_eq_bind, Option.bind_eq_some_iff] at here
  obtain ⟨found, decorator, _, _, call, read, _⟩ := here
  have line : place.line ∈ Text.lines content :=
    List.mem_of_getElem? (Place.getElem?_line present)
  rw [claims, startsLineOf_of_decorator line decorator read, Bool.and_true, Bool.or_eq_true]
  exact imports

def spreadDecorator : Text :=
  Text.join ['\n'] ["import fastapi as f", "class A:", "  \u00A0@r.OPTIONſ\u2003( # all\r",
    "    path='/a'", "  )", "  def b(): ..."]

theorem claims_of_extract_of_spreadDecorator :
    Text.contains spreadDecorator "import fastapi" = true ∧
      extract ⟨"main.py"⟩ spreadDecorator ≠ [] ∧ claims spreadDecorator = true := by
  have imports : Text.contains spreadDecorator "import fastapi" = true := by
    decide +kernel
  have filled : extract ⟨"main.py"⟩ spreadDecorator ≠ [] := by
    decide +kernel
  exact ⟨imports, filled, claims_of_extract (.inr imports) filled⟩

end RouteAtlas.FastApi
