import Mathlib.Data.Nat.Find
import RouteAtlas.Extract.FastApi
import RouteAtlas.Extract.Flask
import RouteAtlas.Proofs.Code.Balance
import RouteAtlas.Proofs.Code.Indented

namespace RouteAtlas

namespace Pattern

variable {pattern : Pattern} {slot : Nat}

def notes (slot : Nat) : Pattern → Bool
  | .empty | .one _ | .many _ | .upToMany _ | .start | .boundary => false
  | .seq first second => first.notes slot || second.notes slot
  | .alt first second => first.notes slot && second.notes slot
  | .capture noted body => noted == slot || body.notes slot

theorem exists_noted {place : Cursor} {reading : Reading} (noted : pattern.notes slot)
    (member : reading ∈ pattern.runs place) : ∃ capture ∈ reading.captures, capture.1 = slot := by
  induction pattern generalizing place reading with
  | empty | one | many | upToMany | start | boundary => cases noted
  | seq first second ihFirst ihSecond =>
    obtain ⟨left, leftRun, right, rightRun, rfl⟩ := mem_runs_seq.mp member
    rcases Bool.or_eq_true_iff.mp noted with early | late
    · obtain ⟨capture, among, same⟩ := ihFirst early leftRun
      exact ⟨capture, List.mem_append_left _ among, same⟩
    · obtain ⟨capture, among, same⟩ := ihSecond late rightRun
      exact ⟨capture, List.mem_append_right _ among, same⟩
  | alt first second ihFirst ihSecond =>
    obtain ⟨left, right⟩ := Bool.and_eq_true_iff.mp noted
    rcases mem_runs_alt.mp member with one | other
    · exact ihFirst left one
    · exact ihSecond right other
  | capture own body ih =>
    obtain ⟨inner, run, rfl⟩ := mem_runs_capture.mp member
    rcases Bool.or_eq_true_iff.mp noted with same | deeper
    · exact ⟨_, List.mem_cons_self, beq_iff_eq.mp same⟩
    · obtain ⟨capture, among, same⟩ := ih deeper run
      exact ⟨capture, List.mem_cons_of_mem _ among, same⟩

theorem exists_part? {place : Cursor} {found : Found} (noted : pattern.notes slot)
    (here : pattern.at? place = some found) : ∃ part, found.part? slot = some part := by
  obtain ⟨reading, first, rfl⟩ := Option.map_eq_some_iff.mp here
  obtain ⟨capture, among, rfl⟩ := exists_noted noted (List.mem_of_head? first)
  have present : (reading.captures.lookup capture.1).isSome :=
    List.lookup_isSome_iff.mpr ⟨capture, among, beq_self_eq_true _⟩
  obtain ⟨span, looked⟩ := Option.isSome_iff_exists.mp present
  exact ⟨span.1.upTo span.2, by simp [Found.part?, looked]⟩

end Pattern

namespace Indented

open Pattern

def routeWords : List Text := ["path", "rule"]

/-- A keyword for a route with a literal stands at the start of a text that follows `before`. -/
def NamesRoute (before : Option Char) (text : Text) (opening : Char) (value : Text) (closing : Char)
    (rest : Text) : Prop :=
  wordAt before = false ∧ ∃ word ∈ routeWords, ∃ after, text = word ++ after ∧
    StartsWithLiteral after opening value closing rest

variable {before : Option Char} {text front back value rest : Text} {opening closing quote : Char}

theorem namesRoute_of_passes {stop : Cursor} (passes : namedRoutePattern.Passes ⟨before, text⟩ stop) :
    ∃ opening value closing, NamesRoute before text opening value closing stop.rest := by
  obtain ⟨middle, lead, assigned⟩ := passes_seq.mp passes
  obtain ⟨_, edge, worded⟩ := passes_seq.mp lead
  obtain ⟨differ, rfl⟩ := passes_boundary.mp edge
  obtain ⟨word, listed, same⟩ := worded.of_anyOf
  obtain ⟨opening, value, closing, starts⟩ := startsWithLiteral_of_passes assigned
  refine ⟨opening, value, closing, ?_, word, listed, middle.rest, same, starts⟩
  have fresh : wordAt text.head? = true := by
    rw [show text = word ++ middle.rest from same]
    have listed : word = "path".toList ∨ word = "rule".toList := by simpa using listed
    rcases listed with rfl | rfl <;> rfl
  simpa [fresh] using differ

theorem reads_namedRoute (names : NamesRoute before text opening value closing rest) :
    ∃ taken, text = taken ++ rest ∧ Reads namedRoutePattern before taken rest [(1, value)] := by
  obtain ⟨apart, word, listed, _, rfl, gap, space, rfl, blank, clear, opens, closes, plain⟩ := names
  refine ⟨[] ++ word ++ (gap ++ '=' :: (space ++ opening :: (value ++ [closing]))), by simp, ?_⟩
  have listed : word = "path".toList ∨ word = "rule".toList := by simpa [routeWords] using listed
  have worded : ∀ more, Reads (anyOf ["path".toList, "rule".toList]) before word more [] := by
    intro more
    rcases listed with rfl | rfl
    · exact .left (.text _)
    · exact .right rfl (.text _)
  change Reads _ _ _ _ ([] ++ [] ++ [(1, value)])
  refine .seq (.seq (.boundary ?_) (worded _))
    (reads_assignedLiteral _ rest blank clear opens closes plain)
  rcases listed with rfl | rfl <;> simpa [apart] using (by decide)

theorem routeLiteral?_of_first (names : NamesRoute front.getLast? back opening value closing rest)
    (first : ∀ earlier more, front ++ back = earlier ++ more → earlier.length < front.length →
      ∀ opening value closing rest, ¬ NamesRoute earlier.getLast? more opening value closing rest) :
    routeLiteral? (front ++ back) = some value := by
  obtain ⟨taken, rfl, reads⟩ := reads_namedRoute names
  rw [← Option.or_none (o := front.getLast?)] at reads
  have found := reads.partIn? (fun left c right split => runs_eq_nil fun stop passes => ?_) 1
  · rw [routeLiteral?, found]
    rfl
  · obtain ⟨opening, value, closing, earlier⟩ := namesRoute_of_passes passes
    rw [lastOr, Option.or_none] at earlier
    exact first left (c :: (right ++ (taken ++ rest))) (by simp [split]) (by simp [split]) _ _ _ _ earlier

theorem routeLiteral?_of_leading {lead leading tail : Text} (blank : ∀ c ∈ lead, isBlank c)
    (opens : isQuote quote) (plain : ∀ c ∈ leading, isQuote c = false)
    (nowhere : ∀ front back, lead ++ (quoted quote leading ++ tail) = front ++ back →
      ∀ opening value closing rest, ¬ NamesRoute front.getLast? back opening value closing rest) :
    routeLiteral? (lead ++ (quoted quote leading ++ tail)) = some leading := by
  have unnamed : namedRoutePattern.find? (lead ++ (quoted quote leading ++ tail)) = none := by
    refine find?_eq_none fun left right split => runs_eq_nil fun stop passes => ?_
    obtain ⟨opening, value, closing, names⟩ := namesRoute_of_passes passes
    rw [lastOr, Option.or_none] at names
    exact nowhere left right split _ _ _ _ names
  have kinds : quote = '"' ∨ quote = '\'' := by simpa [isQuote] using opens
  have starts : Text.trimStart (lead ++ (quoted quote leading ++ tail)) = quoted quote leading ++ tail := by
    refine dropWhile_append_eq blank ?_
    rintro c ⟨⟩
    rcases kinds with rfl | rfl <;> decide
  have free : quote ∉ leading := by
    intro member
    rw [plain quote member] at opens
    cases opens
  rw [routeLiteral?, partIn?, unnamed]
  simp only [Option.bind_none, starts]
  rw [if_pos (by simpa [quoted] using opens), firstLiteral?_quoted free tail kinds]

section OwnArguments

def roundBracket (c : Char) : Char :=
  if c = '[' ∨ c = '{' then '(' else if c = ']' ∨ c = '}' then ')' else c

/-- Behind this part of the arguments the next argument of the call itself starts. -/
def StartsArgument (front : Text) : Prop :=
  CallState.opened.after (front.map roundBracket) = CallState.opened ∧
    (Text.trimEnd front).getLast?.all (· == ',')

def GivesRoute (front back value : Text) : Prop :=
  StartsArgument front ∧ ∃ quote rest, NamesRoute front.getLast? back quote value quote rest ∧
    '\\' ∉ value ∧ (Text.trimStart rest).head?.all (· == ',')

/-- Wherever a keyword for a route has a literal, it is an argument of the call itself. -/
def OwnKeywords (text : Text) : Prop :=
  ∀ front back, text = front ++ back → ∀ opening value closing rest,
    NamesRoute front.getLast? back opening value closing rest → GivesRoute front back value

/-- The route by the first keyword of the call, or else the leading literal. -/
inductive ChosenRoute (text leading : Text) : Text → Prop
  | named {front back value : Text} (split : text = front ++ back) (gives : GivesRoute front back value)
    (first : ∀ earlier more given, text = earlier ++ more → earlier.length < front.length →
      ¬ GivesRoute earlier more given) : ChosenRoute text leading value
  | positional (unnamed : ∀ front back value, text = front ++ back → ¬ GivesRoute front back value) :
    ChosenRoute text leading leading

theorem exists_chosenRoute (text leading : Text) : ∃ route, ChosenRoute text leading route := by
  by_cases named : ∃ count front back value, count = front.length ∧ text = front ++ back ∧
      GivesRoute front back value
  · classical
    obtain ⟨front, back, value, _, split, gives⟩ := Nat.find_spec named
    refine ⟨value, .named split gives fun earlier more given cut shorter other => ?_⟩
    exact Nat.find_min named (by omega) ⟨earlier, more, given, rfl, cut, other⟩
  · exact ⟨leading, .positional fun front back value split gives =>
      named ⟨_, front, back, value, rfl, split, gives⟩⟩

variable {leading route : Text}

theorem ChosenRoute.routeLiteral? {lead tail : Text} (blank : ∀ c ∈ lead, isBlank c)
    (opens : isQuote quote) (plain : ∀ c ∈ leading, isQuote c = false)
    (written : text = lead ++ (quoted quote leading ++ tail)) (own : OwnKeywords text)
    (chosen : ChosenRoute text leading route) : routeLiteral? text = some route := by
  cases chosen with
  | named split gives first =>
    obtain ⟨_, quote, rest, names, _⟩ := gives
    rw [split]
    refine routeLiteral?_of_first names fun earlier more cut shorter opening value closing rest other => ?_
    exact first earlier more value (split.trans cut) shorter
      (own earlier more (split.trans cut) opening value closing rest other)
  | positional unnamed =>
    subst written
    refine routeLiteral?_of_leading blank opens plain fun front back split opening value closing rest names => ?_
    exact unnamed front back value split (own front back split opening value closing rest names)

theorem endpointAt?_of_routeLiteral? {file : Path} {base : Text} {place : Place} {found : Found} {call : Call}
    (decorated : FastApi.decoratorPattern.atStart? place.line = some found)
    (read : Call.read? found.rest place.below = some call) (given : routeLiteral? call.text = some route) :
    ∃ endpoint, FastApi.endpointAt? file base place = some endpoint ∧
      endpoint.route = Route.compose [base, route] := by
  have noted : FastApi.decoratorPattern.notes 1 := by decide
  obtain ⟨verb, worded⟩ := exists_part? noted decorated
  simp [FastApi.endpointAt?, decorated, worded, read, given]

theorem routeEndpoints_of_routeLiteral? {file : Path} {base : Text} {place : Place} {found : Found}
    {call : Call} {handlerOf : Call → Text} (read : Call.read? found.rest place.below = some call)
    (given : routeLiteral? call.text = some route) :
    (Flask.routeEndpoints file base place found handlerOf).map (·.route) =
      (Flask.declaredMethods call.text).map fun _ => Route.compose [base, route] := by
  simp [Flask.routeEndpoints, read, given, Function.comp_def]

/-- A leading literal is the route unless the call itself gives one by keyword, and decorators take this
route. What else stands among the arguments does not matter. -/
theorem routeLiteral?_positional {lead tail : Text} (blank : ∀ c ∈ lead, isBlank c)
    (opens : isQuote quote) (plain : ∀ c ∈ leading, isQuote c = false)
    (written : text = lead ++ (quoted quote leading ++ tail)) (own : OwnKeywords text) :
    ∃ route, ChosenRoute text leading route ∧ routeLiteral? text = some route ∧
      (∀ other, ChosenRoute text leading other → other = route) ∧
      (∀ file base place found call, FastApi.decoratorPattern.atStart? place.line = some found →
        Call.read? found.rest place.below = some call → call.text = text →
          ∃ endpoint, FastApi.endpointAt? file base place = some endpoint ∧
            endpoint.route = Route.compose [base, route]) ∧
      ∀ file base place found call handlerOf, Call.read? found.rest place.below = some call →
        call.text = text → (Flask.routeEndpoints file base place found handlerOf).map (·.route) =
          (Flask.declaredMethods text).map fun _ => Route.compose [base, route] := by
  obtain ⟨route, chosen⟩ := exists_chosenRoute text leading
  have given := chosen.routeLiteral? blank opens plain written own
  refine ⟨route, chosen, given, fun other also => ?_, ?_, ?_⟩
  · exact Option.some.inj ((also.routeLiteral? blank opens plain written own).symm.trans given)
  · rintro file base place found call decorated read rfl
    exact endpointAt?_of_routeLiteral? decorated read given
  · rintro file base place found call handlerOf read rfl
    exact routeEndpoints_of_routeLiteral? read given

theorem NamesRoute.part? (names : NamesRoute before text opening value closing rest) :
    (namedRoutePattern.at? ⟨before, text⟩).bind (·.part? 1) = some value := by
  obtain ⟨taken, rfl, reads⟩ := reads_namedRoute names
  obtain ⟨found, here, _, noted⟩ := reads.at?
  rw [here, Option.bind_some, noted]
  rfl

theorem unquoted (free : text.all (!isQuote ·)) : ∀ c ∈ text, isQuote c = false := by
  simpa using free

def itemArguments : Text :=
  " '/items',".toList ++ " tags=['a'],".toList ++ " dependencies=[".toList ++ "check(x=')', ".toList ++
    "xpath='/n')],".toList ++ " rule = \"/b\"".toList ++ " , path='/c'".toList

theorem givesRoute_itemArguments : GivesRoute (itemArguments.take 64) (itemArguments.drop 64) "/b" ∧
    GivesRoute (itemArguments.take 78) (itemArguments.drop 78) "/c" := by
  have space : ∀ c ∈ [' '], isBlank c := List.all_eq_true.mp (by decide)
  refine ⟨⟨⟨by decide +kernel, by decide +kernel⟩, '"', " , path='/c'", ⟨by decide +kernel, "rule", by decide,
    " = \"/b\" , path='/c'", by decide +kernel, [' '], [' '], rfl, space, space,
    by decide, by decide, unquoted (by decide)⟩, by decide⟩, ?_⟩
  exact ⟨⟨by decide +kernel, by decide +kernel⟩, '\'', [], ⟨by decide +kernel, "path", by decide, "='/c'",
    by decide +kernel, [], [], rfl, by simp, by simp, by decide, by decide,
    unquoted (by decide)⟩, by decide⟩

theorem ownKeywords_itemArguments : OwnKeywords itemArguments := by
  intro front back split opening value closing rest names
  have here := names.part?
  have size : front.length ≤ itemArguments.length := by
    rw [split, List.length_append]
    omega
  have before : front = itemArguments.take front.length := by simp [split]
  have after : back = itemArguments.drop front.length := by simp [split]
  have spots : ∀ n ≤ itemArguments.length, ((namedRoutePattern.at?
      ⟨(itemArguments.take n).getLast?, itemArguments.drop n⟩).bind (·.part? 1)).isSome →
        n = 64 ∨ n = 78 := by
    decide +kernel
  rw [before, after] at here ⊢
  rcases spots _ size (by rw [here]; rfl) with spot | spot
  · rw [spot] at here ⊢
    have read : (namedRoutePattern.at? ⟨(itemArguments.take 64).getLast?, itemArguments.drop 64⟩).bind
        (·.part? 1) = some "/b" := by
      decide +kernel
    obtain rfl := Option.some.inj (here.symm.trans read)
    exact givesRoute_itemArguments.1
  · rw [spot] at here ⊢
    have read : (namedRoutePattern.at? ⟨(itemArguments.take 78).getLast?, itemArguments.drop 78⟩).bind
        (·.part? 1) = some "/c" := by
      decide +kernel
    obtain rfl := Option.some.inj (here.symm.trans read)
    exact givesRoute_itemArguments.2

theorem routeLiteral?_positional_of_itemArguments :
    itemArguments = [' '] ++ (quoted '\'' "/items" ++ itemArguments.drop 9) ∧ OwnKeywords itemArguments ∧
      ChosenRoute itemArguments "/items" "/b" ∧ routeLiteral? itemArguments = some "/b" := by
  have written : itemArguments = [' '] ++ (quoted '\'' "/items" ++ itemArguments.drop 9) := by
    decide +kernel
  obtain ⟨route, chosen, given, _⟩ := routeLiteral?_positional
    (List.all_eq_true.mp (by decide)) (by decide) (unquoted (by decide)) written ownKeywords_itemArguments
  have read : routeLiteral? itemArguments = some "/b" := by
    decide +kernel
  obtain rfl := Option.some.inj (given.symm.trans read)
  exact ⟨written, ownKeywords_itemArguments, chosen, read⟩

/-- A keyword of the call itself goes before the leading literal. -/
theorem routeLiteral?_of_keyword_behind_literal :
    "'/a', path='/b'".toList = [] ++ (quoted '\'' "/a" ++ ", path='/b'".toList) ∧
      routeLiteral? "'/a', path='/b'" = some "/b" :=
  ⟨rfl, by decide +kernel⟩

end OwnArguments

end Indented

end RouteAtlas
