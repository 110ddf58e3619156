import RouteAtlas.Code.Indented
import RouteAtlas.Proofs.Code.Insertion
import RouteAtlas.Proofs.Numbered.Call
import RouteAtlas.Proofs.Numbered.Texts

namespace RouteAtlas.Numbered

open Indented

def callBehind (lines : List Text) (number : Nat) (line : Text) (found : Found) :
    Checked (Option CallArguments) :=
  callArguments lines number (columnOf line found.reading.stop)

def handlerStep (lines : List Text) (number : Nat) (_handler : Text) : Checked (Text × Option Nat) := do
  let line ← lineAt lines number
  if isRemark (Text.trim line) then return ([], some (number + 1))
  else
    match decoratorPattern.atStart? line with
    | some found => do
      let call ← callBehind lines number line found
      return ([], some ((call.map (·.endLine)).getD number + 1))
    | none => return ((functionName? line).getD [], none)

def handlerAfter (lines : List Text) (endLine : Nat) : Checked Text :=
  scan lines.length (handlerStep lines) (endLine + 1) []

def nearestClassBefore (lines : List Text) (number : Nat) : Checked (Option Text) := do
  let above ← linesUpTo lines number
  return above.reverse.findSome? Indented.className?

def enclosingIn (indentation : Nat) : List Text → Checked (Option Text)
  | [] => return none
  | line :: above =>
    if indentation = 0 then return none
    else if isRemark (Text.trim line) then enclosingIn indentation above
    else do
      let outer ← indent line
      if outer < indentation then
        match Indented.className? line with
        | some name => return some name
        | none => enclosingIn outer above
      else enclosingIn indentation above

def enclosingClass (lines : List Text) (number : Nat) : Checked (Option Text) := do
  let line ← lineAt lines number
  let indentation ← indent line
  let above ← linesUpTo lines number
  enclosingIn indentation above.reverse

def constructorKeyword (constructor keyword : Pattern) (lines : List Text) : Checked (Option Text) :=
  lines.zipIdx.findSomeM? fun (line, number) => do
    match ← (constructor.findAll line).findSomeM? (callBehind lines number line) with
    | none => return none
    | some call => return keyword.partIn? 1 call.text

def routeLiteral (arguments : Text) : Checked (Option Text) :=
  match namedRoutePattern.partIn? 1 arguments with
  | some route => return some route
  | none =>
    let positional := Text.trimStart arguments
    if positional.head?.any isQuote then firstQuoted isQuote positional else return none

variable {lines : List Text} {place : Place} {found : Found} {call : Call}

theorem callBehind_of_none (member : place ∈ Place.all lines) (suffix : found.rest <:+ place.line)
    (nothing : Call.read? found.rest place.below = none) :
    callBehind lines place.number place.line found = .ok none :=
  callArguments_of_none member (startsAt_columnOf suffix) nothing

theorem exists_callBehind (member : place ∈ Place.all lines) (suffix : found.rest <:+ place.line)
    (read : Call.read? found.rest place.below = some call) :
    ∃ answer, callBehind lines place.number place.line found = .ok (some answer) ∧
      answer.text = call.text ∧ answer.endLine = place.number + call.span := by
  obtain ⟨_, endColumn, _, _, called⟩ := exists_callArguments member (startsAt_columnOf suffix) read
  exact ⟨_, called, rfl, rfl⟩

section Handlers

theorem handlerBelow_cons (line : Text) (below : List Text) :
    handlerBelow 0 (line :: below) =
      if isRemark (Text.trim line) then handlerBelow 0 below
      else
        match decoratorPattern.atStart? line with
        | some found =>
          match Call.read? found.rest below with
          | some call => handlerBelow call.span below
          | none => handlerBelow 0 below
        | none => (functionName? line).getD [] := rfl

theorem handlerBelow_drop (skip : Nat) (below : List Text) :
    handlerBelow skip below = handlerBelow 0 (below.drop skip) := by
  induction below generalizing skip with
  | nil => simp [handlerBelow]
  | cons line below ih =>
    cases skip with
    | zero => rfl
    | succ skip => exact ih skip

theorem advances_handlerStep (lines : List Text) : Advances (handlerStep lines) := by
  intro number handler after next step
  obtain ⟨line, cut, step⟩ := bind_eq_ok_iff.mp step
  split at step
  · obtain ⟨_, goes⟩ := Prod.mk.inj (Except.ok.inj step)
    rw [← Option.some.inj goes]
    exact Nat.lt_succ_self _
  split at step
  · obtain ⟨call, called, step⟩ := bind_eq_ok_iff.mp step
    obtain ⟨_, goes⟩ := Prod.mk.inj (Except.ok.inj step)
    rw [← Option.some.inj goes]
    cases call with
    | none => exact Nat.lt_succ_self _
    | some call => exact Nat.lt_succ_of_le (behind_of_callArguments called).1
  · obtain ⟨_, ends⟩ := Prod.mk.inj (Except.ok.inj step)
    cases ends

theorem scan_handlerStep (lines : List Text) (number : Nat) :
    scan lines.length (handlerStep lines) number [] = .ok (handlerBelow 0 (lines.drop number)) := by
  refine scan_lines (handlerBelow 0) (by rfl) (fun place member => ?_) number
  rw [handlerStep, lineAt_number member, ok_bind, handlerBelow_cons]
  cases remark : isRemark (Text.trim place.line) with
  | true => exact .inr ⟨0, rfl, rfl⟩
  | false =>
    cases here : decoratorPattern.atStart? place.line with
    | none => exact .inl rfl
    | some found =>
      have suffix : found.rest <:+ place.line := Pattern.rest_suffix_of_at? here
      cases read : Call.read? found.rest place.below with
      | none =>
        refine .inr ⟨0, ?_, by simp [read]⟩
        simp [callBehind_of_none member suffix read]
      | some call =>
        obtain ⟨answer, called, _, row⟩ := exists_callBehind member suffix read
        refine .inr ⟨call.span, ?_, by simp [read, handlerBelow_drop call.span]⟩
        simp [called, row, Nat.add_right_comm]

theorem handlerAfter_eq (member : place ∈ Place.all lines) (span : Nat) :
    handlerAfter lines (place.number + span) = .ok (handlerBelow 0 (place.below.drop span)) := by
  rw [handlerAfter, scan_handlerStep, Nat.add_right_comm, drop_number member]

end Handlers

section Classes

theorem nearestClassBefore_eq (member : place ∈ Place.all lines) :
    nearestClassBefore lines place.number = .ok (nearestClass? place.above) := by
  rw [nearestClassBefore, linesUpTo_number member, ok_bind, List.reverse_reverse]
  rfl

theorem enclosingIn_eq (indentation : Nat) (above : List Text) :
    enclosingIn indentation above = .ok (enclosingFrom indentation above) := by
  induction above generalizing indentation with
  | nil => rfl
  | cons line above ih =>
    rw [enclosingIn, enclosingFrom, indent_eq, ok_bind]
    split
    · rfl
    split
    · exact ih indentation
    split
    · cases Indented.className? line with
      | none => exact ih (indentOf line)
      | some name => rfl
    · exact ih indentation

theorem enclosingClass_eq (member : place ∈ Place.all lines) :
    enclosingClass lines place.number = .ok (enclosingClass? place) := by
  rw [enclosingClass, lineAt_number member, ok_bind, indent_eq, ok_bind, linesUpTo_number member,
    ok_bind, List.reverse_reverse, enclosingIn_eq]
  rfl

end Classes

section Keywords

theorem map_text_callArguments? (member : place ∈ Place.all lines) (suffix : found.rest <:+ place.line) :
    (callArguments? lines place.number (columnOf place.line found.reading.stop)).map (·.text) =
      (Call.read? found.rest place.below).map (·.text) := by
  cases read : Call.read? found.rest place.below with
  | none =>
    have called := callBehind_of_none member suffix read
    rw [callBehind, callArguments_eq] at called
    rw [Except.ok.inj called]
    rfl
  | some call =>
    obtain ⟨answer, called, same, _⟩ := exists_callBehind member suffix read
    rw [callBehind, callArguments_eq] at called
    rw [Except.ok.inj called, Option.map_some, same]
    rfl

theorem exists_constructorCall (member : place ∈ Place.all lines) (constructor : Pattern) :
    ∃ answer, (constructor.findAll place.line).findSomeM? (callBehind lines place.number place.line) =
        .ok answer ∧
      answer.map (·.text) = ((constructor.findAll place.line).findSome? fun found =>
        Call.read? found.rest place.below).map (·.text) := by
  refine ⟨_, findSomeM?_eq_ok fun found _ => callArguments_eq lines place.number _, ?_⟩
  rw [List.map_findSome?, List.map_findSome?]
  exact findSome?_congr_of_mem fun found present =>
    map_text_callArguments? member (Pattern.rest_suffix_of_mem_findAllFrom present)

theorem constructorKeyword_eq (constructor keyword : Pattern) (lines : List Text) :
    constructorKeyword constructor keyword lines =
      .ok (constructorKeyword? constructor keyword lines) := by
  refine findSomeM?_zipIdx fun place member => ?_
  obtain ⟨answer, called, same⟩ := exists_constructorCall member constructor
  dsimp only
  rw [called, ok_bind]
  cases first : (constructor.findAll place.line).findSome? fun found =>
      Call.read? found.rest place.below with
  | none =>
    rw [first, Option.map_none, Option.map_eq_none_iff] at same
    rw [same]
    rfl
  | some call =>
    rw [first, Option.map_some, Option.map_eq_some_iff] at same
    obtain ⟨arguments, rfl, text⟩ := same
    dsimp only
    rw [text]
    rfl

theorem routeLiteral_eq (arguments : Text) :
    routeLiteral arguments = .ok (routeLiteral? arguments) := by
  rw [routeLiteral, routeLiteral?]
  cases namedRoutePattern.partIn? 1 arguments with
  | some route => rfl
  | none =>
    dsimp only
    split
    · exact firstQuoted_literal _
    · rfl

end Keywords

end RouteAtlas.Numbered
