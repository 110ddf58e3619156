import RouteAtlas.Text.Basic

namespace RouteAtlas

structure CallState where
  depth : Nat
  quote : Option Char
  escaped : Bool
deriving DecidableEq, Repr

namespace CallState

def opened : CallState := ⟨1, none, false⟩

def step (state : CallState) (c : Char) : CallState :=
  match state.quote with
  | some quote =>
    if state.escaped then { state with escaped := false }
    else if c = '\\' then { state with escaped := true }
    else if c = quote then { state with quote := none }
    else state
  | none =>
    if c = '"' ∨ c = '\'' then { state with quote := some c }
    else if c = '(' then { state with depth := state.depth + 1 }
    else if c = ')' then { state with depth := state.depth - 1 }
    else state

def isClosedBy (state : CallState) (c : Char) : Bool :=
  state.quote.isNone && c == ')' && state.depth ≤ 1

end CallState

/--
Reads a line from within a call: the state at its end, or what follows the parenthesis that closes the
call.
-/
def CallState.scanLine : CallState → Text → Except CallState Text
  | state, [] => .error state
  | state, c :: rest => if state.isClosedBy c then .ok rest else (state.step c).scanLine rest

structure Call where
  text : Text
  /-- How many lines below its first line the call ends. -/
  span : Nat
  rest : Text
deriving DecidableEq, Repr

namespace Call

def maxLines : Nat := 20

/-- The part of a line in front of the parenthesis after which `rest` follows. -/
def textBefore (line rest : Text) : Text := line.take (line.length - rest.length - 1)

def scan (state : CallState) (line : Text) : List Text → Option Call
  | [] =>
    match state.scanLine line with
    | .ok rest => some ⟨textBefore line rest, 0, rest⟩
    | .error _ => none
  | next :: below =>
    match state.scanLine line with
    | .ok rest => some ⟨textBefore line rest, 0, rest⟩
    | .error state =>
      (scan state next below).map fun call => ⟨line ++ '\n' :: call.text, call.span + 1, call.rest⟩

/-- The call that opens at the first character of `text` that is not blank, if one does there. -/
def read? (text : Text) (below : List Text) : Option Call :=
  match Text.trimStart text with
  | '(' :: rest => scan .opened rest (below.take (maxLines - 1))
  | _ => none

end Call

structure CallArguments where
  text : Text
  endLine : Nat
  endColumn : Nat
deriving DecidableEq, Repr

/--
The arguments of the call that opens at or after a byte column of a line. None when the column lies
outside the line or inside a character, when no call opens there, or when it does not close.
-/
def callArguments? (lines : List Text) (start column : Nat) : Option CallArguments := do
  let line ← lines[start]?
  let text ← Text.dropBytes? column line
  let call ← Call.read? text (lines.drop (start + 1))
  let last ← lines[start + call.span]?
  return ⟨call.text, start + call.span, Text.byteSize last - Text.byteSize call.rest⟩

end RouteAtlas
