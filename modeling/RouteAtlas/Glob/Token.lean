import RouteAtlas.Glob.Error

namespace RouteAtlas

structure GlobOptions where
  /-- Wildcards do not match the separator of directories. -/
  separate : Bool
  /-- A bracket that opens no complete class stands for itself. -/
  looseBrackets : Bool
deriving DecidableEq, Repr

inductive GlobToken where
  | literal (c : Char)
  | any
  | star
  /-- Any number of directories at the start. -/
  | leading
  /-- Everything inside a directory, at the end. -/
  | inside
  /-- Any number of directories between two parts. -/
  | between
  /-- One unit of a set of ranges, or none of them. -/
  | charClass (negated : Bool) (ranges : List (Char × Char))
  | group (branches : List (List GlobToken))

namespace Glob

structure ClassState where
  ranges : List (Char × Char)
  open_ : Bool

def endRange (ranges : List (Char × Char)) (last : Char) :
    Except GlobFault (List (Char × Char)) :=
  match ranges with
  | [] => .ok [(last, last)]
  | (first, _) :: others =>
    if last.toNat < first.toNat then .error (.invalidRange first last)
    else .ok ((first, last) :: others)

/-- Reads the rest of a class: its ranges and what follows. The first character may be a bracket. -/
def readRanges : (first : Bool) → ClassState → Text →
    Except GlobFault (List (Char × Char) × Text)
  | _, _, [] => .error .unclosedClass
  | first, state, c :: rest =>
    if c = ']' ∧ first = false then
      .ok ((if state.open_ then ('-', '-') :: state.ranges else state.ranges).reverse, rest)
    else if c = '-' ∧ first = false ∧ state.open_ = false then
      readRanges false ⟨state.ranges, true⟩ rest
    else if state.open_ then
      match endRange state.ranges c with
      | .ok ranges => readRanges false ⟨ranges, false⟩ rest
      | .error fault => .error fault
    else readRanges false ⟨(c, c) :: state.ranges, false⟩ rest

def readClass (text : Text) : Except GlobFault (GlobToken × Text) :=
  let (negated, body) := match text with
    | '!' :: rest => (true, rest)
    | '^' :: rest => (true, rest)
    | _ => (false, text)
  match readRanges true ⟨[], false⟩ body with
  | .ok (ranges, rest) => .ok (.charClass negated ranges, rest)
  | .error fault => .error fault

/-- An open group: the tokens in front of it and its finished branches, both the last one first. -/
structure Frame where
  outer : List GlobToken
  branches : List (List GlobToken)

structure State where
  tokens : List GlobToken
  frames : List Frame
  last : Option Char
  looseBracket : Bool

def State.push (state : State) (token : GlobToken) (last : Char) : State :=
  { state with tokens := token :: state.tokens, last := some last }

def State.pushStars (state : State) : State := (state.push .star '*').push .star '*'

/-- Adds a double star that follows other tokens in place of the separator before it. -/
def State.pushDirectories (state : State) (atEnd : Bool) (last : Char) : State :=
  match state.tokens with
  | .leading :: _ => { state with last := some last }
  | .inside :: _ => { state with last := some last }
  | _ :: others =>
    { state with tokens := (if atEnd then .inside else .between) :: others, last := some last }
  | [] => state

def State.readDoubleStar (state : State) (rest : Text) : State × Text :=
  if state.tokens.isEmpty then
    match rest with
    | [] => (state.push .leading '*', [])
    | '/' :: rest => (state.push .leading '/', rest)
    | _ => (state.pushStars, rest)
  else
    let nested := !state.frames.isEmpty
    let starts := state.last == some '/' ||
      (nested && (state.last == some ',' || state.last == some '{'))
    if starts then
      match rest with
      | [] => (state.pushDirectories true '*', [])
      | '/' :: rest => (state.pushDirectories false '/', rest)
      | c :: _ =>
        if nested && (c == ',' || c == '}') then (state.pushDirectories true '*', rest)
        else (state.pushStars, rest)
    else (state.pushStars, rest)

def State.openGroup (state : State) : State :=
  { state with tokens := [], frames := ⟨state.tokens, []⟩ :: state.frames, last := some '{' }

/-- Starts the next branch of a group. A comma outside of groups stands for itself. -/
def State.nextBranch (state : State) : State :=
  match state.frames with
  | [] => state.push (.literal ',') ','
  | frame :: outer =>
    { state with
      tokens := []
      frames := { frame with branches := state.tokens.reverse :: frame.branches } :: outer
      last := some ',' }

def State.closeGroup (state : State) : Except GlobFault State :=
  match state.frames with
  | [] => .error .unopenedGroup
  | frame :: outer =>
    let branches := (state.tokens.reverse :: frame.branches).reverse
    .ok { state with tokens := .group branches :: frame.outer, frames := outer, last := some '}' }

def State.step (options : GlobOptions) (state : State) (c : Char) (rest : Text) :
    Except GlobFault (State × Text) :=
  if c = '?' then .ok (state.push .any c, rest)
  else if c = '*' then
    match rest with
    | '*' :: rest => .ok (state.readDoubleStar rest)
    | _ => .ok (state.push .star c, rest)
  else if c = '[' ∧ state.looseBracket = false then
    match readClass rest with
    | .ok (token, rest) => .ok (state.push token ']', rest)
    | .error .unclosedClass =>
      if options.looseBrackets then
        .ok ({ state.push (.literal c) c with looseBracket := true }, rest)
      else .error .unclosedClass
    | .error fault => .error fault
  else if c = '{' then .ok (state.openGroup, rest)
  else if c = '}' then
    match state.closeGroup with
    | .ok state => .ok (state, rest)
    | .error fault => .error fault
  else if c = ',' then .ok (state.nextBranch, rest)
  else if c = '\\' then
    match rest with
    | [] => .error .danglingEscape
    | c :: rest => .ok (state.push (.literal c) c, rest)
  else .ok (state.push (.literal c) c, rest)

/-- Reads a pattern to its end. Each step reads at least one character, so `bound` is its length. -/
def State.run (options : GlobOptions) : (bound : Nat) → State → Text →
    Except GlobFault (List GlobToken)
  | _, state, [] => if state.frames.isEmpty then .ok state.tokens.reverse else .error .unclosedGroup
  | 0, state, _ :: _ => .ok state.tokens.reverse
  | bound + 1, state, c :: rest =>
    match state.step options c rest with
    | .ok (state, rest) => run options bound state rest
    | .error fault => .error fault

def tokens? (options : GlobOptions) (glob : Text) : Except GlobFault (List GlobToken) :=
  State.run options glob.length ⟨[], [], none, false⟩ glob

end Glob

end RouteAtlas
