import RouteAtlas.Endpoint
import RouteAtlas.Proofs.Code.Annotations
import RouteAtlas.Proofs.Code.ClassScope

namespace RouteAtlas

class Annotated (α : Type) where
  annotations : α → List Mark

def markLines {α : Type} [Annotated α] (marks : α) : List Text :=
  (Annotated.annotations marks).map Mark.text

inductive Declarations (Class Method : Type) where
  | done
  | method (marks : Method) (name : Identifier) (next : Declarations Class Method)
  | nested (marks : Class) (name : Identifier) (body next : Declarations Class Method)

namespace Declarations

variable {Class Method : Type} [Annotated Class] [Annotated Method]

def lines : Declarations Class Method → List Text
  | .done => []
  | .method marks name next => markLines marks ++ methodLine name :: endLine :: next.lines
  | .nested marks name body next =>
    markLines marks ++ classLine name :: (body.lines ++ endLine :: next.lines)

/-- What the methods declare, in the order of the source. A method declares something depending on the
class directly around it, and on the number of the line where its marks start. -/
def endpoints (declared : Option (Identifier × Class) → Method → Identifier → Nat → List Endpoint)
    (owner : Option (Identifier × Class)) (line : Nat) : Declarations Class Method → List Endpoint
  | .done => []
  | .method marks name next => declared owner marks name line ++
      next.endpoints declared owner (line + (markLines marks).length + 2)
  | .nested marks name body next =>
    body.endpoints declared (some (name, marks)) (line + (markLines marks).length + 1) ++
      next.endpoints declared owner (line + (markLines marks).length + body.lines.length + 2)

end Declarations

theorem Place.Leads.optional {α σ : Type} {read : σ → Place → σ} {above lines below : List Text}
    {markOf : α → Mark} {given : Option α} (state : Option α → σ)
    (spelled : lines.map Text.trim = (given.toList.map markOf).map Mark.text)
    (step : ∀ value line, Text.trim line = (markOf value).text →
      read (state none) ⟨above, line, below⟩ = state (some value)) :
    Leads read above lines below (state none) (state given) := by
  cases given with
  | none =>
    obtain rfl : lines = [] := by simpa using spelled
    exact .nil
  | some value =>
    obtain ⟨line, rfl, same⟩ := List.map_eq_singleton_iff.mp spelled
    exact .single (step value line same)

section Run

variable {State Header Class Method : Type}

/-- The scopes are those directly inside a class, or outside all classes. -/
structure ClassScopes.Within (header : Class → Header) (scopes : ClassScopes Header)
    (owner : Option (Identifier × Class)) : Prop where
  settled : scopes.Settled
  current : (scopes.current?.map fun scope => (scope.name, scope.header)) =
    owner.map fun (name, marks) => (name.text, header marks)

theorem ClassScopes.Within.enter {header : Class → Header} (scopes : ClassScopes Header)
    (name : Identifier) (marks : Class) :
    (scopes.enter name.text (header marks)).Within header (some (name, marks)) :=
  ⟨settled_enter name.text (header marks), rfl⟩

variable [Annotated Class] [Annotated Method] {read : State → Place → State}
  {state : ClassScopes Header → List Endpoint → State} {header : Class → Header}
  {declared : Option (Identifier × Class) → Method → Identifier → Nat → List Endpoint}

/-- What a reader makes of the header of a class, the header of a method and the end of a body. -/
structure FollowsDeclarations (read : State → Place → State)
    (state : ClassScopes Header → List Endpoint → State) (header : Class → Header)
    (declared : Option (Identifier × Class) → Method → Identifier → Nat → List Endpoint) :
    Prop where
  nested : ∀ {scopes : ClassScopes Header}, scopes.Settled →
    ∀ (marks : Class) (name : Identifier) {lines : List Text},
      lines.map Text.trim = markLines marks ++ [classLine name] → ∀ endpoints above below,
        Place.Leads read above lines below (state scopes endpoints)
          (state (scopes.enter name.text (header marks)) endpoints)
  method : ∀ {scopes : ClassScopes Header} {owner : Option (Identifier × Class)},
    scopes.Within header owner → ∀ (marks : Method) (name : Identifier) {lines : List Text},
      lines.map Text.trim = markLines marks ++ [methodLine name] → ∀ endpoints above below,
        Place.Leads read above lines below (state scopes endpoints)
          (state scopes.rise (endpoints ++ declared owner marks name above.length))
  ended : ∀ {line : Text}, Text.trim line = endLine → ∀ scopes endpoints above below,
    read (state scopes endpoints) ⟨above, line, below⟩ = state (scopes.advance line) endpoints

theorem FollowsDeclarations.leads (follows : FollowsDeclarations read state header declared)
    (declarations : Declarations Class Method) {lines : List Text}
    (spelled : lines.map Text.trim = declarations.lines) {scopes : ClassScopes Header}
    {owner : Option (Identifier × Class)} (within : scopes.Within header owner)
    (endpoints : List Endpoint) (above below : List Text) :
    Place.Leads read above lines below (state scopes endpoints)
      (state scopes (endpoints ++ declarations.endpoints declared owner above.length)) := by
  -- a declaration leaves the scopes as it found them, so that the next one has the same owner
  induction declarations generalizing lines scopes owner endpoints above below with
  | done =>
    obtain rfl : lines = [] := by simpa [Declarations.lines] using spelled
    simpa [Declarations.endpoints] using Place.Leads.nil
  | method marks name next ih =>
    have split : lines.map Text.trim =
        (markLines marks ++ [methodLine name]) ++ endLine :: next.lines := by
      rw [spelled, Declarations.lines]
      simp
    obtain ⟨first, others, rfl, here, later⟩ := List.map_eq_append_iff.mp split
    obtain ⟨last, remaining, rfl, closes, spelledNext⟩ := List.map_eq_cons_iff.mp later
    have number : ([last].reverse ++ (first.reverse ++ above)).length =
        above.length + (markLines marks).length + 2 := by
      have count := congrArg List.length here
      simp only [List.length_map, List.length_append, List.length_singleton] at count
      simp only [List.length_append, List.length_reverse, List.length_singleton]
      omega
    have declares := follows.method within marks name here endpoints above
      ([last] ++ remaining ++ below)
    have leaves := Place.Leads.single (follows.ended closes scopes.rise
      (endpoints ++ declared owner marks name above.length) (first.reverse ++ above)
      (remaining ++ below))
    rw [within.settled.advance_fall (braceBalance_endLine closes)] at leaves
    have rest := ih spelledNext within (endpoints ++ declared owner marks name above.length)
      ([last].reverse ++ (first.reverse ++ above)) below
    rw [number, List.append_assoc] at rest
    exact declares.append (leaves.append rest)
  | nested marks name body next ihBody ihNext =>
    have split : lines.map Text.trim =
        (markLines marks ++ [classLine name]) ++ (body.lines ++ endLine :: next.lines) := by
      rw [spelled, Declarations.lines]
      simp
    obtain ⟨first, others, rfl, here, later⟩ := List.map_eq_append_iff.mp split
    obtain ⟨inner, outer, rfl, inside, outside⟩ := List.map_eq_append_iff.mp later
    obtain ⟨last, remaining, rfl, closes, spelledNext⟩ := List.map_eq_cons_iff.mp outside
    have numberFirst : first.length = (markLines marks).length + 1 := by
      have count := congrArg List.length here
      simpa only [List.length_map, List.length_append, List.length_singleton] using count
    have numberInner : inner.length = body.lines.length := by
      have count := congrArg List.length inside
      rwa [List.length_map] at count
    have numberBody : (first.reverse ++ above).length =
        above.length + (markLines marks).length + 1 := by
      simp only [List.length_append, List.length_reverse]
      omega
    have numberNext : ([last].reverse ++ (inner.reverse ++ (first.reverse ++ above))).length =
        above.length + (markLines marks).length + body.lines.length + 2 := by
      simp only [List.length_append, List.length_reverse, List.length_singleton]
      omega
    have enters := follows.nested within.settled marks name here endpoints above
      (inner ++ ([last] ++ remaining) ++ below)
    have walks := ihBody inside (.enter scopes name marks) endpoints (first.reverse ++ above)
      ([last] ++ remaining ++ below)
    have leaves := Place.Leads.single (follows.ended closes
      (scopes.enter name.text (header marks))
      (endpoints ++ body.endpoints declared (some (name, marks)) (first.reverse ++ above).length)
      (inner.reverse ++ (first.reverse ++ above)) (remaining ++ below))
    rw [within.settled.advance_leave (braceBalance_endLine closes)] at leaves
    have rest := ihNext spelledNext within
      (endpoints ++ body.endpoints declared (some (name, marks)) (first.reverse ++ above).length)
      ([last].reverse ++ (inner.reverse ++ (first.reverse ++ above))) below
    rw [numberNext, numberBody, List.append_assoc] at rest
    rw [numberBody] at walks leaves
    exact enters.append (walks.append (leaves.append rest))

end Run

end RouteAtlas
