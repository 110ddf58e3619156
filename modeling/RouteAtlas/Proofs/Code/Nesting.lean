import RouteAtlas.Proofs.Code.ClassScope

namespace RouteAtlas.ClassScopes

variable {α : Type}

inductive Step (α : Type) where
  | header (name : Text) (header : α)
  | line (text : Text)

def step (state : ClassScopes α) : Step α → ClassScopes α
  | .header name header => state.openClass name header
  | .line text => state.advance text

def run (state : ClassScopes α) (steps : List (Step α)) : ClassScopes α := steps.foldl step state

def trace (state : ClassScopes α) : List (Step α) → List (ClassScopes α)
  | [] => []
  | first :: steps => state.step first :: trace (state.step first) steps

/-- The name of the innermost class that has been entered, and what its header said. -/
def innermost? (state : ClassScopes α) : Option (Text × α) :=
  state.current?.map fun scope => (scope.name, scope.header)

/-- All classes have been entered, and their bodies are open, one inside the other. -/
structure Proper (state : ClassScopes α) : Prop where
  entered : ∀ scope ∈ state.scopes, scope.entered
  below : ∀ scope ∈ state.scopes, scope.openDepth < state.depth
  ordered : state.scopes.Pairwise fun inner outer => outer.openDepth < inner.openDepth

theorem Proper.settled {state : ClassScopes α} (proper : state.Proper) : state.Settled := by
  intro scope first
  have member : scope ∈ state.scopes := List.mem_of_head? first
  exact ⟨proper.entered scope member, proper.below scope member⟩

abbrev Raising (amount : Int) := { line : Text // braceBalance line = amount }

abbrev Braceless := { line : Text // braceCounts line = (0, 0) }

/-- Code in which all that is opened is closed: lines that keep the brace depth, blocks, and classes, whose
opening brace may stand some lines below their header. -/
inductive Nesting (α : Type) where
  | done
  | level (line : Raising 0) (next : Nesting α)
  | block (opening : Raising 1) (body : Nesting α) (closing : Raising (-1)) (next : Nesting α)
  | classBody (name : Text) (header : α) (gap : List Braceless) (opening : Raising 1)
      (body : Nesting α) (closing : Raising (-1)) (next : Nesting α)

namespace Nesting

def steps : Nesting α → List (Step α)
  | .done => []
  | .level line next => .line line :: next.steps
  | .block opening body closing next =>
    .line opening :: (body.steps ++ .line closing :: next.steps)
  | .classBody name header gap opening body closing next =>
    .header name header :: (gap.map (fun line => .line line.1) ++
      .line opening :: (body.steps ++ .line closing :: next.steps))

/-- The class around the place behind each step, when `around` is the class around the code. -/
def owners (around : Option (Text × α)) : Nesting α → List (Option (Text × α))
  | .done => []
  | .level _ next => around :: next.owners around
  | .block _ body _ next => around :: (body.owners around ++ around :: next.owners around)
  | .classBody name header gap _ body _ next =>
    around :: (gap.map (fun _ => around) ++
      some (name, header) :: (body.owners (some (name, header)) ++ around :: next.owners around))

end Nesting

/-- The steps lead from one state to the other, and behind each of them this class is innermost. -/
def Leads (before : ClassScopes α) (steps : List (Step α)) (after : ClassScopes α)
    (owners : List (Option (Text × α))) : Prop :=
  before.run steps = after ∧ (before.trace steps).map innermost? = owners

namespace Leads

variable {before middle after : ClassScopes α} {first second : List (Step α)}
  {owners more : List (Option (Text × α))}

theorem nil : Leads before [] before [] := ⟨rfl, rfl⟩

theorem cons {next : Step α} {owner : Option (Text × α)} (step : before.step next = middle)
    (current : middle.innermost? = owner) (rest : Leads middle second after more) :
    Leads before (next :: second) after (owner :: more) := by
  subst step current
  exact ⟨rest.1, congrArg _ rest.2⟩

theorem append (left : Leads before first middle owners) (right : Leads middle second after more) :
    Leads before (first ++ second) after (owners ++ more) := by
  induction first generalizing before owners with
  | nil =>
    obtain ⟨rfl, rfl⟩ := left
    exact right
  | cons next first ih =>
    obtain ⟨reached, rfl⟩ := left
    exact cons rfl rfl (ih ⟨reached, rfl⟩)

theorem still {ι : Type} {lineOf : ι → Text} {lines : List ι}
    (same : ∀ line ∈ lines, before.advance (lineOf line) = before) :
    Leads before (lines.map fun line => .line (lineOf line)) before
      (lines.map fun _ => before.innermost?) := by
  induction lines with
  | nil => exact nil
  | cons line lines ih =>
    exact cons (same line List.mem_cons_self) rfl
      (ih fun other member => same other (List.mem_cons_of_mem line member))

end Leads

theorem leads_nesting (nesting : Nesting α) {state : ClassScopes α} (settled : state.Settled) :
    Leads state nesting.steps state (nesting.owners state.innermost?) := by
  induction nesting generalizing state with
  | done => exact .nil
  | level line next ih => exact .cons (settled.advance_level line.2) rfl (ih settled)
  | block opening body closing next ihBody ihNext =>
    have inside : Leads state.rise body.steps state.rise (body.owners state.innermost?) :=
      ihBody settled.rise
    have leaves : Leads state.rise (.line closing :: next.steps) state
        (state.innermost? :: next.owners state.innermost?) :=
      .cons (settled.advance_fall closing.2) rfl (ihNext settled)
    exact .cons (settled.advance_rise opening.2) rfl (inside.append leaves)
  | classBody name header gap opening body closing next ihBody ihNext =>
    -- a class that has not been entered is not yet innermost
    have waits : Leads (state.openClass name header) (gap.map fun line => .line line.1)
        (state.openClass name header) (gap.map fun _ => state.innermost?) :=
      .still fun line _ => advance_openClass_of_braceless line.2
    have inside : Leads (state.enter name header) body.steps (state.enter name header)
        (body.owners (some (name, header))) := ihBody (settled_enter name header)
    have leaves : Leads (state.enter name header) (.line closing :: next.steps) state
        (state.innermost? :: next.owners state.innermost?) :=
      .cons (settled.advance_leave closing.2) rfl (ihNext settled)
    exact .cons rfl rfl (waits.append
      (.cons (advance_openClass opening.2) rfl (inside.append leaves)))

/-- Well nested code leaves the classes and the brace depth exactly as they were. Behind each of its steps
the innermost class is the one that the nesting has around that place, with what its header said: from
the line that opens a class body on it is that class, and up to that line still the one around it. -/
theorem run_nesting (nesting : Nesting α) {state : ClassScopes α} (proper : state.Proper) :
    state.run nesting.steps = state ∧
      (state.trace nesting.steps).map innermost? = nesting.owners state.innermost? :=
  leads_nesting nesting proper.settled

def lateBrace : Nesting Nat :=
  .classBody "Inner" 7 [⟨"static class Inner", by decide⟩, ⟨"// \x7b", by decide⟩] ⟨"  \x7b", by decide⟩
    (.block ⟨"if (x) \x7b", by decide⟩
      (.level ⟨"\x7d else \x7b", by decide⟩
        (.classBody "Local" 8 [] ⟨"class Local \x7b int a() \x7b return 1; \x7d", by decide⟩ .done
          ⟨"\x7d // \x7b", by decide⟩ .done))
      ⟨"\x7d", by decide⟩ .done)
    ⟨"\x7d", by decide⟩ (.level ⟨"String s = \"\x7d\";", by decide⟩ .done)

theorem run_nesting_of_lateBrace :
    let state : ClassScopes Nat := ⟨[⟨"B", 6, 1, true⟩, ⟨"A", 5, 0, true⟩], 2⟩
    let outer := some ("B".toList, 6)
    let inner := some ("Inner".toList, 7)
    state.Proper ∧ state.run lateBrace.steps = state ∧
      (state.trace lateBrace.steps).map innermost? =
        [outer, outer, outer, inner, inner, inner, inner, some ("Local".toList, 8), inner, inner,
          outer, outer] := by
  have proper : (⟨[⟨"B", 6, 1, true⟩, ⟨"A", 5, 0, true⟩], 2⟩ : ClassScopes Nat).Proper :=
    ⟨by decide, by decide, by decide⟩
  exact ⟨proper, run_nesting lateBrace proper⟩

end RouteAtlas.ClassScopes
