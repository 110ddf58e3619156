import RouteAtlas.Proofs.Echo.Statements
import RouteAtlas.Proofs.Route

namespace RouteAtlas.Echo

inductive Code where
  | done
  | step (statement : Statement) (next : Code)
  | block (header : Option Name) (body next : Code)

def Code.lines : Code → List Text
  | .done => []
  | .step statement next => statement.text :: next.lines
  | .block header body next => opening header :: (body.lines ++ closing :: next.lines)

structure Scope where
  bound : List (Text × List Text)
  current : List Text

namespace Scope

def empty : Scope := ⟨[], []⟩

def leading (scope : Scope) (receiver : Name) : List Text :=
  (scope.bound.lookup receiver.text).getD scope.current

def joined (scope : Scope) (receiver : Name) (literal : Literal) : List Text :=
  scope.leading receiver ++ [literal.text]

/-- The scope after a statement. A chained group is in scope on its own line only. -/
def after (scope : Scope) : Statement → Scope
  | .assign binder receiver literal =>
    { scope with bound := (binder.text, scope.joined receiver literal) :: scope.bound }
  | .group receiver literal => { scope with current := scope.joined receiver literal }
  | .route .. => scope
  | .chained .. => scope

def endpoint? (scope : Scope) (location : Location) : Statement → Option Endpoint
  | .assign .. => none
  | .group .. => none
  | .route receiver verb literal handler =>
    some ⟨Route.compose (scope.leading receiver ++ [literal.text]), verb.method, location,
      Endpoint.defaultOwner, handler.text, some .echo⟩
  | .chained receiver literal verb own handler =>
    some ⟨Route.compose (scope.joined receiver literal ++ [own.text]), verb.method, location,
      Endpoint.defaultOwner, handler.text, some .echo⟩

end Scope

def Code.endpoints (file : Path) (scope : Scope) (line : Nat) : Code → List Endpoint
  | .done => []
  | .step statement next => (scope.endpoint? ⟨file, line⟩ statement).toList ++
      next.endpoints file (scope.after statement) (line + 1)
  | .block _ body next => body.endpoints file scope (line + 1) ++
      next.endpoints file scope (line + body.lines.length + 2)

def Statement.binder? : Statement → Option Text
  | .assign binder _ _ => some binder.text
  | _ => none

/-- No variable is bound while it is live. -/
def Code.Fresh (live : List Text) : Code → Prop
  | .done => True
  | .step statement next => (∀ binder ∈ statement.binder?, binder ∉ live) ∧
      next.Fresh (statement.binder?.toList ++ live)
  | .block _ body next => body.Fresh live ∧ next.Fresh live

section Depth

def Adds {α : Type} (depthOf : α → Int) (depth : Int) (before after : List α) : Prop :=
  ∃ more, after = more ++ before ∧ ∀ entry ∈ more, depthOf entry = depth

namespace Adds

variable {α : Type} {depthOf : α → Int} {depth : Int} {before between after : List α}

theorem refl (entries : List α) : Adds depthOf depth entries entries :=
  ⟨[], rfl, by simp⟩

theorem cons {entry : α} (level : depthOf entry = depth) (entries : List α) :
    Adds depthOf depth entries (entry :: entries) :=
  ⟨[entry], rfl, by simpa using level⟩

theorem trans (first : Adds depthOf depth before between)
    (second : Adds depthOf depth between after) : Adds depthOf depth before after := by
  obtain ⟨more, rfl, level⟩ := first
  obtain ⟨later, rfl, levelLater⟩ := second
  refine ⟨later ++ more, by rw [List.append_assoc], ?_⟩
  intro entry member
  rcases List.mem_append.mp member with new | old
  · exact levelLater entry new
  · exact level entry old

theorem le (adds : Adds depthOf depth before after) (below : ∀ entry ∈ before, depthOf entry ≤ depth) :
    ∀ entry ∈ after, depthOf entry ≤ depth := by
  obtain ⟨more, rfl, level⟩ := adds
  intro entry member
  rcases List.mem_append.mp member with new | old
  · exact Int.le_of_eq (level entry new)
  · exact below entry old

variable (adds : Adds depthOf (depth + 1) before after)
  (below : ∀ entry ∈ before, depthOf entry ≤ depth)
include adds below

theorem filter_eq : (after.filter fun entry => depthOf entry ≤ depth) = before := by
  obtain ⟨more, rfl, level⟩ := adds
  rw [List.filter_append, List.filter_eq_nil_iff.mpr, List.filter_eq_self.mpr, List.nil_append]
  · intro entry member
    simpa using below entry member
  · intro entry member
    have deeper := level entry member
    simp only [decide_eq_true_eq]
    omega

theorem dropWhile_eq : (after.dropWhile fun entry => depth < depthOf entry) = before := by
  obtain ⟨more, rfl, level⟩ := adds
  rw [List.dropWhile_append_of_pos]
  · cases before with
    | nil => rfl
    | cons entry rest =>
      have stays := below entry (by simp)
      rw [List.dropWhile_cons_of_neg]
      simpa using stays
  · intro entry member
    have deeper := level entry member
    simp only [decide_eq_true_eq]
    omega

end Adds

/-- No group is left of a block that has ended. -/
structure Groups.Settled (groups : Groups) : Prop where
  anonymous : ∀ group ∈ groups.anonymous, group.depth ≤ groups.depth
  named : ∀ entry ∈ groups.named, entry.2.depth ≤ groups.depth

/-- Only groups of the current block are added. -/
structure Groups.Grows (before after : Groups) : Prop where
  depth : after.depth = before.depth
  anonymous : Adds Group.depth before.depth before.anonymous after.anonymous
  named : Adds (·.2.depth) before.depth before.named after.named

namespace Groups

variable {before between groups : Groups} {line : Text}

theorem Grows.refl (groups : Groups) : groups.Grows groups := ⟨rfl, .refl _, .refl _⟩

theorem Grows.trans (first : before.Grows between) (second : between.Grows groups) :
    before.Grows groups := by
  obtain ⟨depth, anonymous, named⟩ := second
  rw [first.depth] at depth anonymous named
  exact ⟨depth, first.anonymous.trans anonymous, first.named.trans named⟩

theorem Settled.grows (settled : before.Settled) (grows : before.Grows groups) : groups.Settled := by
  refine ⟨?_, ?_⟩
  · rw [grows.depth]
    exact grows.anonymous.le settled.anonymous
  · rw [grows.depth]
    exact grows.named.le settled.named

theorem advance_eq {depth : Int} (moves : groups.depth + braceBalance line = depth)
    (anonymous : Adds Group.depth (depth + 1) before.anonymous groups.anonymous)
    (named : Adds (·.2.depth) (depth + 1) before.named groups.named)
    (settled : Settled { before with depth := depth }) :
    groups.advance line = { before with depth := depth } := by
  simp only [advance, moves, anonymous.dropWhile_eq settled.anonymous,
    named.filter_eq settled.named]

theorem Settled.rise (settled : groups.Settled) {depth : Int} (higher : groups.depth ≤ depth) :
    Settled { groups with depth := depth } :=
  ⟨fun group member => Int.le_trans (settled.anonymous group member) higher,
    fun entry member => Int.le_trans (settled.named entry member) higher⟩

theorem Settled.advance_stay (settled : groups.Settled) (level : braceBalance line = 0) :
    groups.advance line = groups :=
  advance_eq (by rw [level, Int.add_zero]) (.refl _) (.refl _) settled

theorem Settled.advance_enter (settled : groups.Settled) (rises : braceBalance line = 1) :
    groups.advance line = { groups with depth := groups.depth + 1 } :=
  advance_eq (by rw [rises]) (.refl _) (.refl _) (settled.rise (by omega))

/-- The brace that ends a block drops exactly the groups of that block. -/
theorem Settled.advance_leave (settled : before.Settled) (falls : braceBalance line = -1)
    (grows : Grows { before with depth := before.depth + 1 } groups) :
    groups.advance line = before := by
  refine advance_eq ?_ grows.anonymous grows.named settled
  rw [grows.depth, falls]
  exact Int.add_neg_cancel_right before.depth 1

end Groups

end Depth

section Tracking

theorem Groups.activeBase_push (groups : Groups) (base : Text) :
    (groups.push base).activeBase = base := rfl

/-- Groups give the same segments as the scope, and only live variables hold one. -/
structure Tracks (groups : Groups) (scope : Scope) (live : List Text) : Prop where
  named : ∀ name, (groups.named.lookup name).map (fun group => Route.segments [group.base]) =
    (scope.bound.lookup name).map Route.segments
  current : Route.segments [groups.activeBase] = Route.segments scope.current
  live : ∀ entry ∈ groups.named, entry.1 ∈ live

namespace Tracks

variable {groups : Groups} {scope : Scope} {live : List Text} (tracks : Tracks groups scope live)
include tracks

theorem segments_baseOf (receiver : Name) :
    Route.segments [groups.baseOf receiver.text] = Route.segments (scope.leading receiver) := by
  have named := tracks.named receiver.text
  unfold Groups.baseOf Scope.leading
  cases held : groups.named.lookup receiver.text with
  | none =>
    cases bound : scope.bound.lookup receiver.text with
    | none => exact tracks.current
    | some literals => simp [held, bound] at named
  | some group =>
    cases bound : scope.bound.lookup receiver.text with
    | none => simp [held, bound] at named
    | some literals => simpa [held, bound] using named

theorem segments_joined (receiver : Name) (literal : Literal) :
    Route.segments [groups.joined receiver literal] =
      Route.segments (scope.joined receiver literal) := by
  have split : Route.segments [groups.baseOf receiver.text, literal.text] =
      Route.segments [groups.baseOf receiver.text] ++ Route.segments [literal.text] :=
    Route.segments_append [_] [_]
  rw [Groups.joined, Route.segments_base, Route.segments_compose, split,
    tracks.segments_baseOf receiver, Scope.joined, Route.segments_append]

theorem endpoint?_eq (location : Location) (statement : Statement) :
    groups.endpoint? location Endpoint.defaultOwner statement = scope.endpoint? location statement := by
  have composed : ∀ {base : Text} {literals : List Text}, Route.segments [base] =
      Route.segments literals → ∀ literal : Literal,
        Route.compose [base, literal.text] = Route.compose (literals ++ [literal.text]) := by
    intro base literals same literal
    refine Route.compose_congr ?_
    rw [Route.segments_append, ← same, ← Route.segments_append, List.singleton_append]
  cases statement with
  | assign binder receiver literal => rfl
  | group receiver literal => rfl
  | route receiver verb literal handler =>
    simp only [Groups.endpoint?, Scope.endpoint?, composed (tracks.segments_baseOf receiver)]
  | chained receiver literal verb own handler =>
    simp only [Groups.endpoint?, Scope.endpoint?, composed (tracks.segments_joined receiver literal)]

theorem bindName_eq {binder : Text} (fresh : binder ∉ live) (base : Text) :
    groups.bindName binder base =
      { groups with named := (binder, ⟨base, groups.depth⟩) :: groups.named } := by
  have kept : (groups.named.filter fun entry => entry.1 != binder) = groups.named := by
    rw [List.filter_eq_self]
    intro entry member
    rw [bne_iff_ne]
    rintro rfl
    exact fresh (tracks.live entry member)
  rw [Groups.bindName, kept]

theorem grows_after {statement : Statement} (fresh : ∀ binder ∈ statement.binder?, binder ∉ live) :
    groups.Grows (groups.after statement) := by
  cases statement with
  | assign binder receiver literal =>
    rw [Groups.after, tracks.bindName_eq (fresh binder.text rfl)]
    exact ⟨rfl, .refl _, .cons rfl _⟩
  | group receiver literal => exact ⟨rfl, .cons rfl _, .refl _⟩
  | route receiver verb literal handler => exact .refl groups
  | chained receiver literal verb own handler => exact .refl groups

theorem after {statement : Statement} (fresh : ∀ binder ∈ statement.binder?, binder ∉ live) :
    Tracks (groups.after statement) (scope.after statement)
      (statement.binder?.toList ++ live) := by
  cases statement with
  | assign binder receiver literal =>
    rw [Groups.after, tracks.bindName_eq (fresh binder.text rfl)]
    refine ⟨?_, tracks.current, ?_⟩
    · intro name
      simp only [Scope.after, List.lookup_cons]
      split
      · simpa using tracks.segments_joined receiver literal
      · exact tracks.named name
    · intro entry member
      rcases List.mem_cons.mp member with rfl | old
      · simp [Statement.binder?]
      · exact List.mem_append_right _ (tracks.live entry old)
  | group receiver literal =>
    have current := tracks.segments_joined receiver literal
    rw [← Groups.activeBase_push groups (groups.joined receiver literal)] at current
    exact ⟨tracks.named, current, tracks.live⟩
  | route receiver verb literal handler => exact tracks
  | chained receiver literal verb own handler => exact tracks

theorem enter : Tracks { groups with depth := groups.depth + 1 } scope live :=
  ⟨tracks.named, tracks.current, tracks.live⟩

end Tracks

end Tracking

section Run

variable {file : Path} {groups : Groups} {owner : Text} {endpoints : List Endpoint} {place : Place}

theorem Groups.Settled.readLine_opening (settled : groups.Settled) {header : Option Name}
    (opens : Text.trim place.line = opening header) :
    readLine file ⟨groups, owner, endpoints⟩ place =
      ⟨{ groups with depth := groups.depth + 1 }, owner, endpoints⟩ := by
  rw [Echo.readLine_opening opens]
  simp only [settled.advance_enter (braceBalance_opening opens)]

theorem Groups.Settled.readLine_closing {before : Groups} (settled : before.Settled)
    (grows : Grows { before with depth := before.depth + 1 } groups)
    (closes : Text.trim place.line = closing) :
    readLine file ⟨groups, owner, endpoints⟩ place = ⟨before, owner, endpoints⟩ := by
  rw [Echo.readLine_closing closes]
  simp only [settled.advance_leave (braceBalance_closing closes) grows]

theorem Tracks.readLine_statement {scope : Scope} {live : List Text}
    (tracks : Tracks groups scope live) {statement : Statement}
    (settled : (groups.after statement).Settled)
    (spelled : Text.trim place.line = statement.text) :
    readLine file ⟨groups, Endpoint.defaultOwner, endpoints⟩ place =
      ⟨groups.after statement, Endpoint.defaultOwner,
        endpoints ++ (scope.endpoint? ⟨file, place.number⟩ statement).toList⟩ := by
  rw [Echo.readLine_statement spelled, tracks.endpoint?_eq]
  simp only [settled.advance_stay (braceBalance_statement spelled)]

/-- Reading the lines of code gives its endpoints, and leaves the groups that the code adds to the
block it stands in. What follows the code is left to read. -/
theorem Code.foldl_readLine (file : Path) (code : Code) {lines : List Text}
    (spelled : lines.map Text.trim = code.lines) {groups : Groups} {scope : Scope}
    {live : List Text} (settled : groups.Settled) (tracks : Tracks groups scope live)
    (fresh : code.Fresh live) (endpoints : List Endpoint) (above rest : List Text) :
    ∃ after, groups.Grows after ∧
      (Place.allFrom above (lines ++ rest)).foldl (readLine file)
          ⟨groups, Endpoint.defaultOwner, endpoints⟩ =
        (Place.allFrom (lines.reverse ++ above) rest).foldl (readLine file)
          ⟨after, Endpoint.defaultOwner, endpoints ++ code.endpoints file scope above.length⟩ := by
  induction code generalizing lines groups scope live endpoints above rest with
  | done =>
    obtain rfl : lines = [] := by simpa [Code.lines] using spelled
    exact ⟨groups, .refl groups, by simp [Code.endpoints]⟩
  | step statement next ih =>
    obtain ⟨line, below, rfl, here, later⟩ := List.map_eq_cons_iff.mp spelled
    obtain ⟨bound, freshLater⟩ := fresh
    have grown := tracks.grows_after bound
    have settledAfter := settled.grows grown
    obtain ⟨after, grows, run⟩ := ih later settledAfter (tracks.after bound) freshLater
      (endpoints ++ (scope.endpoint? ⟨file, above.length⟩ statement).toList) (line :: above) rest
    refine ⟨after, grown.trans grows, ?_⟩
    rw [List.cons_append, Place.allFrom, List.foldl_cons,
      tracks.readLine_statement settledAfter here, Place.number, run]
    simp [Code.endpoints]
  | block header body next ihBody ihNext =>
    obtain ⟨first, below, rfl, opens, later⟩ := List.map_eq_cons_iff.mp spelled
    obtain ⟨inner, outer, rfl, inside, outside⟩ := List.map_eq_append_iff.mp later
    obtain ⟨last, remaining, rfl, closes, spelledNext⟩ := List.map_eq_cons_iff.mp outside
    obtain ⟨freshBody, freshNext⟩ := fresh
    obtain ⟨inBlock, grows, runBody⟩ := ihBody inside (settled.rise (by omega)) tracks.enter
      freshBody endpoints (first :: above) (last :: remaining ++ rest)
    obtain ⟨after, growsNext, runNext⟩ := ihNext spelledNext settled tracks freshNext
      (endpoints ++ body.endpoints file scope (first :: above).length)
      (last :: (inner.reverse ++ first :: above)) rest
    have length : inner.length = body.lines.length := by
      rw [← inside, List.length_map]
    have number : (last :: (inner.reverse ++ first :: above)).length =
        above.length + body.lines.length + 2 := by
      simp only [List.length_cons, List.length_append, List.length_reverse, length]
      omega
    refine ⟨after, growsNext, ?_⟩
    rw [List.cons_append, Place.allFrom, List.foldl_cons, settled.readLine_opening opens,
      List.append_assoc, runBody, List.cons_append, Place.allFrom, List.foldl_cons,
      settled.readLine_closing grows closes, runNext, number]
    simp [Code.endpoints]

end Run

/-- Code that binds no live variable again has the endpoints that its blocks give. -/
theorem extract_eq_endpoints {file : Path} {content : Text} {code : Code}
    (spelled : (Text.lines content).map Text.trim = code.lines) (fresh : code.Fresh []) :
    extract file content = code.endpoints file .empty 0 := by
  have settled : Groups.empty.Settled := ⟨by simp [Groups.empty], by simp [Groups.empty]⟩
  have tracks : Tracks .empty .empty [] := ⟨fun _ => rfl, rfl, by simp [Groups.empty]⟩
  obtain ⟨after, _, run⟩ := code.foldl_readLine file spelled settled tracks fresh [] [] []
  rw [List.append_nil] at run
  rw [extract, Place.all, State.initial, run]
  rfl

def nestedBlocks : Code :=
  .block (some ⟨"routes", by decide, by decide⟩)
    (.step (.assign ⟨"api", by decide, by decide⟩ ⟨"e", by decide, by decide⟩ ⟨"/api", by decide⟩)
    (.block none
      (.step (.group ⟨"api", by decide, by decide⟩ ⟨"\x7bid\x7d//", by decide⟩)
      (.step (.route ⟨"e", by decide, by decide⟩ .get ⟨"a", by decide⟩
        ⟨⟨"h", by decide, by decide⟩, by decide⟩)
      .done))
    (.step (.chained ⟨"api", by decide, by decide⟩ ⟨"v1", by decide⟩ .put ⟨"b", by decide⟩
      ⟨⟨"h", by decide, by decide⟩, by decide⟩)
    (.step (.route ⟨"e", by decide, by decide⟩ .delete ⟨"c", by decide⟩
      ⟨⟨"h", by decide, by decide⟩, by decide⟩)
    .done))))
    .done

theorem extract_eq_endpoints_of_nestedBlocks :
    extract ⟨"a.go"⟩ (Text.join ['\n'] nestedBlocks.lines) =
      [⟨"/api/\x7bid\x7d/a", .get, ⟨⟨"a.go"⟩, 4⟩, "main", "h", some .echo⟩,
        ⟨"/api/v1/b", .put, ⟨⟨"a.go"⟩, 6⟩, "main", "h", some .echo⟩,
        ⟨"/c", .delete, ⟨⟨"a.go"⟩, 7⟩, "main", "h", some .echo⟩] := by
  have spelled : (Text.lines (Text.join ['\n'] nestedBlocks.lines)).map Text.trim =
      nestedBlocks.lines := by
    decide +kernel
  have fresh : nestedBlocks.Fresh [] := by
    simp [nestedBlocks, Code.Fresh, Statement.binder?]
  rw [extract_eq_endpoints spelled fresh]
  decide +kernel

end RouteAtlas.Echo
