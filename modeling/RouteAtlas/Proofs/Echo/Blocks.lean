import RouteAtlas.Proofs.Echo.Scoping

namespace RouteAtlas.Echo

def groupsBefore (file : Path) (lines : List Text) (number : Nat) : Groups :=
  (((Place.all lines).take number).foldl (readLine file) .initial).groups

/-- The first line raises the brace depth by one, and no line brings it back before the last one. -/
structure IsBlock (file : Path) (lines : List Text) (first last : Nat) : Prop where
  ordered : first < last
  inside : last < lines.length
  opens : (groupsBefore file lines (first + 1)).depth = (groupsBefore file lines first).depth + 1
  deeper : ∀ number ≤ last, first < number →
    (groupsBefore file lines first).depth < (groupsBefore file lines number).depth
  closes : (groupsBefore file lines (last + 1)).depth = (groupsBefore file lines first).depth

def binder? (found : Found) : Option Text :=
  match found.part? 2, found.part? 3 with
  | some _, some _ => found.part? 1
  | _, _ => none

def boundOn (line : Text) : List Text :=
  if isCommentOrBlank (Text.trim line) then [] else (groupPattern.findAll line).filterMap binder?

def boundWithin (lines : List Text) (first last : Nat) : List Text :=
  ((lines.take last).drop (first + 1)).flatMap boundOn

section Lines

def hasChained (line : Text) : Bool :=
  (routePattern.findAll line).any fun route => (route.part? 1).isNone

def Groups.readCalls (chained : Bool) (groups : Groups) (found : List Found) : Groups :=
  found.foldl (fun groups found => (readGroup chained groups found).1) groups

theorem readGroups_fst (chained : Bool) (groups : Groups) (found : List Found) :
    (readGroups chained groups found).1 = groups.readCalls chained found := by
  unfold readGroups Groups.readCalls
  exact (List.foldl_hom Prod.fst fun _ _ => rfl).symm

theorem readGroup_cases (chained : Bool) (groups : Groups) (found : Found) :
    (∃ binder base, binder? found = some binder ∧
      (readGroup chained groups found).1 = groups.bindName binder base) ∨
    (binder? found = none ∧ ((readGroup chained groups found).1 = groups ∨
      ∃ base, (readGroup chained groups found).1 = groups.push base)) := by
  unfold readGroup binder?
  cases found.part? 2 with
  | none => exact .inr ⟨rfl, .inl rfl⟩
  | some receiver =>
    cases found.part? 3 with
    | none => exact .inr ⟨rfl, .inl rfl⟩
    | some literal =>
      cases found.part? 1 with
      | some binder => exact .inl ⟨binder, _, rfl, rfl⟩
      | none =>
        cases chained with
        | true => exact .inr ⟨rfl, .inl rfl⟩
        | false => exact .inr ⟨rfl, .inr ⟨_, rfl⟩⟩

theorem groups_readLine (file : Path) (state : State) (place : Place) :
    (readLine file state place).groups =
      if isCommentOrBlank (Text.trim place.line) then state.groups
      else (state.groups.readCalls (hasChained place.line)
        (groupPattern.findAll place.line)).advance place.line := by
  rw [← readGroups_fst]
  unfold readLine
  split <;> rfl

theorem groupsBefore_succ (file : Path) {lines : List Text} {number : Nat} {line : Text}
    (here : lines[number]? = some line) : groupsBefore file lines (number + 1) =
      if isCommentOrBlank (Text.trim line) then groupsBefore file lines number
      else ((groupsBefore file lines number).readCalls (hasChained line)
        (groupPattern.findAll line)).advance line := by
  obtain ⟨place, member, rfl, rfl⟩ := Place.exists_of_getElem? here
  unfold groupsBefore
  rw [Place.foldl_take_succ _ member]
  exact groups_readLine file _ place

theorem depth_readCalls (chained : Bool) (groups : Groups) (found : List Found) :
    (groups.readCalls chained found).depth = groups.depth := by
  induction found generalizing groups with
  | nil => rfl
  | cons first found ih =>
    have same : (readGroup chained groups first).1.depth = groups.depth := by
      rcases readGroup_cases chained groups first with ⟨_, _, _, read⟩ | ⟨_, read | ⟨_, read⟩⟩ <;>
        rw [read] <;> rfl
    rw [← same]
    exact ih _

end Lines

section Stacked

/-- Groups without a name lie in the order of their depths, and no group is left of an ended block. -/
structure Groups.Stacked (groups : Groups) : Prop where
  settled : groups.Settled
  ordered : groups.anonymous.Pairwise fun inner outer => outer.depth ≤ inner.depth

/-- Where no group lies above a deeper one, the innermost groups that are too deep are all that are. -/
theorem dropWhile_eq_filter {anonymous : List Group}
    (ordered : anonymous.Pairwise fun inner outer => outer.depth ≤ inner.depth) (depth : Int) :
    (anonymous.dropWhile fun group => depth < group.depth) =
      anonymous.filter fun group => group.depth ≤ depth := by
  induction anonymous with
  | nil => rfl
  | cons top rest ih =>
    obtain ⟨above, ordered⟩ := List.pairwise_cons.mp ordered
    by_cases low : top.depth ≤ depth
    · have below : ∀ group ∈ top :: rest, group.depth ≤ depth := by
        intro group member
        rcases List.mem_cons.mp member with rfl | under
        · exact low
        · exact Int.le_trans (above group under) low
      rw [List.dropWhile_cons_of_neg (by simpa using low), List.filter_eq_self.mpr]
      simpa using below
    · rw [List.dropWhile_cons_of_pos (by simpa using low), List.filter_cons_of_neg (by simpa using low),
        ih ordered]

namespace Groups.Stacked

variable {groups : Groups} (stacked : groups.Stacked)
include stacked

theorem bindName (binder base : Text) : (groups.bindName binder base).Stacked := by
  refine ⟨⟨stacked.settled.anonymous, ?_⟩, stacked.ordered⟩
  intro entry member
  rcases List.mem_cons.mp member with rfl | old
  · exact Int.le_refl _
  · exact stacked.settled.named entry (List.mem_filter.mp old).1

theorem push (base : Text) : (groups.push base).Stacked := by
  refine ⟨⟨?_, stacked.settled.named⟩, .cons stacked.settled.anonymous stacked.ordered⟩
  intro group member
  rcases List.mem_cons.mp member with rfl | old
  · exact Int.le_refl _
  · exact stacked.settled.anonymous group old

theorem readCalls (chained : Bool) (found : List Found) :
    (groups.readCalls chained found).Stacked := by
  apply List.foldlRecOn found _ stacked
  intro groups stacked first _
  rcases readGroup_cases chained groups first with ⟨_, _, _, read⟩ | ⟨_, read | ⟨_, read⟩⟩
  · rw [read]
    exact stacked.bindName _ _
  · rw [read]
    exact stacked
  · rw [read]
    exact stacked.push _

theorem anonymous_advance (line : Text) : (groups.advance line).anonymous =
    groups.anonymous.filter fun group => group.depth ≤ (groups.advance line).depth :=
  dropWhile_eq_filter stacked.ordered _

theorem advance (line : Text) : (groups.advance line).Stacked := by
  refine ⟨⟨?_, ?_⟩, stacked.ordered.sublist (List.dropWhile_sublist _)⟩
  · intro group member
    rw [stacked.anonymous_advance line] at member
    exact of_decide_eq_true (List.mem_filter.mp member).2
  · intro entry member
    exact of_decide_eq_true (List.mem_filter.mp member).2

end Groups.Stacked

theorem stacked_groupsBefore (file : Path) (lines : List Text) (number : Nat) :
    (groupsBefore file lines number).Stacked := by
  apply List.foldlRecOn (motive := fun state => State.groups state |>.Stacked) _ (readLine file)
  · exact ⟨⟨by simp [State.initial, Groups.empty], by simp [State.initial, Groups.empty]⟩, .nil⟩
  · intro state stacked place _
    rw [groups_readLine]
    split
    · exact stacked
    · exact (stacked.readCalls _ _).advance place.line

end Stacked

section Within

/-- The groups in a block: those from before it, and deeper ones that the block has added. What a
variable held outside is gone once the block has bound it. -/
structure Groups.Within (outer : Groups) (bound : List Text) (groups : Groups) : Prop where
  anonymous : ∃ inner, groups.anonymous = inner ++ outer.anonymous ∧
    ∀ group ∈ inner, outer.depth < group.depth
  named : (groups.named.filter fun entry => entry.2.depth ≤ outer.depth) =
    outer.named.filter fun entry => entry.1 ∉ bound

theorem dropWhile_append_of_le {depth : Int} (inner : List Group) {outer : List Group}
    (low : ∀ group ∈ outer, group.depth ≤ depth) :
    ((inner ++ outer).dropWhile fun group => depth < group.depth) =
      (inner.dropWhile fun group => depth < group.depth) ++ outer := by
  induction inner with
  | nil =>
    cases outer with
    | nil => rfl
    | cons top outer =>
      have stays := low top (by simp)
      rw [List.nil_append, List.dropWhile_cons_of_neg (by simpa using stays)]
      rfl
  | cons group inner ih =>
    rw [List.cons_append, List.dropWhile_cons, List.dropWhile_cons]
    split
    · exact ih
    · rfl

namespace Groups.Within

variable {outer groups : Groups} {bound : List Text} {line : Text}

theorem start (settled : outer.Settled) :
    outer.Within [] { outer with depth := outer.depth + 1 } := by
  refine ⟨⟨[], rfl, by simp⟩, ?_⟩
  rw [List.filter_eq_self.mpr, List.filter_eq_self.mpr]
  · simp
  · intro entry member
    simpa using settled.named entry member

variable (within : outer.Within bound groups)
include within

theorem push (deeper : outer.depth < groups.depth) (base : Text) :
    outer.Within bound (groups.push base) := by
  obtain ⟨inner, split, low⟩ := within.anonymous
  refine ⟨⟨⟨base, groups.depth⟩ :: inner, ?_, ?_⟩, within.named⟩
  · rw [Groups.push, split, List.cons_append]
  · intro group member
    rcases List.mem_cons.mp member with rfl | old
    · exact deeper
    · exact low group old

theorem bindName (deeper : outer.depth < groups.depth) (binder base : Text) :
    outer.Within (bound ++ [binder]) (groups.bindName binder base) := by
  refine ⟨within.anonymous, ?_⟩
  have high : ¬ groups.depth ≤ outer.depth := by omega
  rw [Groups.bindName, List.filter_cons_of_neg (by simpa using high), List.filter_filter]
  calc
    _ = (groups.named.filter fun entry => entry.2.depth ≤ outer.depth).filter
          fun entry => entry.1 != binder := by
      rw [List.filter_filter]
      simp only [Bool.and_comm]
    _ = (outer.named.filter fun entry => entry.1 ∉ bound).filter fun entry => entry.1 != binder := by
      rw [within.named]
    _ = outer.named.filter fun entry => entry.1 ∉ bound ++ [binder] := by
      rw [List.filter_filter]
      apply List.filter_congr
      intro entry _
      rw [Bool.eq_iff_iff]
      simp [and_comm]

theorem readCalls (deeper : outer.depth < groups.depth) (chained : Bool) (found : List Found) :
    outer.Within (bound ++ found.filterMap binder?) (groups.readCalls chained found) := by
  induction found generalizing groups bound with
  | nil =>
    rw [List.filterMap_nil, List.append_nil]
    exact within
  | cons first found ih =>
    have level : outer.depth < (readGroup chained groups first).1.depth := by
      rw [← depth_readCalls chained groups [first]] at deeper
      exact deeper
    rcases readGroup_cases chained groups first with ⟨binder, base, binds, read⟩ | ⟨free, read⟩
    · have next := within.bindName deeper binder base
      rw [← read] at next
      rw [List.filterMap_cons_some binds, List.append_cons]
      exact ih next level
    · have next : outer.Within bound (readGroup chained groups first).1 := by
        rcases read with read | ⟨base, read⟩
        · rw [read]
          exact within
        · rw [read]
          exact within.push deeper base
      rw [List.filterMap_cons_none free]
      exact ih next level

theorem advance (settled : outer.Settled)
    (deeper : outer.depth < groups.depth + braceBalance line) :
    outer.Within bound (groups.advance line) := by
  obtain ⟨inner, split, low⟩ := within.anonymous
  have above : ∀ group ∈ outer.anonymous, group.depth ≤ groups.depth + braceBalance line := by
    intro group member
    exact Int.le_trans (settled.anonymous group member) (by omega)
  refine ⟨⟨inner.dropWhile fun group => groups.depth + braceBalance line < group.depth, ?_, ?_⟩, ?_⟩
  · rw [Groups.advance, split]
    exact dropWhile_append_of_le inner above
  · intro group member
    exact low group ((List.dropWhile_sublist _).subset member)
  · rw [Groups.advance, List.filter_filter, ← within.named]
    apply List.filter_congr
    intro entry _
    rw [Bool.eq_iff_iff]
    simp only [Bool.and_eq_true, decide_eq_true_eq]
    omega

theorem close (settled : outer.Settled) (level : groups.depth + braceBalance line = outer.depth) :
    groups.advance line = { outer with named := outer.named.filter fun entry => entry.1 ∉ bound } := by
  obtain ⟨inner, split, low⟩ := within.anonymous
  have dropped : (inner.dropWhile fun group => outer.depth < group.depth) = [] := by
    rw [← List.append_nil inner, List.dropWhile_append_of_pos]
    · rfl
    · intro group member
      simpa using low group member
  rw [Groups.advance, level, within.named, split, dropWhile_append_of_le inner settled.anonymous,
    dropped, List.nil_append]

end Groups.Within

variable {file : Path} {lines : List Text} {first last : Nat}

theorem boundWithin_succ {number : Nat} {line : Text} (after : first < number)
    (here : lines[number]? = some line) :
    boundWithin lines first (number + 1) = boundWithin lines first number ++ boundOn line := by
  have long : first + 1 ≤ (lines.take number).length := by
    have inside := (List.getElem?_eq_some_iff.mp here).1
    rw [List.length_take]
    omega
  rw [boundWithin, List.take_add_one, here, List.drop_append_of_le_length long, List.flatMap_append]
  simp [boundWithin]

theorem within_of_opening {line : Text} (here : lines[first]? = some line)
    (free : groupPattern.findAll line = [])
    (opens : (groupsBefore file lines (first + 1)).depth =
      (groupsBefore file lines first).depth + 1) :
    (groupsBefore file lines first).Within [] (groupsBefore file lines (first + 1)) := by
  have settled := (stacked_groupsBefore file lines first).settled
  have read := groupsBefore_succ file here
  rw [read] at opens ⊢
  split at opens
  · omega
  · rename_i code
    rw [free] at opens ⊢
    have rises : braceBalance line = 1 := by
      change (groupsBefore file lines first).depth + braceBalance line = _ at opens
      omega
    rw [if_neg code]
    change Groups.Within _ _ ((groupsBefore file lines first).advance line)
    rw [settled.advance_enter rises]
    exact .start settled

/-- Each line of a block leaves the groups from before the block as they are. -/
theorem IsBlock.within (block : IsBlock file lines first last)
    (opening : ∀ line ∈ lines[first]?, groupPattern.findAll line = []) {number : Nat}
    (after : first < number) (before : number ≤ last) :
    (groupsBefore file lines first).Within (boundWithin lines first number)
      (groupsBefore file lines number) := by
  have settled := (stacked_groupsBefore file lines first).settled
  obtain ⟨_, inside, opens, deeper, _⟩ := block
  induction number with
  | zero => omega
  | succ number ih =>
    have here : lines[number]? = some lines[number] := List.getElem?_eq_getElem (by omega)
    rcases Nat.lt_succ_iff_lt_or_eq.mp after with later | rfl
    · have within := ih later (by omega)
      have high := deeper (number + 1) before after
      have read := groupsBefore_succ file here
      rw [boundWithin_succ later here, boundOn]
      rw [read] at high ⊢
      split
      · rw [List.append_nil]
        exact within
      · rename_i code
        rw [if_neg code] at high
        exact (within.readCalls (deeper number (by omega) later) _ _).advance settled high
    · have none : boundWithin lines first (first + 1) = [] := by
        rw [boundWithin, List.drop_eq_nil_of_le (List.length_take_le _ _), List.flatMap_nil]
      rw [none]
      exact within_of_opening here (opening _ here) opens

theorem IsBlock.groups_after (block : IsBlock file lines first last)
    (opening : ∀ line ∈ lines[first]?, groupPattern.findAll line = [])
    (closing : ∀ line ∈ lines[last]?, groupPattern.findAll line = []) :
    groupsBefore file lines (last + 1) =
      { groupsBefore file lines first with
        named := (groupsBefore file lines first).named.filter fun entry =>
          entry.1 ∉ boundWithin lines first last } := by
  have settled := (stacked_groupsBefore file lines first).settled
  have within := block.within opening block.ordered (Nat.le_refl last)
  have high := block.deeper last (Nat.le_refl last) block.ordered
  have falls := block.closes
  have inside := block.inside
  have here : lines[last]? = some lines[last] := List.getElem?_eq_getElem inside
  have read := groupsBefore_succ file here
  rw [closing _ here] at read
  rw [read] at falls ⊢
  split at falls
  · omega
  · rename_i code
    rw [if_neg code]
    exact within.close settled falls

theorem lookup_filter_not_mem (bound : List Text) (receiver : Text) (named : List (Text × Group)) :
    (named.filter fun entry => entry.1 ∉ bound).lookup receiver =
      if receiver ∈ bound then none else named.lookup receiver := by
  induction named with
  | nil => simp
  | cons entry named ih =>
    obtain ⟨name, group⟩ := entry
    rw [List.filter_cons, List.lookup_cons]
    by_cases same : receiver = name
    · subst same
      by_cases held : receiver ∈ bound
      · rw [if_neg (by simpa using held), ih, if_pos held, if_pos held]
      · rw [if_pos (by simpa using held), List.lookup_cons]
        simp [held]
    · have other : (receiver == name) = false := by simpa using same
      rw [other]
      split
      · rw [List.lookup_cons, other]
        exact ih
      · exact ih

/-- A block that has ended leaves to each receiver the routes that it had before, unless the block has
bound it. -/
theorem baseOf_after_block (block : IsBlock file lines first last)
    (opening : ∀ line ∈ lines[first]?, groupPattern.findAll line = [])
    (closing : ∀ line ∈ lines[last]?, groupPattern.findAll line = []) (receiver : Text) :
    (groupsBefore file lines (last + 1)).baseOf receiver =
      if receiver ∈ boundWithin lines first last then (groupsBefore file lines first).activeBase
      else (groupsBefore file lines first).baseOf receiver := by
  have looked := lookup_filter_not_mem (boundWithin lines first last) receiver
    (groupsBefore file lines first).named
  rw [block.groups_after opening closing, Groups.baseOf, looked]
  by_cases bound : receiver ∈ boundWithin lines first last
  · rw [if_pos bound, if_pos bound]
    rfl
  · rw [if_neg bound, if_neg bound]
    rfl

def openedGroups : List Text :=
  ["func routes(e *echo.Echo) \x7b", "api := e.Group(\"/api\")", "e.Group(\"/open\")", "if debug \x7b",
    "v1 := api.Group(\"/v1\")", "v1.Group(\"/x\")", "for \x7b", "\x7d", "\x7d", "\x7d"]

theorem baseOf_after_block_of_openedGroups :
    IsBlock ⟨"a.go"⟩ openedGroups 3 8 ∧ boundWithin openedGroups 3 8 = ["v1".toList] ∧
      (groupsBefore ⟨"a.go"⟩ openedGroups 9).baseOf "api" = "/api".toList ∧
      (groupsBefore ⟨"a.go"⟩ openedGroups 9).baseOf "v1" = "/open".toList := by
  have block : IsBlock ⟨"a.go"⟩ openedGroups 3 8 :=
    ⟨by decide, by decide, by decide +kernel, by decide +kernel, by decide +kernel⟩
  have opening : ∀ line ∈ openedGroups[3]?, groupPattern.findAll line = [] := by
    rintro line ⟨⟩
    rfl
  have closing : ∀ line ∈ openedGroups[8]?, groupPattern.findAll line = [] := by
    rintro line ⟨⟩
    rfl
  have bound : boundWithin openedGroups 3 8 = ["v1".toList] := by decide +kernel
  have restored := baseOf_after_block block opening closing
  rw [bound] at restored
  refine ⟨block, bound, ?_, ?_⟩
  · rw [restored]
    decide +kernel
  · rw [restored]
    decide +kernel

def shadowedGroup : List Text :=
  ["func routes(e *echo.Echo) \x7b", "\tg := e.Group(\"/a\")", "\tif debug \x7b",
    "\t\tg := e.Group(\"/b\")", "\t\x7d", "\tg.GET(\"/c\", list)", "\x7d"]

/-- The function's own group is gone behind the block, though its block is still open. -/
theorem baseOf_lost_after_block :
    IsBlock ⟨"a.go"⟩ shadowedGroup 2 4 ∧
      (∀ line ∈ shadowedGroup[2]?, groupPattern.findAll line = []) ∧
      (∀ line ∈ shadowedGroup[4]?, groupPattern.findAll line = []) ∧
      (groupsBefore ⟨"a.go"⟩ shadowedGroup 2).baseOf "g" = "/a".toList ∧
      (groupsBefore ⟨"a.go"⟩ shadowedGroup 5).baseOf "g" = [] := by
  refine ⟨⟨by decide, by decide, by decide +kernel, by decide +kernel, by decide +kernel⟩, ?_, ?_,
    by decide +kernel, by decide +kernel⟩
  · rintro line ⟨⟩
    rfl
  · rintro line ⟨⟩
    rfl

end Within

end RouteAtlas.Echo
