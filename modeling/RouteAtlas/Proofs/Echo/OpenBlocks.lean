import Mathlib.Data.List.Basic
import RouteAtlas.Proofs.Echo.Blocks

namespace RouteAtlas.Echo

/-- The groups behind the calls of a line, its braces not yet read. -/
def Groups.behindCalls (groups : Groups) (line : Text) : Groups :=
  if isCommentOrBlank (Text.trim line) then groups
  else (readGroups (hasChained line) groups (groupPattern.findAll line)).1

def Groups.added (groups : Groups) (line : Text) : List Group :=
  let behind := (groups.behindCalls line).anonymous
  behind.take (behind.length - groups.anonymous.length)

def addedOn (file : Path) (lines : List Text) (number : Nat) : List Group :=
  match lines[number]? with
  | some line => (groupsBefore file lines number).added line
  | none => []

/-- The block that the line `first` starts in has not ended in front of the line `last`. -/
def StaysOpen (file : Path) (lines : List Text) (first last : Nat) : Prop :=
  ∀ number ≤ last, first < number →
    (groupsBefore file lines first).depth ≤ (groupsBefore file lines number).depth

instance (file : Path) (lines : List Text) (first last : Nat) :
    Decidable (StaysOpen file lines first last) :=
  inferInstanceAs (Decidable (∀ number ≤ last, first < number →
    (groupsBefore file lines first).depth ≤ (groupsBefore file lines number).depth))

def heldFrom (file : Path) (lines : List Text) (first last : Nat) : List Group :=
  if StaysOpen file lines first last then addedOn file lines first else []

section Line

variable {groups : Groups} {line : Text}

theorem adds_readGroup (chained : Bool) (groups : Groups) (found : Found) :
    Adds Group.depth groups.depth groups.anonymous (readGroup chained groups found).1.anonymous := by
  rcases readGroup_cases chained groups found with ⟨_, _, _, read⟩ | ⟨_, read | ⟨_, read⟩⟩
  · rw [read]
    exact .refl _
  · rw [read]
    exact .refl _
  · rw [read]
    exact .cons rfl _

theorem adds_readCalls (chained : Bool) (groups : Groups) (found : List Found) :
    Adds Group.depth groups.depth groups.anonymous (groups.readCalls chained found).anonymous := by
  induction found generalizing groups with
  | nil => exact .refl _
  | cons first found ih =>
    have later := ih (readGroup chained groups first).1
    have level : (readGroup chained groups first).1.depth = groups.depth :=
      depth_readCalls chained groups [first]
    rw [level] at later
    exact (adds_readGroup chained groups first).trans later

theorem adds_behindCalls (groups : Groups) (line : Text) :
    Adds Group.depth groups.depth groups.anonymous (groups.behindCalls line).anonymous := by
  unfold Groups.behindCalls
  split
  · exact .refl _
  · rw [readGroups_fst]
    exact adds_readCalls _ _ _

theorem Groups.Stacked.behindCalls (stacked : groups.Stacked) (line : Text) :
    (groups.behindCalls line).Stacked := by
  unfold Groups.behindCalls
  split
  · exact stacked
  · rw [readGroups_fst]
    exact stacked.readCalls _ _

theorem anonymous_behindCalls (groups : Groups) (line : Text) :
    (groups.behindCalls line).anonymous = groups.added line ++ groups.anonymous := by
  obtain ⟨more, split, _⟩ := adds_behindCalls groups line
  simp [Groups.added, split]

theorem depth_of_mem_added {group : Group} (member : group ∈ groups.added line) :
    group.depth = groups.depth := by
  obtain ⟨more, split, level⟩ := adds_behindCalls groups line
  rw [Groups.added, split] at member
  exact level group (by simpa using member)

end Line

section Run

variable {file : Path} {lines : List Text} {first last number : Nat} {line : Text}

/-- A line leaves exactly the groups that are not deeper than the braces behind it. -/
theorem anonymous_succ (file : Path) (here : lines[number]? = some line) :
    (groupsBefore file lines (number + 1)).anonymous =
      ((groupsBefore file lines number).behindCalls line).anonymous.filter fun group =>
        group.depth ≤ (groupsBefore file lines (number + 1)).depth := by
  have stacked := stacked_groupsBefore file lines number
  have read := groupsBefore_succ file here
  rw [← readGroups_fst] at read
  have calls := stacked.behindCalls line
  by_cases skipped : isCommentOrBlank (Text.trim line)
  · -- the braces of the line are not read, and nothing was too deep in front of it
    rw [if_pos skipped] at read
    rw [read, Groups.behindCalls, if_pos skipped, List.filter_eq_self.mpr]
    intro group member
    exact decide_eq_true (stacked.settled.anonymous group member)
  · rw [if_neg skipped] at read
    rw [Groups.behindCalls, if_neg skipped] at calls ⊢
    rw [read]
    exact calls.anonymous_advance line

theorem depth_of_mem_addedOn {group : Group} (member : group ∈ addedOn file lines number) :
    group.depth = (groupsBefore file lines number).depth := by
  unfold addedOn at member
  split at member
  · exact depth_of_mem_added member
  · cases member

theorem staysOpen_succ_iff (before : first ≤ last) :
    StaysOpen file lines first (last + 1) ↔ StaysOpen file lines first last ∧
      (groupsBefore file lines first).depth ≤ (groupsBefore file lines (last + 1)).depth := by
  constructor
  · intro stays
    exact ⟨fun number inside => stays number (Nat.le_succ_of_le inside),
      stays (last + 1) (Nat.le_refl _) (Nat.lt_succ_of_le before)⟩
  · rintro ⟨stays, low⟩ number inside after
    rcases Nat.le_succ_iff.mp inside with earlier | rfl
    · exact stays number earlier after
    · exact low

theorem heldFrom_self (file : Path) (lines : List Text) (number : Nat) :
    heldFrom file lines number number = addedOn file lines number :=
  if_pos fun _ before after => absurd after (Nat.not_lt.mpr before)

theorem filter_heldFrom (before : first ≤ last) :
    ((heldFrom file lines first last).filter fun group =>
      group.depth ≤ (groupsBefore file lines (last + 1)).depth) =
      heldFrom file lines first (last + 1) := by
  simp only [heldFrom, staysOpen_succ_iff before]
  by_cases stays : StaysOpen file lines first last
  · rw [if_pos stays]
    by_cases low : (groupsBefore file lines first).depth ≤ (groupsBefore file lines (last + 1)).depth
    · rw [if_pos ⟨stays, low⟩, List.filter_eq_self.mpr]
      intro group member
      rw [depth_of_mem_addedOn member]
      exact decide_eq_true low
    · rw [if_neg fun both => low both.2, List.filter_eq_nil_iff.mpr]
      intro group member
      rw [depth_of_mem_addedOn member]
      simpa using low
  · rw [if_neg stays, if_neg fun both => stays both.1]
    rfl

/-- In front of a line hold the groups of the lines above whose blocks are still open. -/
theorem anonymous_eq_flatMap (file : Path) (bound : number ≤ lines.length) :
    (groupsBefore file lines number).anonymous =
      (List.range number).reverse.flatMap fun first => heldFrom file lines first number := by
  induction number with
  | zero => rfl
  | succ number ih =>
    have here : lines[number]? = some lines[number] := List.getElem?_eq_getElem bound
    -- until the braces of a line are read, its own groups hold as well
    have behind : ((groupsBefore file lines number).behindCalls lines[number]).anonymous =
        (List.range (number + 1)).reverse.flatMap fun first => heldFrom file lines first number := by
      rw [anonymous_behindCalls, ih (Nat.le_of_lt bound), List.range_succ, List.reverse_append,
        List.reverse_singleton, List.singleton_append, List.flatMap_cons, heldFrom_self, addedOn, here]
    rw [anonymous_succ file here, behind, List.filter_flatMap]
    apply List.flatMap_congr
    intro first member
    exact filter_heldFrom (Nat.le_of_lt_succ (List.mem_range.mp (List.mem_reverse.mp member)))

/--
Whatever the braces of a source, behind each of its lines the groups without a name lie in the order of
their depths, and no group, with or without a name, is left of an ended block. Of the groups that the line
found or added it has dropped those that are too deep and no others, so that the groups of the lines so far
are left whose blocks are still open.
-/
theorem groups_of_open_blocks (file : Path) (here : lines[number]? = some line) :
    (groupsBefore file lines (number + 1)).Stacked ∧
      (groupsBefore file lines (number + 1)).anonymous =
        (((groupsBefore file lines number).behindCalls line).anonymous.filter fun group =>
          group.depth ≤ (groupsBefore file lines (number + 1)).depth) ∧
      (groupsBefore file lines (number + 1)).anonymous =
        (List.range (number + 1)).reverse.flatMap fun first => heldFrom file lines first (number + 1) := by
  have bound : number < lines.length := (List.getElem?_eq_some_iff.mp here).1
  exact ⟨stacked_groupsBefore file lines (number + 1), anonymous_succ file here,
    anonymous_eq_flatMap file bound⟩

def strayBraces : List Text :=
  ["\x7d \x7d", "e.Group(\"/a\")", "if debug \x7b",
    "e.Group(\"/b\"); v1 := e.Group(\"/c\"); v1.Group(\"/d\")", "// \x7d \x7d", "\x7d"]

theorem groups_of_open_blocks_of_strayBraces :
    strayBraces[5]? = some "\x7d".toList ∧
      (groupsBefore ⟨"a.go"⟩ strayBraces 5).anonymous =
        [⟨"/a/b/c/d", -1⟩, ⟨"/a/b", -1⟩, ⟨"/a", -2⟩] ∧
      (groupsBefore ⟨"a.go"⟩ strayBraces 6).Stacked ∧
      (groupsBefore ⟨"a.go"⟩ strayBraces 6).anonymous = [⟨"/a", -2⟩] := by
  have here : strayBraces[5]? = some "\x7d".toList := rfl
  obtain ⟨stacked, left, _⟩ := groups_of_open_blocks ⟨"a.go"⟩ here
  refine ⟨here, by decide +kernel, stacked, ?_⟩
  rw [left]
  decide +kernel

end Run

end RouteAtlas.Echo
