import Mathlib.Algebra.Group.Int.Defs
import Mathlib.Algebra.GroupWithZero.Nat
import RouteAtlas.Proofs.Code.Balance
import RouteAtlas.Proofs.Code.Place

namespace RouteAtlas.Numbered

/-- What can go wrong in work by line numbers and byte columns: a line is missing, a column lies outside
its text or inside a character, a difference falls below zero, a signed number becomes too large, or a
scan stays where it is. -/
inductive Slip where
  | noLine
  | noColumn
  | belowZero
  | tooLarge
  | standstill
deriving DecidableEq, Repr

abbrev Checked := Except Slip

@[simp] theorem ok_bind {α β : Type} (value : α) (next : α → Checked β) :
    (Except.ok value >>= next : Checked β) = next value := rfl

@[simp] theorem pure_eq_ok {α : Type} (value : α) : (pure value : Checked α) = .ok value := rfl

theorem bind_eq_ok_iff {α β : Type} {first : Checked α} {next : α → Checked β} {result : β} :
    (first >>= next) = .ok result ↔ ∃ value, first = .ok value ∧ next value = .ok result := by
  cases first with
  | error slip => exact ⟨nofun, nofun⟩
  | ok value => simp

section Lists

variable {α β σ : Type}

theorem mapM_eq_ok {read : α → Checked β} {value : α → β} {items : List α}
    (agree : ∀ item ∈ items, read item = .ok (value item)) :
    items.mapM read = .ok (items.map value) := by
  induction items with
  | nil => rfl
  | cons item items ih =>
    rw [List.mapM_cons, agree item List.mem_cons_self, ok_bind,
      ih fun other member => agree other (List.mem_cons_of_mem item member)]
    rfl

theorem findSomeM?_eq_ok {read : α → Checked (Option β)} {value : α → Option β} {items : List α}
    (agree : ∀ item ∈ items, read item = .ok (value item)) :
    items.findSomeM? read = .ok (items.findSome? value) := by
  induction items with
  | nil => rfl
  | cons item items ih =>
    rw [List.findSomeM?, agree item List.mem_cons_self, ok_bind, List.findSome?_cons]
    cases value item with
    | some found => rfl
    | none => exact ih fun other member => agree other (List.mem_cons_of_mem item member)

theorem findSomeM?_map (place : σ → α) (read : α → Checked (Option β)) (items : List σ) :
    (items.map place).findSomeM? read = items.findSomeM? fun item => read (place item) := by
  induction items with
  | nil => rfl
  | cons item items ih => simp only [List.map_cons, List.findSomeM?, ih]

theorem foldlM_eq_ok {read : σ → α → Checked σ} {value : σ → α → σ} (Fits : σ → List α → Prop)
    (agree : ∀ state item items, Fits state (item :: items) →
      read state item = .ok (value state item) ∧ Fits (value state item) items)
    {state : σ} {items : List α} (fits : Fits state items) :
    items.foldlM read state = .ok (items.foldl value state) := by
  induction items generalizing state with
  | nil => rfl
  | cons item items ih =>
    obtain ⟨step, still⟩ := agree state item items fits
    rw [List.foldlM_cons, step, ok_bind, List.foldl_cons]
    exact ih still

theorem foldlM_eq_ok_of_mem {read : σ → α → Checked σ} {value : σ → α → σ} {items : List α}
    (agree : ∀ item ∈ items, ∀ state, read state item = .ok (value state item)) (state : σ) :
    items.foldlM read state = .ok (items.foldl value state) := by
  refine foldlM_eq_ok (fun _ rest => ∀ item ∈ rest, item ∈ items) ?_ fun _ member => member
  intro state item rest among
  exact ⟨agree item (among item List.mem_cons_self) state,
    fun other member => among other (List.mem_cons_of_mem item member)⟩

theorem foldl_keeps {value : σ → α → σ} (part : σ → β) (keeps : ∀ state item,
    part (value state item) = part state) (items : List α) (state : σ) :
    part (items.foldl value state) = part state := by
  induction items generalizing state with
  | nil => rfl
  | cons item items ih => rw [List.foldl_cons, ih, keeps]

end Lists

section Lines

def lineAt (lines : List Text) (number : Nat) : Checked Text :=
  match lines[number]? with
  | some line => .ok line
  | none => .error .noLine

def linesUpTo (lines : List Text) (number : Nat) : Checked (List Text) :=
  if number ≤ lines.length then .ok (lines.take number) else .error .noLine

def linesFrom (lines : List Text) (number : Nat) : Checked (List Text) :=
  if number ≤ lines.length then .ok (lines.drop number) else .error .noLine

variable {lines : List Text} {place : Place}

theorem lineAt_eq_ok_iff {number : Nat} {line : Text} :
    lineAt lines number = .ok line ↔ lines[number]? = some line := by
  rw [lineAt]
  cases lines[number]? <;> simp

theorem lineAt_of_getElem? {number : Nat} {line : Text} (here : lines[number]? = some line) :
    lineAt lines number = .ok line := lineAt_eq_ok_iff.mpr here

theorem lineAt_number (member : place ∈ Place.all lines) :
    lineAt lines place.number = .ok place.line :=
  lineAt_of_getElem? (Place.getElem?_line member)

theorem linesUpTo_number (member : place ∈ Place.all lines) :
    linesUpTo lines place.number = .ok place.above.reverse := by
  have front : lines.take place.number = place.above.reverse := by
    rw [Place.mem_all_iff.mp member, List.take_left' (by simp [Place.number])]
  rw [linesUpTo, if_pos (Nat.le_of_lt (Place.number_lt_of_mem_all member)), front]

theorem drop_eq_cons (member : place ∈ Place.all lines) :
    lines.drop place.number = place.line :: place.below := by
  rw [Place.mem_all_iff.mp member, List.drop_left' (by simp [Place.number])]

theorem drop_number (member : place ∈ Place.all lines) (count : Nat) :
    lines.drop (place.number + 1 + count) = place.below.drop count := by
  rw [← List.drop_drop, ← List.drop_drop, drop_eq_cons member, List.drop_succ_cons, List.drop_zero]

theorem linesFrom_number (member : place ∈ Place.all lines) :
    linesFrom lines (place.number + 1) = .ok place.below := by
  rw [linesFrom, if_pos (Nat.succ_le_of_lt (Place.number_lt_of_mem_all member))]
  exact congrArg Except.ok (drop_number member 0)

theorem zipIdx_allFrom (above lines : List Text) : lines.zipIdx above.length =
    (Place.allFrom above lines).map fun place => (place.line, place.number) := by
  induction lines generalizing above with
  | nil => rfl
  | cons line lines ih => exact congrArg _ (ih (line :: above))

theorem zipIdx_eq (lines : List Text) :
    lines.zipIdx = (Place.all lines).map fun place => (place.line, place.number) :=
  zipIdx_allFrom [] lines

variable {α : Type}

theorem mapM_zipIdx {read : Text × Nat → Checked α} {value : Place → α}
    (agree : ∀ place ∈ Place.all lines, read (place.line, place.number) = .ok (value place)) :
    lines.zipIdx.mapM read = .ok ((Place.all lines).map value) := by
  rw [zipIdx_eq, List.mapM_map]
  exact mapM_eq_ok agree

theorem findSomeM?_zipIdx {read : Text × Nat → Checked (Option α)} {value : Place → Option α}
    (agree : ∀ place ∈ Place.all lines, read (place.line, place.number) = .ok (value place)) :
    lines.zipIdx.findSomeM? read = .ok ((Place.all lines).findSome? value) := by
  rw [zipIdx_eq, findSomeM?_map]
  exact findSomeM?_eq_ok agree

end Lines

section Columns

def sliceFrom (column : Nat) (text : Text) : Checked Text :=
  match Text.dropBytes? column text with
  | some rest => .ok rest
  | none => .error .noColumn

def sliceUpTo (column : Nat) (text : Text) : Checked Text := do
  let rest ← sliceFrom column text
  return text.take (text.length - rest.length)

def slice (start stop : Nat) (text : Text) : Checked Text := do
  let front ← sliceUpTo stop text
  sliceFrom start front

def locate? (accepts : Char → Bool) : Text → Option (Nat × Char)
  | [] => none
  | c :: rest =>
    if accepts c then some (0, c)
    else (locate? accepts rest).map fun (column, d) => (c.utf8Size + column, d)

def columnOf (text : Text) (place : Cursor) : Nat := Text.byteSize text - Text.byteSize place.rest

variable {text front middle rest : Text} {column : Nat} {accepts : Char → Bool}

theorem sliceFrom_eq_ok_iff : sliceFrom column text = .ok rest ↔ text.StartsAt column rest := by
  rw [← Text.dropBytes?_eq_some_iff, sliceFrom]
  cases Text.dropBytes? column text <;> simp

theorem sliceFrom_append (front rest : Text) :
    sliceFrom (Text.byteSize front) (front ++ rest) = .ok rest :=
  sliceFrom_eq_ok_iff.mpr ⟨front, rfl, rfl⟩

theorem sliceUpTo_append (front rest : Text) :
    sliceUpTo (Text.byteSize front) (front ++ rest) = .ok front := by
  rw [sliceUpTo, sliceFrom_append]
  simp

theorem slice_append (front middle rest : Text) :
    slice (Text.byteSize front) (Text.byteSize (front ++ middle)) (front ++ middle ++ rest) =
      .ok middle := by
  rw [slice, sliceUpTo_append]
  exact sliceFrom_append front middle

theorem locate?_eq (accepts : Char → Bool) (text : Text) :
    locate? accepts text = (text.dropWhile (!accepts ·)).head?.map fun c =>
      (Text.byteSize (text.takeWhile (!accepts ·)), c) := by
  induction text with
  | nil => rfl
  | cons c rest ih =>
    cases accepted : accepts c with
    | true => simp [locate?, accepted, Text.byteSize]
    | false =>
      simp [locate?, accepted, Text.byteSize, ih, Function.comp_def]

theorem startsAt_columnOf {place : Cursor} (suffix : place.rest <:+ text) :
    text.StartsAt (columnOf text place) place.rest := by
  obtain ⟨front, rfl⟩ := suffix
  refine ⟨front, rfl, ?_⟩
  rw [columnOf, Text.byteSize_append, Nat.add_sub_cancel]

theorem startsAt_trans {inner : Nat} (outer : text.StartsAt column middle)
    (further : middle.StartsAt inner rest) : text.StartsAt (column + inner) rest := by
  obtain ⟨front, rfl, rfl⟩ := outer
  obtain ⟨more, rfl, rfl⟩ := further
  exact ⟨front ++ more, by rw [List.append_assoc], Text.byteSize_append front more⟩

end Columns

section Numbers

def minus (size other : Nat) : Checked Nat :=
  if other ≤ size then .ok (size - other) else .error .belowZero

def signed (value : Int) : Checked Int :=
  if -2 ^ 31 ≤ value ∧ value < 2 ^ 31 then .ok value else .error .tooLarge

theorem signed_of_natAbs_lt {value : Int} (small : value.natAbs < 2 ^ 31) :
    signed value = .ok value :=
  if_pos (by omega)

end Numbers

section Scans

variable {σ : Type} {limit position next : Nat} {state after : σ}
  {step : Nat → σ → Checked (σ × Option Nat)}

/-- Takes steps below a limit, each of which ends the scan or says where it goes on. -/
def scan (limit : Nat) (step : Nat → σ → Checked (σ × Option Nat)) (position : Nat) (state : σ) :
    Checked σ :=
  if position < limit then
    match step position state with
    | .error slip => .error slip
    | .ok (after, none) => .ok after
    | .ok (after, some next) =>
      if position < next then scan limit step next after else .error .standstill
  else .ok state
termination_by limit - position

/-- No step of a scan stays where it is or goes back. -/
def Advances (step : Nat → σ → Checked (σ × Option Nat)) : Prop :=
  ∀ position state after next, step position state = .ok (after, some next) → position < next

theorem scan_of_le (outside : limit ≤ position) : scan limit step position state = .ok state := by
  rw [scan, if_neg (Nat.not_lt.mpr outside)]

theorem scan_of_ends (inside : position < limit) (ends : step position state = .ok (after, none)) :
    scan limit step position state = .ok after := by
  rw [scan, if_pos inside, ends]

theorem scan_of_goes (inside : position < limit) (goes : step position state = .ok (after, some next))
    (ahead : position < next) : scan limit step position state = scan limit step next after := by
  conv => lhs; rw [scan, if_pos inside, goes]
  exact if_pos ahead

theorem scan_lines (value : List Text → σ) {lines : List Text} {start : σ} (ended : value [] = start)
    (steps : ∀ place ∈ Place.all lines,
      step place.number start = .ok (value (place.line :: place.below), none) ∨
      ∃ skip, step place.number start = .ok (start, some (place.number + 1 + skip)) ∧
        value (place.line :: place.below) = value (place.below.drop skip)) (number : Nat) :
    scan lines.length step number start = .ok (value (lines.drop number)) := by
  generalize size : lines.length - number = left
  induction left using Nat.strongRecOn generalizing number with
  | ind left ih =>
  by_cases inside : number < lines.length
  · obtain ⟨place, member, rfl, _⟩ := Place.exists_of_getElem? (List.getElem?_eq_getElem inside)
    rw [drop_eq_cons member]
    rcases steps place member with ends | ⟨skip, goes, same⟩
    · exact scan_of_ends inside ends
    · rw [scan_of_goes inside goes (by omega), same, ← drop_number member]
      exact ih _ (by omega) _ rfl
  · rw [scan_of_le (Nat.not_lt.mp inside), List.drop_of_length_le (Nat.not_lt.mp inside), ended]

end Scans

end RouteAtlas.Numbered
