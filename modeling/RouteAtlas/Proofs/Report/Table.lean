import Mathlib.Data.List.Forall2
import RouteAtlas.Proofs.Path
import RouteAtlas.Proofs.Text.Pieces
import RouteAtlas.Report.Table

namespace RouteAtlas

namespace Text

theorem length_le_byteSize (text : Text) : text.length ≤ byteSize text := by
  induction text with
  | nil => exact Nat.le_refl 0
  | cons c text ih =>
    have filled := Char.utf8Size_pos c
    rw [List.length_cons, byteSize]
    omega

theorem lines_flatMap {ι : Type} {lineOf : ι → Text} {items : List ι}
    (whole : ∀ item ∈ items, '\n' ∉ lineOf item)
    (plain : ∀ item ∈ items, (lineOf item).getLast? ≠ some '\r') :
    lines (items.flatMap fun item => lineOf item ++ ['\n']) = items.map lineOf := by
  induction items with
  | nil => rfl
  | cons item items ih =>
    have rest := ih (fun other member => whole other (List.mem_cons_of_mem item member))
      fun other member => plain other (List.mem_cons_of_mem item member)
    have spelled : (item :: items).flatMap (fun item => lineOf item ++ ['\n']) =
        lineOf item ++ '\n' :: items.flatMap fun item => lineOf item ++ ['\n'] := by simp
    have kept : dropReturn (lineOf item) = lineOf item :=
      if_neg (plain item List.mem_cons_self)
    unfold lines at rest ⊢
    rw [spelled, splitOn_append_cons (whole item List.mem_cons_self), List.map_cons, ← rest]
    cases pieces : splitOn '\n' (items.flatMap fun item => lineOf item ++ ['\n']) with
    | nil => exact absurd pieces (splitOn_ne_nil _)
    | cons piece pieces => rw [linesOfPieces, kept]

theorem not_mem_ofNat {c : Char} (other : c.isDigit = false) (number : Nat) : c ∉ ofNat number := by
  intro member
  rw [Nat.isDigit_of_mem_toDigits (by decide) (by decide) member] at other
  cases other

theorem exists_of_mem_join {separator : Text} {pieces : List Text} {c : Char}
    (inside : c ∈ join separator pieces) : c ∈ separator ∨ ∃ piece ∈ pieces, c ∈ piece := by
  induction pieces with
  | nil => cases inside
  | cons piece pieces ih =>
    cases pieces with
    | nil => exact .inr ⟨piece, List.mem_cons_self, inside⟩
    | cons next pieces =>
      simp only [join, List.mem_append] at inside
      rcases inside with (here | between) | later
      · exact .inr ⟨piece, List.mem_cons_self, here⟩
      · exact .inl between
      · rcases ih later with between | ⟨other, member, there⟩
        · exact .inl between
        · exact .inr ⟨other, List.mem_cons_of_mem piece member, there⟩

end Text

namespace Path

theorem mem_spelling_of_below? {path base rest : Path} {c : Char} (below : path.below? base = some rest)
    (inside : c ∈ rest.spelling) : c ∈ path.spelling ∨ c = '.' ∨ c = '/' := by
  have joined {pieces : List Text} (among : ∀ piece ∈ pieces, piece ∈ path.parts.2)
      (inside : c ∈ Text.join ['/'] (trimPieces pieces)) : c ∈ path.spelling ∨ c = '.' ∨ c = '/' := by
    rcases Text.exists_of_mem_join inside with between | ⟨piece, member, here⟩
    · exact .inr (.inr (List.mem_singleton.mp between))
    · exact .inl (Text.mem_of_mem_splitOn
        (path.parts_suffix.subset (among piece (mem_of_mem_trimPieces member))) here)
  unfold below? at below
  cases parts : path.parts with
  | mk lead body =>
  rw [parts] at joined
  simp only [parts] at below
  split at below
  · split at below
    · cases below
      have whole : c ∈ Text.join ['/'] (trimPieces body) → _ := joined fun _ member => member
      cases lead with
      | none => exact whole inside
      | some lead =>
        cases lead with
        | current =>
          simp only [spell] at inside
          split at inside
          · exact .inr (.inl (List.mem_singleton.mp inside))
          · simp only [List.cons_append, List.nil_append, List.mem_cons] at inside
            rcases inside with dot | slash | later
            · exact .inr (.inl dot)
            · exact .inr (.inr slash)
            · exact whole later
        | root | parent | name =>
          rcases List.mem_cons.mp inside with slash | later
          · exact .inr (.inr slash)
          · exact whole later
    · cases below
      exact joined (fun piece member => (dropSteps_suffix _ body).subset
        ((List.dropWhile_suffix isSkipped).subset member)) inside
  · cases below

end Path

theorem feed_not_mem_displayPath {root path : Path} (whole : '\n' ∉ path.spelling) :
    '\n' ∉ displayPath root path := by
  intro member
  obtain ⟨c, inside, same⟩ := List.mem_map.mp member
  obtain rfl : c = '\n' := by
    by_cases back : c = '\\'
    · rw [if_pos back] at same
      cases same
    · rwa [if_neg back] at same
  cases below : path.below? root with
  | none =>
    rw [below] at inside
    exact whole inside
  | some rest =>
    rw [below] at inside
    rcases Path.mem_spelling_of_below? below inside with there | dot | slash
    · exact whole there
    · cases dot
    · cases slash

namespace Table

variable {root : Path} {endpoints : List Endpoint} {endpoint : Endpoint} {texts : List Text}
  {text : Text}

theorem width_le_iff (limit : Nat) :
    width texts ≤ limit ↔ ∀ text ∈ texts, Text.byteSize text ≤ limit := by
  have start : ∀ least, (texts.map Text.byteSize).foldl max least ≤ limit ↔
      least ≤ limit ∧ ∀ text ∈ texts, Text.byteSize text ≤ limit := by
    induction texts with
    | nil => simp
    | cons text texts ih =>
      intro least
      rw [List.map_cons, List.foldl_cons, ih, Nat.max_le, List.forall_mem_cons, and_assoc]
  rw [width, start]
  simp

theorem length_le_width (member : text ∈ texts) : text.length ≤ width texts :=
  Nat.le_trans text.length_le_byteSize ((width_le_iff _).mp (Nat.le_refl _) text member)

theorem length_badge_le (endpoint : Endpoint) : endpoint.badge.length ≤ badgeWidth := by
  unfold Endpoint.badge
  split
  · rename_i framework _
    cases framework <;> decide
  · decide

/-- An endpoint whose texts stay on one line. -/
structure OneLine (endpoint : Endpoint) : Prop where
  route : '\n' ∉ endpoint.route
  owner : '\n' ∉ endpoint.owner
  handler : '\n' ∉ endpoint.handler
  file : '\n' ∉ endpoint.location.file.spelling

def place (root : Path) (endpoint : Endpoint) : Text :=
  displayPath root endpoint.location.file ++ ':' :: Text.ofNat (endpoint.location.line + 1)

/-- Columns of a table, by the number of characters in front of them. -/
structure Columns where
  description : Nat
  badge : Nat
  place : Nat

/-- A line that shows an endpoint in these columns, with at least two blanks between them. -/
def Shows (root : Path) (columns : Columns) (line : Text) (endpoint : Endpoint) : Prop :=
  ∃ first second third, 2 ≤ first ∧ 2 ≤ second ∧ 2 ≤ third ∧
    line = endpoint.label ++ List.replicate first ' ' ++ endpoint.description ++
      List.replicate second ' ' ++ endpoint.badge ++ List.replicate third ' ' ++
        place root endpoint ∧
    endpoint.label.length + first = columns.description ∧
    columns.description + endpoint.description.length + second = columns.badge ∧
    columns.badge + endpoint.badge.length + third = columns.place

def row (root : Path) (labelWidth descriptionWidth : Nat) (endpoint : Endpoint) : Text :=
  pad labelWidth endpoint.label ++ [' ', ' '] ++ pad descriptionWidth endpoint.description ++
    [' ', ' '] ++ pad badgeWidth endpoint.badge ++ [' ', ' '] ++
    displayPath root endpoint.location.file ++ ':' :: Text.ofNat (endpoint.location.line + 1)

theorem row?_eq (root : Path) (labelWidth descriptionWidth : Nat) (endpoint : Endpoint) :
    row? root labelWidth descriptionWidth endpoint =
      if labelWidth ≤ maxWidth ∧ descriptionWidth ≤ maxWidth then
        some (row root labelWidth descriptionWidth endpoint) else none := by
  unfold row? pad?
  by_cases label : labelWidth ≤ maxWidth
  · by_cases description : descriptionWidth ≤ maxWidth
    · simp [label, description, row]
    · simp [description]
  · simp [label]

theorem shows_row (root : Path) (labelWidth descriptionWidth : Nat)
    (label : endpoint.label.length ≤ labelWidth)
    (description : endpoint.description.length ≤ descriptionWidth) :
    Shows root ⟨labelWidth + 2, labelWidth + descriptionWidth + 4,
      labelWidth + descriptionWidth + badgeWidth + 6⟩
        (row root labelWidth descriptionWidth endpoint) endpoint := by
  have badge := length_badge_le endpoint
  refine ⟨labelWidth - endpoint.label.length + 2,
    descriptionWidth - endpoint.description.length + 2, badgeWidth - endpoint.badge.length + 2,
    by omega, by omega, by omega, ?_, by simp only; omega, by simp only; omega, by simp only; omega⟩
  simp [row, pad, place, List.replicate_add]

theorem feed_not_mem_pad {width : Nat} (whole : '\n' ∉ text) : '\n' ∉ pad width text := by
  simp [pad, whole]

theorem feed_not_mem_row (single : OneLine endpoint) (labelWidth descriptionWidth : Nat) :
    '\n' ∉ row root labelWidth descriptionWidth endpoint := by
  have label : '\n' ∉ endpoint.label := by
    have method : '\n' ∉ endpoint.method.tag := by cases endpoint.method <;> decide
    simp [Endpoint.label, method, single.route]
  have description : '\n' ∉ endpoint.description := by
    unfold Endpoint.description
    split <;> simp [single.owner, single.handler]
  have badge : '\n' ∉ endpoint.badge := by
    unfold Endpoint.badge
    split
    · rename_i framework _
      cases framework <;> decide
    · exact List.not_mem_nil
  have file : '\n' ∉ displayPath root endpoint.location.file := feed_not_mem_displayPath single.file
  have number : '\n' ∉ Text.ofNat (endpoint.location.line + 1) := Text.not_mem_ofNat rfl _
  simp [row, feed_not_mem_pad label, feed_not_mem_pad description, feed_not_mem_pad badge, file,
    number]

theorem getLast?_row (labelWidth descriptionWidth : Nat) :
    (row root labelWidth descriptionWidth endpoint).getLast? ≠ some '\r' := by
  have filled : Text.ofNat (endpoint.location.line + 1) ≠ [] := Nat.toDigits_ne_nil
  intro last
  have ended : (Text.ofNat (endpoint.location.line + 1)).getLast? = some '\r' := by
    unfold row at last
    rw [List.append_cons, List.getLast?_append_of_ne_nil _ filled] at last
    exact last
  exact Text.not_mem_ofNat rfl _ (List.mem_of_getLast? ended)

/-- The texts of the padded columns are not too long for them. -/
structure Fits (endpoint : Endpoint) : Prop where
  label : Text.byteSize endpoint.label ≤ maxWidth
  description : Text.byteSize endpoint.description ≤ maxWidth

theorem widths_le_iff (endpoints : List Endpoint) :
    width (endpoints.map (·.label)) ≤ maxWidth ∧ width (endpoints.map (·.description)) ≤ maxWidth ↔
      ∀ endpoint ∈ endpoints, Fits endpoint := by
  rw [width_le_iff, width_le_iff, List.forall_mem_map, List.forall_mem_map]
  constructor
  · intro bounds endpoint member
    exact ⟨bounds.1 endpoint member, bounds.2 endpoint member⟩
  · intro fits
    exact ⟨fun endpoint member => (fits endpoint member).label,
      fun endpoint member => (fits endpoint member).description⟩

theorem render?_of_fits (root : Path) (fits : ∀ endpoint ∈ endpoints, Fits endpoint) :
    render? root endpoints = some (endpoints.flatMap fun endpoint =>
      row root (width (endpoints.map (·.label))) (width (endpoints.map (·.description))) endpoint ++
        ['\n']) := by
  have widths := (widths_le_iff endpoints).mpr fits
  have rows : ∀ items : List Endpoint, items.mapM (row? root (width (endpoints.map (·.label)))
      (width (endpoints.map (·.description)))) = some (items.map (row root
        (width (endpoints.map (·.label))) (width (endpoints.map (·.description))))) := by
    intro items
    induction items with
    | nil => rfl
    | cons item items ih =>
      rw [List.mapM_cons, ih, row?_eq, if_pos widths]
      rfl
  simp only [render?, rows]
  exact congrArg some (List.flatMap_map _ _ _)

/-- A single text that is too long keeps the whole table from being printed. -/
theorem render?_of_not_fits (root : Path) (member : endpoint ∈ endpoints) (wide : ¬ Fits endpoint) :
    render? root endpoints = none := by
  have widths : ¬ (width (endpoints.map (·.label)) ≤ maxWidth ∧
      width (endpoints.map (·.description)) ≤ maxWidth) :=
    fun narrow => wide ((widths_le_iff endpoints).mp narrow endpoint member)
  cases endpoints with
  | nil => cases member
  | cons first rest =>
    simp only [render?, List.mapM_cons, row?_eq, if_neg widths]
    rfl

/-- A table is printed just when the labels and the descriptions fit into columns that can be filled up.
Then endpoints whose texts stay on one line each have one line of it, in order, and there are columns in
which each line shows the description, the framework and the place of its endpoint. -/
theorem render_aligned (root : Path) (endpoints : List Endpoint)
    (single : ∀ endpoint ∈ endpoints, OneLine endpoint) :
    ((∃ text, render? root endpoints = some text) ↔ ∀ endpoint ∈ endpoints, Fits endpoint) ∧
      ∀ text, render? root endpoints = some text →
        text = (Text.lines text).flatMap (· ++ ['\n']) ∧
          ∃ columns, List.Forall₂ (Shows root columns) (Text.lines text) endpoints := by
  have printed : ∀ text, render? root endpoints = some text →
      ∀ endpoint ∈ endpoints, Fits endpoint := by
    intro text found endpoint member
    by_contra wide
    rw [render?_of_not_fits root member wide] at found
    cases found
  refine ⟨⟨fun ⟨text, found⟩ => printed text found, fun fits => ⟨_, render?_of_fits root fits⟩⟩, ?_⟩
  intro text found
  have spelled := render?_of_fits root (printed text found)
  rw [found, Option.some.injEq] at spelled
  have lines : Text.lines text = endpoints.map (row root
      (width (endpoints.map (·.label))) (width (endpoints.map (·.description)))) := by
    rw [spelled]
    exact Text.lines_flatMap (fun endpoint member => feed_not_mem_row (single endpoint member) _ _)
      fun endpoint _ => getLast?_row _ _
  have shown (endpoint : Endpoint) (member : endpoint ∈ endpoints) := shows_row root _ _
    (length_le_width (List.mem_map_of_mem (f := (·.label)) member))
    (length_le_width (List.mem_map_of_mem (f := (·.description)) member))
  rw [lines]
  exact ⟨by rw [spelled, List.flatMap_map], _,
    List.forall₂_map_left_iff.mpr (List.forall₂_same.mpr shown)⟩

def mixedEndpoints : List Endpoint := [
  ⟨"/größe/😀", .get, ⟨⟨"/repo/api\\app.py"⟩, 8⟩, "main", "größe", some .flaskRestful⟩,
  ⟨"/a", .unknown, ⟨⟨"/other/b.java"⟩, 99⟩, "日本", [], none⟩]

theorem render_aligned_of_mixedEndpoints : (∀ endpoint ∈ mixedEndpoints, OneLine endpoint) ∧
    ∃ text, render? ⟨"/repo"⟩ mixedEndpoints = some text ∧
      text = (Text.lines text).flatMap (· ++ ['\n']) ∧
      ∃ columns, List.Forall₂ (Shows ⟨"/repo"⟩ columns) (Text.lines text) mixedEndpoints := by
  have single : ∀ endpoint ∈ mixedEndpoints, OneLine endpoint := by
    intro endpoint member
    simp only [mixedEndpoints, List.mem_cons, List.not_mem_nil, or_false] at member
    rcases member with rfl | rfl <;> exact ⟨by decide, by decide, by decide, by decide⟩
  have fits : ∀ endpoint ∈ mixedEndpoints, Fits endpoint := by
    intro endpoint member
    simp only [mixedEndpoints, List.mem_cons, List.not_mem_nil, or_false] at member
    rcases member with rfl | rfl <;> exact ⟨by decide, by decide⟩
  obtain ⟨always, aligned⟩ := render_aligned ⟨"/repo"⟩ mixedEndpoints single
  obtain ⟨text, found⟩ := always.mpr fits
  exact ⟨single, text, found, aligned text found⟩

def longRoute (letters : Nat) : Endpoint :=
  ⟨'/' :: List.replicate letters 'a', .get, ⟨⟨"/repo/app.py"⟩, 0⟩, "main", "list", some .flask⟩

theorem oneLine_longRoute (letters : Nat) : OneLine (longRoute letters) := by
  have others : '\n' ∉ "main".toList ∧ '\n' ∉ "list".toList ∧ '\n' ∉ "/repo/app.py".toList := by
    decide
  exact ⟨by simp [longRoute], others.1, others.2.1, others.2.2⟩

theorem length_label_longRoute (letters : Nat) : (longRoute letters).label.length = letters + 5 := by
  have method : Method.get.tag = ['G', 'E', 'T'] := rfl
  simp [Endpoint.label, longRoute, method]

/-- Nothing is printed of an endpoint that has all its texts on one line. -/
theorem render?_long_route : (∀ endpoint ∈ [longRoute 69999], OneLine endpoint) ∧
    render? ⟨"/repo"⟩ [longRoute 69999] = none := by
  constructor
  · exact List.forall_mem_singleton.mpr (oneLine_longRoute _)
  · apply render?_of_not_fits _ List.mem_cons_self
    intro fits
    have filled := Nat.le_trans (Text.length_le_byteSize _) fits.label
    rw [length_label_longRoute] at filled
    revert filled
    decide

end Table

end RouteAtlas
