import RouteAtlas.Endpoint
import RouteAtlas.Proofs.Text.Pieces

namespace RouteAtlas.Route

theorem segments_append (left right : List Text) :
    segments (left ++ right) = segments left ++ segments right := by
  simp [segments]

theorem of_mem_segments {fragments : List Text} {segment : Text}
    (member : segment ∈ segments fragments) :
    segment ≠ [] ∧ Text.trim segment = segment ∧ '/' ∉ segment := by
  simp only [segments, List.mem_filter, List.mem_map, List.mem_flatMap] at member
  obtain ⟨⟨piece, ⟨fragment, _, part⟩, rfl⟩, filled⟩ := member
  refine ⟨by simpa using filled, Text.trim_trim piece, ?_⟩
  intro slash
  exact Text.not_mem_of_mem_splitOn part (Text.mem_of_mem_trim slash)

theorem compose_congr {left right : List Text} (same : segments left = segments right) :
    compose left = compose right := by
  rw [compose, compose, same]

theorem segments_compose (fragments : List Text) :
    segments [compose fragments] = segments fragments := by
  have pieces : ∀ segment ∈ segments fragments, _ := fun segment member => of_mem_segments member
  unfold compose
  generalize segments fragments = kept at pieces
  have trimmed : (kept.map Text.trim).filter (fun segment => !segment.isEmpty) = kept := by
    have same : kept.map Text.trim = kept := by
      rw [List.map_congr_left fun segment member => (pieces segment member).2.1, List.map_id']
    rw [same, List.filter_eq_self]
    intro segment member
    simpa using (pieces segment member).1
  rw [segments, List.flatMap_singleton, Text.splitOn_cons_self]
  cases kept with
  | nil => rfl
  | cons segment rest =>
    rw [Text.splitOn_join (by simp) fun piece member => (pieces piece member).2.2]
    simpa [Text.trim, Text.trimStart, Text.trimEnd] using trimmed

theorem compose_compose (fragments : List Text) :
    compose [compose fragments] = compose fragments :=
  compose_congr (segments_compose fragments)

theorem compose_append (left right : List Text) :
    compose (left ++ right) = compose [compose left, compose right] := by
  refine compose_congr ?_
  calc segments (left ++ right) = segments left ++ segments right := segments_append left right
    _ = segments [compose left] ++ segments [compose right] := by
      rw [segments_compose, segments_compose]
    _ = segments [compose left, compose right] := (segments_append [_] [_]).symm

theorem splitOn_compose {fragments : List Text} (filled : segments fragments ≠ []) :
    Text.splitOn '/' (compose fragments) = [] :: segments fragments := by
  rw [compose, Text.splitOn_cons_self, Text.splitOn_join filled]
  intro segment member
  exact (of_mem_segments member).2.2

theorem compose_eq_root_iff (fragments : List Text) :
    compose fragments = ['/'] ↔ segments fragments = [] := by
  rw [compose, List.cons.injEq]
  constructor
  · rintro ⟨_, joined⟩
    cases kept : segments fragments with
    | nil => rfl
    | cons segment rest =>
      have filled := (of_mem_segments (kept ▸ List.mem_cons_self : segment ∈ segments fragments)).1
      rw [kept] at joined
      cases rest with
      | nil => exact absurd joined filled
      | cons next rest => simp [Text.join] at joined
  · intro empty
    simp [empty, Text.join]

/-- Below the root, no piece after a slash of a composed route is empty. -/
theorem nil_not_mem_splitOn {fragments : List Text} {front rest : Text}
    (below : segments fragments ≠ []) (parted : compose fragments = front ++ '/' :: rest) :
    [] ∉ Text.splitOn '/' rest := by
  intro member
  have pieces := splitOn_compose below
  rw [parted, Text.splitOn_append_separator] at pieces
  cases first : Text.splitOn '/' front with
  | nil => exact Text.splitOn_ne_nil front first
  | cons piece others =>
    rw [first, List.cons_append] at pieces
    have segment : [] ∈ segments fragments := by
      rw [← (List.cons.inj pieces).2]
      simp [member]
    exact (of_mem_segments segment).1 rfl

/-- The form of composed routes: one leading slash, no empty segment, and no slash at the end unless the
route is the root. -/
structure Composed (route : Text) : Prop where
  fixed : compose [route] = route
  rooted : route.head? = some '/'
  filled : ¬ ['/', '/'] <:+: route
  ended : route.getLast? = some '/' → route = ['/']

theorem composed_compose (fragments : List Text) : Composed (compose fragments) := by
  by_cases root : segments fragments = []
  · rw [(compose_eq_root_iff fragments).mpr root]
    exact ⟨by decide, rfl, by decide, fun _ => rfl⟩
  · refine ⟨compose_compose fragments, rfl, ?_, ?_⟩
    · intro slashes
      obtain ⟨front, back, same⟩ := slashes
      have parted : compose fragments = front ++ '/' :: ('/' :: back) := by simp [← same]
      apply nil_not_mem_splitOn root parted
      simp [Text.splitOn_cons_self]
    · intro last
      obtain ⟨front, same⟩ := List.getLast?_eq_some_iff.mp last
      exact absurd (by simp [Text.splitOn]) (nil_not_mem_splitOn root same)

@[simp] theorem segments_base (fragment : Text) : segments [base fragment] = segments [fragment] := by
  by_cases root : compose [fragment] = ['/']
  · rw [(compose_eq_root_iff [fragment]).mp root]
    simp only [base, root, if_true]
    rfl
  · simp only [base, root, if_false]
    exact segments_compose [fragment]

theorem compose_base_cons (fragment : Text) (rest : List Text) :
    compose (base fragment :: rest) = compose (fragment :: rest) := by
  refine compose_congr ?_
  have split : ∀ first : Text, segments (first :: rest) = segments [first] ++ segments rest :=
    fun first => segments_append [first] rest
  rw [split, split, segments_base]

theorem base_congr {fragment other : Text} (same : segments [fragment] = segments [other]) :
    base fragment = base other := by
  rw [base, base, compose_congr same]

theorem compose_base_getD (fragment : Option Text) (route : Text) :
    compose [(fragment.map base).getD [], route] = compose [fragment.getD [], route] := by
  cases fragment with
  | none => rfl
  | some fragment => exact compose_base_cons fragment [route]

/-- Composing and taking bases may be repeated and regrouped freely, and what stands between the slashes of
a composed route is neither empty nor in need of trimming. -/
theorem compose_normalizes (left right rest : List Text) (fragment : Text) :
    compose (left ++ right) = compose [compose left, compose right] ∧
      compose [compose left] = compose left ∧
      compose ([base fragment] ++ rest) = compose ([fragment] ++ rest) ∧
      base (base fragment) = base fragment ∧
      (compose left).head? = some '/' ∧
      ((compose left).getLast? = some '/' → compose left = ['/']) ∧
      (compose left ≠ ['/'] → ∃ pieces, Text.splitOn '/' (compose left) = [] :: pieces ∧
        ∀ piece ∈ pieces, piece ≠ [] ∧ Text.trim piece = piece) := by
  refine ⟨compose_append left right, compose_compose left, compose_base_cons fragment rest,
    base_congr (segments_base fragment), rfl, (composed_compose left).ended, ?_⟩
  intro below
  have filled : segments left ≠ [] := fun none => below ((compose_eq_root_iff left).mpr none)
  refine ⟨segments left, splitOn_compose filled, ?_⟩
  intro piece member
  obtain ⟨solid, trimmed, _⟩ := of_mem_segments member
  exact ⟨solid, trimmed⟩

end RouteAtlas.Route
