import Mathlib.Data.List.Infix
import RouteAtlas.Endpoint
import RouteAtlas.Proofs.Text.Lowercase

namespace RouteAtlas

namespace Endpoint

/-- The query stands as it is in the route, the owner or the handler. -/
def Holds (endpoint : Endpoint) (query : Text) : Prop :=
  query <:+: endpoint.route ∨ query <:+: endpoint.owner ∨ query <:+: endpoint.handler

variable {endpoint : Endpoint} {needle query : Text}

theorem mentions_iff : endpoint.mentions needle = true ↔
    ∃ field ∈ endpoint.fields, needle <:+: lower field := by
  simp only [mentions, List.any_eq_true, Text.contains_iff_infix]

theorem Holds.exists_field (holds : endpoint.Holds query) : ∃ field ∈ endpoint.fields, query <:+: field := by
  rcases holds with inside | inside | inside
  · exact ⟨_, by simp [fields], inside⟩
  · exact ⟨_, by simp [fields], inside⟩
  · exact ⟨_, by simp [fields], inside⟩

def ownedBy (owner : Text) : Endpoint := ⟨[], .get, ⟨⟨[]⟩, 0⟩, owner, [], none⟩

end Endpoint

variable {endpoints : List Endpoint} {endpoint : Endpoint} {query longer : Text}

theorem search_eq_filter (endpoints : List Endpoint) (query : Text) :
    search endpoints query = endpoints.filter (·.mentions (lower query)) := by
  dsimp only [search]
  split
  · rename_i empty
    rw [List.isEmpty_iff.mp empty]
    refine (List.filter_eq_self.mpr fun endpoint _ => Endpoint.mentions_iff.mpr ?_).symm
    exact ⟨endpoint.route, by simp [Endpoint.fields], List.nil_infix⟩
  · rfl

theorem mem_search_iff : endpoint ∈ search endpoints query ↔
    endpoint ∈ endpoints ∧ ∃ field ∈ endpoint.fields, lower query <:+: lower field := by
  rw [search_eq_filter, List.mem_filter, Endpoint.mentions_iff]

theorem Settled.mem_search (settled : Settled query) (member : endpoint ∈ endpoints)
    (holds : endpoint.Holds query) : endpoint ∈ search endpoints query := by
  obtain ⟨field, listed, inside⟩ := holds.exists_field
  exact mem_search_iff.mpr ⟨member, field, listed, settled.lower_infix inside⟩

theorem Settled.search_sublist (settled : Settled query) (inside : query <:+: longer)
    (endpoints : List Endpoint) : (search endpoints longer).Sublist (search endpoints query) := by
  rw [search_eq_filter, search_eq_filter]
  refine List.monotone_filter_right _ fun endpoint mentioned => ?_
  obtain ⟨field, listed, found⟩ := Endpoint.mentions_iff.mp mentioned
  exact Endpoint.mentions_iff.mpr ⟨field, listed, (settled.lower_infix inside).trans found⟩

theorem mem_search_ownedBy {owner : Text} (sigma : 'Σ' ∈ query) :
    Endpoint.ownedBy owner ∈ search [Endpoint.ownedBy owner] query ↔ lower query <:+: lower owner := by
  rw [mem_search_iff]
  constructor
  · rintro ⟨-, field, listed, inside⟩
    have fields : field ∈ [[], Method.get.tag, owner, [], []] := listed
    -- Every other text here is plain, and a small sigma is not.
    have plain : ∀ other ∈ [[], Method.get.tag, [], []], 'σ' ∉ lower other ∧ 'ς' ∉ lower other := by
      decide +kernel
    by_cases same : field = owner
    · exact same ▸ inside
    · have other : field ∈ [[], Method.get.tag, [], []] := by
        simp only [List.mem_cons, same, false_or] at fields ⊢
        exact fields
      rcases sigma_mem_lower sigma with small | final
      · exact absurd (inside.subset small) (plain field other).1
      · exact absurd (inside.subset final) (plain field other).2
  · intro inside
    exact ⟨List.mem_singleton_self _, owner, by simp [Endpoint.fields, Endpoint.ownedBy], inside⟩

theorem sigma_mem_of_not_settled (unsettled : ¬ Settled query) : 'Σ' ∈ query := by
  by_contra free
  exact unsettled (settled_of_not_mem free)

/--
A search keeps endpoints in their order. It finds every endpoint in which the query stands as it is, and
loses none of them when characters are taken from the query, for exactly the settled queries.
-/
theorem search_complete_iff_settled (query : Text) :
    (∀ endpoints, (search endpoints query).Sublist endpoints) ∧
    (Settled query ↔ ∀ endpoints, ∀ endpoint ∈ endpoints, endpoint.Holds query →
      endpoint ∈ search endpoints query) ∧
    (Settled query ↔ ∀ endpoints longer, query <:+: longer →
      (search endpoints longer).Sublist (search endpoints query)) := by
  refine ⟨fun endpoints => ?_, ⟨?_, ?_⟩, ⟨?_, ?_⟩⟩
  · rw [search_eq_filter]
    exact List.filter_sublist
  · intro settled endpoints endpoint member holds
    exact settled.mem_search member holds
  · intro complete
    by_contra unsettled
    obtain ⟨whole, inside, moved⟩ := exists_lower_not_infix unsettled
    have found := complete [.ownedBy whole] _ List.mem_cons_self (.inr (.inl inside))
    exact moved ((mem_search_ownedBy (sigma_mem_of_not_settled unsettled)).mp found)
  · intro settled endpoints longer inside
    exact settled.search_sublist inside endpoints
  · intro narrowing
    by_contra unsettled
    obtain ⟨whole, inside, moved⟩ := exists_lower_not_infix unsettled
    have sigma := sigma_mem_of_not_settled unsettled
    have longer := (mem_search_ownedBy (inside.subset sigma)).mpr (List.infix_refl (lower whole))
    have found := (narrowing [.ownedBy whole] whole inside).subset longer
    exact moved ((mem_search_ownedBy sigma).mp found)

/-- In front of another word, a sigma at the end of a word looks no further. -/
theorem search_of_words : Settled "ΣΑΣ Α".toList ∧
    let endpoint : Endpoint := ⟨[], .get, ⟨⟨[]⟩, 0⟩, [], "ΜΣΑΣ ΑΜ".toList, none⟩
    endpoint ∈ search [endpoint] "ΣΑΣ Α".toList := by
  have settled : Settled "ΣΑΣ Α".toList := by decide +kernel
  exact ⟨settled, (search_complete_iff_settled _).2.1.mp settled _ _ List.mem_cons_self
    (.inr (.inr (by decide +kernel)))⟩

/-- A last sigma gets the form it has at the end of a word, which it does not have inside of a longer one. -/
theorem search_lost_at_sigma :
    let endpoint : Endpoint := ⟨"/ΑΣΑ".toList, .get, ⟨⟨"app.py".toList⟩, 0⟩, "main".toList,
      "list".toList, some .flask⟩
    endpoint.Holds "ΑΣ".toList ∧ search [endpoint] "ΑΣ".toList = [] ∧
      "ΑΣ".toList <:+: "ΑΣΑ".toList ∧ search [endpoint] "ΑΣΑ".toList = [endpoint] := by
  refine ⟨.inl ?_, ?_, ?_, ?_⟩ <;> decide +kernel

end RouteAtlas
