import OrderRetrieval.Engine.Search
import OrderRetrieval.Proofs.Outcome

/-!
# Suggestions and past searches

With settings that ask for whole numbers of suggestions and of terms, a search always gets its
suggestions and its terms are always counted (`Engine.consult_eq_ok`).
-/

namespace OrderRetrieval

/-- Whether the names that a search counts by, unless its query names others, are those of fields.
-/
def Settings.CountsFields (s : Settings) : Prop :=
  ∃ names fields, s.facetFields.parts = .ok names ∧ Facet.resolve names = .ok fields

/-- Whether settings name fields to count and ask for whole numbers of suggestions and of terms. -/
structure Settings.Sound (s : Settings) : Prop where
  facets : ∃ names fields, s.facetFields.parts = .ok names ∧ Facet.resolve names = .ok fields
  suggestions : ∃ n, s.searchSuggestions = .whole n
  history : ∃ n, s.historySize = .whole n

theorem Settings.sound_default : Settings.default.Sound :=
  ⟨⟨_, _, rfl, rfl⟩, ⟨_, rfl⟩, ⟨_, rfl⟩⟩

namespace History

/-- A store answers for any limit, and a tally for every whole one. -/
theorem popular_eq_ok (h : History) (limit : Option Int) :
    ∃ terms, (h.popular (limit.map .whole)).1 = .ok terms := by
  unfold popular
  cases h.shared with
  | some s => exact ⟨_, rfl⟩
  | none =>
    cases limit with
    | none => exact ⟨_, rfl⟩
    | some n => exact ⟨_, rfl⟩

theorem popular_all (h : History) : ∃ terms, (h.popular none).1 = .ok terms :=
  h.popular_eq_ok none

theorem trim_eq_ok (tally : Tally) (n : Int) : ∃ kept, tally.trim (.whole n) = .ok kept := by
  unfold Tally.trim
  split
  · exact ⟨_, rfl⟩
  · exact ⟨_, rfl⟩

/-- The terms of a query are counted. -/
theorem record_result {settings : Settings} (size : ∃ n, settings.historySize = .whole n)
    (text : Option String) (h : History) :
    (h.record settings text).result = .ok (terms settings text) := by
  obtain ⟨n, size⟩ := size
  unfold record
  split
  · next none => rw [none]; rfl
  · obtain ⟨kept, hkept⟩ := trim_eq_ok (h.tally.addAll (terms settings text)) n
    refine Reply.result_bind_eq_ok.2 ⟨(), ?_, rfl⟩
    simp only [trimTally, size, hkept]
    rfl

end History

/-- A query in the making gets its suggestions. -/
theorem Suggestion.forPartial_eq_ok (settings : Settings) (index : Index) (h : History)
    (text : Option String) (n : Int) :
    ∃ ss, (forPartial settings index h text (.whole n)).1 = .ok ss := by
  obtain ⟨terms, hterms⟩ := h.popular_all
  unfold forPartial
  cases text with
  | none => exact ⟨[], rfl⟩
  | some text =>
    dsimp only
    split
    · exact ⟨[], rfl⟩
    · exact ⟨_, Except.bind_eq_ok.2 ⟨terms, hterms, rfl⟩⟩

/-- Consulting the past searches never fails. -/
theorem Engine.consult_eq_ok {settings : Settings} (sound : settings.Sound) (e : Engine)
    (index : Index) (p : Plan) : ∃ ss, (e.consult settings index p).result = .ok ss := by
  unfold consult
  split
  · obtain ⟨n, limit⟩ := sound.suggestions
    obtain ⟨ss, hss⟩ := Suggestion.forPartial_eq_ok settings index e.history p.text n
    have hts := History.record_result sound.history p.text e.history
    refine ⟨ss, Reply.result_bind_eq_ok.2 ⟨ss, ?_, ?_⟩⟩
    · rw [limit]
      exact hss
    · simp only [Reply.lift, Reply.map, hts]
      rfl
  · exact ⟨[], rfl⟩

end OrderRetrieval
