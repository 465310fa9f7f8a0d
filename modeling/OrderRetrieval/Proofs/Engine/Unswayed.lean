import OrderRetrieval.Proofs.Engine.Answer

/-!
# Past searches do not sway what is found

Two engines that remember different searches, with stores in any state and failing in any way, give
results that differ in their suggestions and times only, or fail alike (`Engine.search_unswayed`).
Terms are always counted and popular terms always read, whatever commands of the store fail.
-/

namespace OrderRetrieval

/-- Whether two results are equal but for their suggestions and the time they took. -/
def SearchResult.AgreesWith (r r' : SearchResult) : Prop :=
  { r with suggestions := r'.suggestions, millis := r'.millis } = r'

theorem SearchResult.agreesWith_mk (items : List Hit) (total pages : Nat) (paging : Paging)
    (millis millis' : Float) (suggestions suggestions' : List Suggestion)
    (facets : List (Field × Facet.Counts)) (range : Option MomentRange) :
    AgreesWith ⟨items, total, paging, pages, millis, suggestions, facets, range⟩
      ⟨items, total, paging, pages, millis', suggestions', facets, range⟩ := rfl

variable {settings : Settings}

/-- Whatever terms are popular, completing a query fails only for a limit that is not whole. -/
theorem Suggestion.forPartial_alike (index : Index) (h h' : History) (text : Option String)
    (limit : Quantity) :
    Except.Alike Eq (fun _ _ => True) (forPartial settings index h text limit).1
      (forPartial settings index h' text limit).1 := by
  obtain ⟨terms, hterms⟩ := h.popular_all
  obtain ⟨terms', hterms'⟩ := h'.popular_all
  unfold forPartial
  cases text with
  | none => exact .ok trivial
  | some text =>
    dsimp only
    split
    · exact .ok trivial
    · dsimp only
      rw [hterms, hterms']
      refine Except.Alike.bind (R := fun _ _ => True) (.ok trivial) fun _ _ _ => ?_
      refine Except.Alike.bind (R := Eq) (.refl limit.toCount) fun _ _ _ => ?_
      exact .ok trivial

namespace Engine

variable {index : Index} (size : ∃ n, settings.historySize = .whole n)

include size

/-- Consulting the past searches fails alike, whatever they were. -/
theorem consult_alike (e e' : Engine) (p : Plan) :
    Except.Alike Eq (fun _ _ => True) (e.consult settings index p).result
      (e'.consult settings index p).result := by
  unfold consult
  split
  · have recorded (h : History) : ∃ ts, (h.record settings p.text).result = .ok ts :=
      ⟨_, h.record_result size p.text⟩
    obtain ⟨ts, hts⟩ := recorded e.history
    obtain ⟨ts', hts'⟩ := recorded e'.history
    refine Reply.alike_bind (Suggestion.forPartial_alike index e.history e'.history _ _) ?_
    intro ss ss' _
    simp only [Reply.lift, Reply.map, hts, hts']
    exact .ok trivial
  · exact .ok trivial

theorem execute_alike (e e' : Engine) (millis millis' : Float) (p : Plan) :
    Except.Alike Eq SearchResult.AgreesWith (e.execute settings index millis p).result
      (e'.execute settings index millis' p).result := by
  unfold execute
  dsimp only
  cases (do .ok (← (p.found index).result, ← p.facetNames settings) :
      Except Failure (List (Scored Nat) × List Datum)) with
  | error failure => exact .error rfl
  | ok found =>
    obtain ⟨items, names⟩ := found
    refine Reply.alike_bind (consult_alike size e e' p) fun suggestions suggestions' _ => ?_
    refine Except.Alike.map (R := Eq) (.refl _) ?_
    rintro ⟨facets, range⟩ _ rfl
    exact SearchResult.agreesWith_mk ..

/-- Whatever two engines remember, and whatever state their stores are in, their searches for one
query fail alike or find the same; and no failure of a store keeps terms from being counted, popular
terms from being read or queries from being completed. -/
theorem search_unswayed (index : Index) (q : Query) (e e' : Engine) (millis millis' : Float) :
    Except.Alike Eq SearchResult.AgreesWith (e.search settings index millis q).result
        (e'.search settings index millis' q).result ∧
      (∀ text, (e.history.record settings text).result = .ok (History.terms settings text)) ∧
      (∀ limit : Option Int, ∃ terms, (e.history.popular (limit.map .whole)).1 = .ok terms) ∧
      ∀ text limit, ∃ suggestions,
        (Suggestion.forPartial settings index e.history text (.whole limit)).1 =
          .ok suggestions := by
  refine ⟨?_, fun text => e.history.record_result size text, e.history.popular_eq_ok, ?_⟩
  · unfold search
    cases Plan.ofQuery settings q with
    | error failure => exact .error rfl
    | ok planned =>
      obtain ⟨plan, faults⟩ := planned
      dsimp only
      split
      · exact .error rfl
      · exact execute_alike size e e' millis millis' plan
  · intro text limit
    exact Suggestion.forPartial_eq_ok settings index e.history text limit

end Engine

/-! ## A frozen store

A store that hands back bytes, but fails to count and to trim. -/

namespace Frozen

/-- The engine with that store. -/
def engine : Engine where
  history := ⟨[("abc", 3)], some ⟨[("abcd", 7)], false, fun command =>
    if command = .read then none else some "Redis error"⟩⟩
  queries := 3
  totalMillis := 12

/-- An index of two orders. -/
def index : Index := (Order.indexAll .empty 0 (Parcels.orders "b")).1

/-- A search for a text. -/
def query : Query := .simple {
  text := some "abc"
  searchFields := []
  filters := []
  sort := []
  paging := .default
  options := .default
  facetFields := none }

end Frozen

/-- The search finds the same without a store and with the frozen one. -/
theorem Engine.search_unswayed_frozen :
    (∃ n, Settings.default.historySize = .whole n) ∧
      (∃ r, (Frozen.engine.search .default Frozen.index 5 Frozen.query).result = .ok r) ∧
      Except.Alike Eq SearchResult.AgreesWith
        (Frozen.engine.search .default Frozen.index 5 Frozen.query).result
        ((Engine.start none).search .default Frozen.index 0 Frozen.query).result ∧
      (Frozen.engine.history.record .default (some "abc")).result =
        .ok (History.terms .default (some "abc")) := by
  have size : ∃ n, Settings.default.historySize = .whole n := ⟨1000, rfl⟩
  obtain ⟨alike, recorded, -, -⟩ :=
    search_unswayed size Frozen.index Frozen.query Frozen.engine (start none) 5 0
  have answered : ∃ r, (Frozen.engine.search .default Frozen.index 5 Frozen.query).result = .ok r :=
    search_answers Settings.sound_default Parcels.answerable rfl
  exact ⟨size, answered, alike, recorded (some "abc")⟩

end OrderRetrieval
