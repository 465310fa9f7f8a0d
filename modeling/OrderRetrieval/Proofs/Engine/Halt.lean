import OrderRetrieval.Proofs.Engine.Meaning
import OrderRetrieval.Proofs.Sorting.Obstacle

/-!
# How a search without faults may fail

Once a query has been found without faults, a search can fail only because of what it meets: a
timestamp outside the calendar, texts that cannot be compared, or settings that ask for no whole
number of suggestions or terms (`Engine.execute_failsOnly`).  It is never rejected then.
-/

namespace OrderRetrieval

/-- Whether a failure may end a search for a query without faults. -/
def Failure.Halts : Failure → Prop
  | dateOutOfRange | embeddedNul | notACount | notWhole => True
  | _ => False

section Documents

variable {Q : Failure → Prop} (late : Q .dateOutOfRange)

include late

theorem Test.holds_failsOnly (t : Test) (d : Document) : Except.FailsOnly Q (t.holds d) :=
  Except.failsOnly_map.2 (d.value_failsOnly late t.field)

namespace Matcher

theorem score_failsOnly (m : Matcher) (words : List (List Char)) (d : Document) :
    Except.FailsOnly Q (m.score words d) := by
  refine Except.failsOnly_map.2 (Except.failsOnly_mapM_of_forall fun f _ => ?_)
  exact Except.failsOnly_map.2 (Except.failsOnly_map.2 (d.value_failsOnly late f))

theorem scored_failsOnly (m : Matcher) (words : List (List Char)) (ds : List Document) :
    Except.FailsOnly Q (m.scored words ds) := by
  induction ds with
  | nil => exact Except.failsOnly_ok _
  | cons d ds ih =>
    refine Except.failsOnly_bind.2 ⟨m.score_failsOnly late words d, fun s _ => ?_⟩
    exact Except.failsOnly_bind_ok.2 ih

/-- Ranking documents fails only on a timestamp outside the calendar. -/
theorem rank_failsOnly (m : Matcher) (words : List (List Char)) (ds : List Document) :
    Except.FailsOnly Q (m.rank words ds) := by
  unfold rank
  split
  · exact Except.failsOnly_ok _
  · exact Except.failsOnly_map.2 (m.scored_failsOnly late words ds)

end Matcher

/-- Counting documents and taking their range of dates fails only on a timestamp outside the
calendar. -/
theorem Plan.overview_failsOnly {names : List Datum} {fields : List Field}
    (resolved : Facet.resolve names = .ok fields) (ds : List Document) :
    Except.FailsOnly Q (overview names ds) := by
  unfold overview
  rw [resolved]
  refine Except.failsOnly_bind.2 ⟨Except.failsOnly_ok fields, ?_⟩
  rintro _ ⟨⟩
  refine Except.failsOnly_bind.2 ⟨?_, fun facets _ => Except.failsOnly_bind_ok.2 ?_⟩
  · rw [Facet.ofFields_eq]
    refine Except.failsOnly_mapM_of_forall fun f _ => Except.failsOnly_map.2 ?_
    exact Except.failsOnly_map.2
      (Except.failsOnly_mapM_of_forall fun d _ => d.key_failsOnly late f)
  · refine Except.failsOnly_map.2 (Except.failsOnly_map.2 ?_)
    exact Except.failsOnly_mapM_of_forall fun d _ => d.createdMoment?_failsOnly late

end Documents

namespace Predicate

variable {Q : Failure → Prop} {d : Document} {ps : List Predicate}

theorem all_failsOnly (h : ∀ p ∈ ps, Except.FailsOnly Q (p d)) :
    Except.FailsOnly Q (all ps d) := by
  induction ps with
  | nil => exact Except.failsOnly_ok true
  | cons p ps ih =>
    rw [List.forall_mem_cons] at h
    refine Except.failsOnly_bind.2 ⟨h.1, fun passed _ => ?_⟩
    cases passed with
    | true => exact ih h.2
    | false => exact Except.failsOnly_ok false

theorem any_failsOnly (h : ∀ p ∈ ps, Except.FailsOnly Q (p d)) :
    Except.FailsOnly Q (any ps d) := by
  induction ps with
  | nil => exact Except.failsOnly_ok false
  | cons p ps ih =>
    rw [List.forall_mem_cons] at h
    refine Except.failsOnly_bind.2 ⟨h.1, fun passed _ => ?_⟩
    cases passed with
    | true => exact Except.failsOnly_ok true
    | false => exact ih h.2

/-- Combined predicates fail only as the predicates do. -/
theorem combine_failsOnly (k : Combinator) (h : ∀ p ∈ ps, Except.FailsOnly Q (p d)) :
    Except.FailsOnly Q (combine k ps d) := by
  cases ps with
  | nil => exact Except.failsOnly_ok true
  | cons p ps =>
    cases k with
    | all => exact all_failsOnly h
    | any => exact any_failsOnly h
    | notFirst => exact Except.failsOnly_map.2 (h p List.mem_cons_self)

theorem select_failsOnly {p : Predicate} (h : ∀ d, Except.FailsOnly Q (p d))
    (ds : List Document) : Except.FailsOnly Q (p.select ds) := by
  induction ds with
  | nil => exact Except.failsOnly_ok _
  | cons d ds ih =>
    refine Except.failsOnly_bind.2 ⟨h d, fun passed _ => ?_⟩
    exact Except.failsOnly_bind_ok.2 ih

end Predicate

namespace Sorting

variable {σ : Type} {Q : Failure → Prop} {compareScores : σ → σ → Ordering}

/-- What keeps two rows from being compared is a failure in one of their cells, or a NUL. -/
theorem Row.of_obstacle?_eq_some (nul : Q .embeddedNul) {a b : Row σ} {e : Failure}
    (ha : ∀ cell ∈ a, Except.FailsOnly Q cell.2) (hb : ∀ cell ∈ b, Except.FailsOnly Q cell.2)
    (h : a.obstacle? compareScores b = some e) : Q e := by
  induction a generalizing b with
  | nil => simp [obstacle?] at h
  | cons cell a ih =>
    obtain ⟨descending, found⟩ := cell
    cases b with
    | nil => cases found <;> simp [obstacle?] at h
    | cons cell' b =>
      obtain ⟨direction, found'⟩ := cell'
      rw [List.forall_mem_cons] at ha hb
      cases found with
      | error e =>
        cases h
        exact Except.failsOnly_error.1 ha.1
      | ok c =>
        cases found' with
        | error e =>
          cases h
          exact Except.failsOnly_error.1 hb.1
        | ok c' =>
          rw [obstacle?] at h
          split at h
          · cases h
            exact nul
          · split at h
            · exact ih ha.2 hb.2 h
            · cases h

theorem Row.before_failsOnly (nul : Q .embeddedNul) {a b : Row σ}
    (ha : ∀ cell ∈ a, Except.FailsOnly Q cell.2) (hb : ∀ cell ∈ b, Except.FailsOnly Q cell.2) :
    Except.FailsOnly Q (Row.before compareScores a b) := by
  unfold Row.before
  split
  · next e he => exact Except.failsOnly_error.2 (Row.of_obstacle?_eq_some nul ha hb he)
  · exact Except.failsOnly_ok _

/-- Sorting items fails only on a timestamp outside the calendar, or on a NUL. -/
theorem sort_failsOnly (late : Q .dateOutOfRange) (nul : Q .embeddedNul) (specs : List SortSpec)
    (items : List (Scored σ)) : Except.FailsOnly Q (sort compareScores specs items) := by
  have cells : ∀ r ∈ items.map (row (keys specs)), ∀ cell ∈ r, Except.FailsOnly Q cell.2 := by
    rw [List.forall_mem_map]
    intro item _ cell hcell
    obtain ⟨k, -, rfl⟩ := List.mem_map.1 hcell
    unfold Key.cell
    cases k.subject with
    | relevance => exact Except.failsOnly_ok _
    | field f => exact Except.failsOnly_map.2 (item.document.key_failsOnly late f)
  have compares : (items.map (row (keys specs))).Pairwise
      (ComparesBut (Row.before compareScores) Q) := by
    refine List.pairwise_of_forall_mem_list fun a ha b hb => ⟨?_, ?_⟩
    · exact Row.before_failsOnly nul (cells a ha) (cells b hb)
    · exact Row.before_failsOnly nul (cells b hb) (cells a ha)
  have sorts := sortAdaptively_failsOnly compares
  unfold sort
  dsimp only
  rw [map_fst_rows]
  split
  · next e he =>
    unfold obstacle? at he
    split at he
    · split at he
      · next e' stops =>
        cases he
        exact Except.failsOnly_error.2 (sorts e stops)
      · cases he
    · cases he
  · exact Except.failsOnly_ok _

end Sorting

namespace Plan

variable {Q : Failure → Prop} {settings : Settings} {p : Plan} {q : Query}

/-- The tests of conditions, combined in some way, fail only on a timestamp outside the calendar. -/
theorem combine_tests_failsOnly (late : Q .dateOutOfRange) (k : Combinator) (ts : List Test)
    (d : Document) : Except.FailsOnly Q (Predicate.combine k (ts.map Test.holds) d) := by
  refine Predicate.combine_failsOnly k ?_
  rw [List.forall_mem_map]
  exact fun t _ => t.holds_failsOnly late d

theorem predicate_failsOnly (late : Q .dateOutOfRange) {faults : List QueryFault}
    (h : ofQuery settings q = .ok (p, faults)) (d : Document) :
    Except.FailsOnly Q (p.predicate d) := by
  cases q with
  | simple q =>
    obtain ⟨⟨tests, others⟩, -, eq⟩ := Except.map_eq_ok.1 h
    obtain ⟨rfl, -⟩ := Prod.mk.inj eq
    exact combine_tests_failsOnly late .all tests d
  | advanced q =>
    obtain ⟨⟨tests, others⟩, -, h⟩ := Except.bind_eq_ok.1 h
    obtain ⟨⟨ranges, rangeFaults⟩, -, h⟩ := Except.bind_eq_ok.1 h
    obtain ⟨rfl, -⟩ := Prod.mk.inj (Except.ok.inj h)
    have combined := combine_tests_failsOnly late q.combinator tests d
    dsimp only
    split
    · exact combined
    · refine Predicate.combine_failsOnly .all ?_
      rw [List.forall_mem_cons, List.forall_mem_map]
      exact ⟨combined, fun t _ => t.holds_failsOnly late d⟩

/-- Finding what a query without faults finds fails only on a timestamp outside the calendar, or on
a NUL. -/
theorem found_failsOnly (late : Q .dateOutOfRange) (nul : Q .embeddedNul)
    (h : ofQuery settings q = .ok (p, [])) (index : Index) :
    Except.FailsOnly Q (p.found index).result := by
  have ranked : Except.FailsOnly Q (p.ranked index) := by
    unfold Plan.ranked
    rw [(does_of_ofQuery h).matcher]
    refine Except.failsOnly_bind.2 ⟨?_, fun selected _ => ?_⟩
    · exact Predicate.select_failsOnly (predicate_failsOnly late h) index.documents
    · exact Except.failsOnly_bind_ok.2 (q.matcher.rank_failsOnly late _ selected)
  unfold found
  split
  · next e he => exact Except.failsOnly_error.2 (ranked e he)
  · next items _ => exact Sorting.sort_failsOnly late nul p.sort items

end Plan

/-! ## Suggestions and past searches -/

theorem Tally.trim_failsOnly {Q : Failure → Prop} (notACount : Q .notACount)
    (notWhole : Q .notWhole) (tally : Tally) (size : Quantity) :
    Except.FailsOnly Q (tally.trim size) := by
  unfold Tally.trim
  split
  · cases size with
    | whole n => exact Except.failsOnly_ok _
    | double x =>
      rw [mostCommon]
      split
      · exact Except.failsOnly_ok _
      · refine Except.failsOnly_error.2 ?_
        split
        · exact notACount
        · exact notWhole
  · exact Except.failsOnly_ok _

theorem History.record_failsOnly {Q : Failure → Prop} (notACount : Q .notACount)
    (notWhole : Q .notWhole) (settings : Settings) (text : Option String) (h : History) :
    Except.FailsOnly Q (h.record settings text).result := by
  unfold record
  split
  · exact Except.failsOnly_ok _
  · refine Reply.failsOnly_bind.2 ⟨?_, fun _ _ => Except.failsOnly_ok _⟩
    unfold trimTally
    split
    · exact Except.failsOnly_ok _
    · next e he =>
      exact Except.failsOnly_error.2 (Tally.trim_failsOnly notACount notWhole _ _ e he)

theorem Suggestion.forPartial_failsOnly {Q : Failure → Prop} (notACount : Q .notACount)
    (settings : Settings) (index : Index) (h : History) (text : Option String)
    (limit : Quantity) : Except.FailsOnly Q (forPartial settings index h text limit).1 := by
  obtain ⟨terms, hterms⟩ := h.popular_all
  unfold forPartial
  cases text with
  | none => exact Except.failsOnly_ok _
  | some text =>
    dsimp only
    split
    · exact Except.failsOnly_ok _
    · rw [hterms]
      refine Except.failsOnly_bind.2 ⟨Except.failsOnly_ok _, fun _ _ => ?_⟩
      refine Except.failsOnly_bind_ok.2 ?_
      cases limit with
      | whole n => exact Except.failsOnly_ok n
      | double x => exact Except.failsOnly_error.2 notACount

namespace Engine

variable {Q : Failure → Prop} {settings : Settings} {e : Engine} {index : Index}

theorem consult_failsOnly (notACount : Q .notACount) (notWhole : Q .notWhole) (p : Plan) :
    Except.FailsOnly Q (e.consult settings index p).result := by
  unfold consult
  split
  · refine Reply.failsOnly_bind.2 ⟨?_, fun _ _ => ?_⟩
    · exact Suggestion.forPartial_failsOnly notACount settings index e.history _ _
    · exact Except.failsOnly_map.2 (History.record_failsOnly notACount notWhole settings _ _)
  · exact Except.failsOnly_ok _

/-- Carrying out the plan of a query without faults fails only because of what it meets. -/
theorem execute_failsOnly {p : Plan} {q : Query} (counts : settings.CountsFields)
    (h : Plan.ofQuery settings q = .ok (p, [])) (millis : Float) :
    Except.FailsOnly Failure.Halts (e.execute settings index millis p).result := by
  obtain ⟨fields, counted⟩ := (Plan.does_of_ofQuery h).counted_eq_ok counts
  rw [← (Plan.does_of_ofQuery h).counted settings] at counted
  obtain ⟨names, hnames, resolved⟩ := Except.bind_eq_ok.1 counted
  have finds : Except.FailsOnly Failure.Halts (p.found index).result :=
    Plan.found_failsOnly trivial trivial h index
  unfold execute
  dsimp only
  cases hf : (p.found index).result with
  | error failure => exact Except.failsOnly_error.2 (finds failure hf)
  | ok items =>
    rw [hnames]
    refine Reply.failsOnly_bind.2 ⟨?_, fun suggestions _ => Except.failsOnly_map.2 ?_⟩
    · exact consult_failsOnly trivial trivial p
    · exact Plan.overview_failsOnly trivial resolved _

end Engine

end OrderRetrieval
