import OrderRetrieval.Proofs.Engine.Answer
import OrderRetrieval.Proofs.Engine.Rejection
import OrderRetrieval.Proofs.Text.Blank

/-!
# What a search leaves behind

A search counts its words and itself once it has found its documents, and takes its figures about
them only then.  So a search that fails before leaves no trace.  One that fails over its figures,
because a timestamp that it counts is not in the calendar, leaves the trace of a search that is
answered (`Engine.search_leaves_no_trace_iff`), and the number of searches is that of both.
-/

namespace OrderRetrieval

/-! ## Figures -/

namespace Document

variable {d : Document} {fields : List Field}

/-- Whether the timestamps of a document that figures are taken of have moments in the calendar. -/
structure Countable (fields : List Field) (d : Document) : Prop where
  created : ∀ t ∈ d.createdAt, t.utc? ≠ none
  updated : .updatedAt ∈ fields → ∀ t ∈ d.updatedAt, t.utc? ≠ none

theorem exists_key_iff {f : Field} :
    (∃ v, d.key f = .ok v) ↔
      (f = .createdAt → ∀ t ∈ d.createdAt, t.utc? ≠ none) ∧
        (f = .updatedAt → ∀ t ∈ d.updatedAt, t.utc? ≠ none) := by
  refine Except.exists_map_eq_ok_iff.trans ?_
  cases f with
  | createdAt | updatedAt => exact Value.exists_ofTimestamp?_iff.trans (by simp)
  | _ => exact iff_of_true ⟨_, rfl⟩ ⟨nofun, nofun⟩

theorem countable_iff :
    d.Countable fields ↔ (∀ f ∈ fields, ∃ v, d.key f = .ok v) ∧ ∃ m, d.createdMoment? = .ok m := by
  simp only [exists_key_iff, exists_createdMoment?_iff]
  constructor
  · rintro ⟨created, updated⟩
    exact ⟨fun f hf => ⟨fun _ => created, fun eq => updated (eq ▸ hf)⟩, created⟩
  · rintro ⟨keys, created⟩
    exact ⟨created, fun mem => (keys _ mem).2 rfl⟩

end Document

/-- Figures can be taken exactly if every document can be counted. -/
theorem Plan.exists_overview_iff {names : List Datum} {fields : List Field} {ds : List Document}
    (resolved : Facet.resolve names = .ok fields) :
    (∃ facets range, overview names ds = .ok (facets, range)) ↔ ∀ d ∈ ds, d.Countable fields := by
  simp only [Plan.overview_eq_ok, resolved, Except.ok.injEq, exists_eq_left',
    Document.countable_iff, forall_and, ← exists_dateRange_iff, exists_and_left, exists_and_right]
  refine and_congr_left fun _ => Facet.exists_ofFields_iff.trans ?_
  exact ⟨fun h d hd f hf => h f hf d hd, fun h f hf d hd => h d hd f hf⟩

/-! ## Words -/

/-- Of a text of nothing but blanks nothing is counted. -/
theorem Plan.record_of_not_hasText {p : Plan} (settings : Settings) (blank : p.hasText = false)
    (h : History) : h.record settings p.text = .answer h [] := by
  have none : queryWords? p.text = [] := by
    unfold hasText at blank
    cases text : p.text with
    | none => rfl
    | some s =>
      rw [text] at blank
      have trimmed : Text.trim Text.isBlank s.toList = [] := by simpa using blank
      exact Text.words_of_blank (Text.isBlank_lowerChars (Text.isBlank_of_trim_eq_nil trimmed))
  rw [History.record, History.terms, none]
  rfl

namespace Engine

/-- The engine after the words of a text were counted. -/
def learn (settings : Settings) (e : Engine) (text : Option String) : Engine :=
  { e with history := (e.history.record settings text).state }

variable {settings : Settings} {e : Engine} {index : Index} {millis : Float} {q : Query} {p : Plan}

/-- Consulting the past searches counts the words of the text. -/
theorem consult_state (sound : settings.Sound) (e : Engine) (index : Index) (p : Plan) :
    (e.consult settings index p).state = e.learn settings p.text := by
  unfold consult
  split
  · obtain ⟨n, limit⟩ := sound.suggestions
    obtain ⟨ss, hss⟩ := Suggestion.forPartial_eq_ok settings index e.history p.text n
    rw [← limit] at hss
    exact Reply.state_bind_of_ok hss _
  · next blank =>
    -- nothing is recorded then, and recording such a text would count nothing
    rw [learn, Plan.record_of_not_hasText settings (Bool.eq_false_iff.2 blank)]
    rfl

end Engine

/-- Whether a query without faults finds its documents, but one of them cannot be counted. -/
def Query.FailsLate (settings : Settings) (index : Index) (q : Query) : Prop :=
  ∃ p items fields, Plan.ofQuery settings q = .ok (p, []) ∧ (p.found index).result = .ok items ∧
    q.counted settings = .ok fields ∧ ∃ d ∈ items.map Scored.document, ¬d.Countable fields

/-- A query fails late only if its documents are found. -/
theorem Query.FailsLate.exists_found {settings : Settings} {index : Index} {q : Query} {p : Plan}
    (late : q.FailsLate settings index) (planned : Plan.ofQuery settings q = .ok (p, [])) :
    ∃ items, (p.found index).result = .ok items := by
  obtain ⟨p', items, -, planned', found, -⟩ := late
  cases planned.symm.trans planned'
  exact ⟨items, found⟩

/-- A query whose documents are found fails late unless all of them can be counted. -/
theorem Query.not_failsLate_iff {settings : Settings} {index : Index} {q : Query} {p : Plan}
    {items : List (Scored Nat)} {fields : List Field}
    (planned : Plan.ofQuery settings q = .ok (p, [])) (found : (p.found index).result = .ok items)
    (counted : q.counted settings = .ok fields) :
    ¬q.FailsLate settings index ↔ ∀ d ∈ items.map Scored.document, d.Countable fields := by
  constructor
  · intro early d hd
    by_contra uncountable
    exact early ⟨p, items, fields, planned, found, counted, d, hd, uncountable⟩
  · rintro countable ⟨p', items', fields', planned', found', counted', d, hd, uncountable⟩
    cases planned.symm.trans planned'
    cases found.symm.trans found'
    cases counted.symm.trans counted'
    exact uncountable (countable d hd)

namespace Engine

variable {settings : Settings} {e : Engine} {index : Index} {millis : Float} {q : Query} {p : Plan}

/-- A search that finds its documents counts its words and itself, and is answered if the documents
can be counted. -/
theorem execute_of_found (does : p.Does q) (sound : settings.Sound) {items : List (Scored Nat)}
    (found : (p.found index).result = .ok items) {fields : List Field}
    (counted : q.counted settings = .ok fields) :
    (e.execute settings index millis p).state = (e.learn settings q.text).count millis ∧
      ((∃ r, (e.execute settings index millis p).result = .ok r) ↔
        ∀ d ∈ items.map Scored.document, d.Countable fields) ∧
      Except.FailsOnly (· = .dateOutOfRange) (e.execute settings index millis p).result := by
  rw [← does.counted settings] at counted
  obtain ⟨names, hnames, resolved⟩ := Except.bind_eq_ok.1 counted
  obtain ⟨ss, consulted⟩ := consult_eq_ok sound e index p
  have noted : ((e.consult settings index p).noting (p.found index).notices).result = .ok ss :=
    consulted
  refine ⟨?_, ?_, ?_⟩
  · unfold execute
    dsimp only
    rw [found, hnames]
    refine (Reply.state_bind_of_ok noted _).trans ?_
    rw [← does.text, ← consult_state sound e index p]
    rfl
  · rw [← Plan.exists_overview_iff resolved]
    constructor
    · rintro ⟨r, answered⟩
      obtain ⟨_, _, _, facets, range, found', hnames', -, overview, -⟩ := execute_eq_ok.1 answered
      cases found.symm.trans found'
      cases hnames.symm.trans hnames'
      exact ⟨facets, range, overview⟩
    · rintro ⟨facets, range, overview⟩
      exact ⟨_, execute_eq_ok.2
        ⟨items, names, ss, facets, range, found, hnames, consulted, overview, rfl⟩⟩
  · unfold execute
    dsimp only
    rw [found, hnames]
    refine Reply.failsOnly_bind.2 ⟨?_, fun _ _ => Except.failsOnly_map.2 ?_⟩
    · rw [noted]
      exact Except.failsOnly_ok ss
    · exact @Plan.overview_failsOnly (· = .dateOutOfRange) rfl names fields resolved _

/-- A search that does not find its documents leaves no trace. -/
theorem execute_of_lost {failure : Failure} (lost : (p.found index).result = .error failure) :
    e.execute settings index millis p = ⟨.error failure, e, (p.found index).notices⟩ := by
  unfold execute
  dsimp only
  rw [lost]
  rfl

/-- A search for a query with faults, or one that cannot be planned, leaves no trace. -/
theorem search_of_invalid (invalid : ¬∃ p, Plan.ofQuery settings q = .ok (p, [])) :
    (∃ failure, (e.search settings index millis q).result = .error failure) ∧
      (e.search settings index millis q).state = e := by
  cases planned : Plan.ofQuery settings q with
  | error failure =>
    rw [search, planned]
    exact ⟨⟨failure, rfl⟩, rfl⟩
  | ok plan =>
    obtain ⟨p, faults⟩ := plan
    cases faults with
    | nil => exact absurd ⟨p, planned⟩ invalid
    | cons fault faults =>
      rw [@search_of_faults settings e index millis q ⟨fault, faults⟩ p planned]
      exact ⟨⟨_, rfl⟩, rfl⟩

/-- A search either leaves no trace, and then it fails, but not late; or it counts its words and
itself, and then it is answered unless it fails late. -/
theorem search_ends (sound : settings.Sound) (e : Engine) (index : Index) (millis : Float)
    (q : Query) :
    ((∃ failure, (e.search settings index millis q).result = .error failure) ∧
        (e.search settings index millis q).state = e ∧ ¬q.FailsLate settings index) ∨
      ((e.search settings index millis q).state = (e.learn settings q.text).count millis ∧
        ((∃ r, (e.search settings index millis q).result = .ok r) ↔ ¬q.FailsLate settings index) ∧
        Except.FailsOnly (· = .dateOutOfRange) (e.search settings index millis q).result) := by
  by_cases valid : ∃ p, Plan.ofQuery settings q = .ok (p, [])
  · obtain ⟨p, planned⟩ := valid
    have does : p.Does q := Plan.does_of_ofQuery planned
    rw [search_eq_execute planned]
    cases found : (p.found index).result with
    | error failure =>
      rw [execute_of_lost found]
      refine .inl ⟨⟨failure, rfl⟩, rfl, fun late => ?_⟩
      obtain ⟨items, found'⟩ := late.exists_found planned
      cases found.symm.trans found'
    | ok items =>
      obtain ⟨fields, counted⟩ := does.counted_eq_ok sound.facets
      obtain ⟨state, answers, fails⟩ :=
        @execute_of_found settings e index millis q p does sound items found fields counted
      exact .inr ⟨state, answers.trans (Query.not_failsLate_iff planned found counted).symm, fails⟩
  · obtain ⟨failed, state⟩ := @search_of_invalid settings e index millis q valid
    refine .inl ⟨failed, state, ?_⟩
    rintro ⟨p, -, -, planned, -⟩
    exact valid ⟨p, planned⟩

/-- An engine that has come about by searches, with the numbers of those that were answered and of
those that failed late.  Between two searches the history may be trimmed or counted elsewhere. -/
inductive Course (settings : Settings) : Nat → Nat → Engine → Prop
  | start (shared : Option SharedStore) : Course settings 0 0 (.start shared)
  | meanwhile {answered late : Nat} {e : Engine} (course : Course settings answered late e)
    (history : History) : Course settings answered late { e with history }
  | answered {answered late : Nat} {e : Engine} (course : Course settings answered late e)
    (index : Index) (millis : Float) (q : Query) {r : SearchResult}
    (ok : (e.search settings index millis q).result = .ok r) :
    Course settings (answered + 1) late (e.search settings index millis q).state
  | early {answered late : Nat} {e : Engine} (course : Course settings answered late e)
    (index : Index) (millis : Float) (q : Query) {failure : Failure}
    (failed : (e.search settings index millis q).result = .error failure)
    (early : ¬q.FailsLate settings index) :
    Course settings answered late (e.search settings index millis q).state
  | late {answered late : Nat} {e : Engine} (course : Course settings answered late e)
    (index : Index) (millis : Float) (q : Query) (fails : q.FailsLate settings index) :
    Course settings answered (late + 1) (e.search settings index millis q).state

/-- A search that is answered is counted. -/
theorem queries_of_answered (sound : settings.Sound) {r : SearchResult}
    (ok : (e.search settings index millis q).result = .ok r) :
    (e.search settings index millis q).state.queries = e.queries + 1 := by
  rcases search_ends sound e index millis q with ⟨⟨failure, failed⟩, -⟩ | ⟨state, -⟩
  · cases ok.symm.trans failed
  · rw [state]
    rfl

/-- A search that fails, but not late, leaves no trace. -/
theorem state_of_early (sound : settings.Sound) {failure : Failure}
    (failed : (e.search settings index millis q).result = .error failure)
    (early : ¬q.FailsLate settings index) : (e.search settings index millis q).state = e := by
  rcases search_ends sound e index millis q with ⟨-, state, -⟩ | ⟨-, answers, -⟩
  · exact state
  · obtain ⟨r, ok⟩ := answers.2 early
    cases ok.symm.trans failed

/-- A search that fails late leaves the trace of one that is answered. -/
theorem search_of_failsLate (sound : settings.Sound) (e : Engine) (millis : Float)
    (late : q.FailsLate settings index) :
    (e.search settings index millis q).result = .error .dateOutOfRange ∧
      (e.search settings index millis q).state = (e.learn settings q.text).count millis := by
  rcases search_ends sound e index millis q with ⟨-, -, early⟩ | ⟨state, answers, fails⟩
  · exact absurd late early
  · refine ⟨?_, state⟩
    cases result : (e.search settings index millis q).result with
    | ok r => exact absurd late (answers.1 ⟨r, result⟩)
    | error failure => rw [fails failure result]

/-- The searches that are counted are those that were answered and those that failed late. -/
theorem Course.queries_eq (sound : settings.Sound) {answered late : Nat}
    (course : Course settings answered late e) : e.queries = answered + late := by
  induction course with
  | start shared => rfl
  | meanwhile _ _ ih => exact ih
  | answered _ index millis q ok ih => rw [queries_of_answered sound ok, ih, Nat.add_right_comm]
  | early _ index millis q failed early ih => rw [state_of_early sound failed early, ih]
  | @late _ _ e _ index millis q fails ih =>
    rw [(search_of_failsLate sound e millis fails).2]
    exact congrArg Nat.succ ih

end Engine

/-! ## An heirloom

One order that is said to be from before the first moment of the calendar, and a search that finds
it by its number. -/

namespace Heirloom

/-- The index that holds the order. -/
def index : Index :=
  (Order.indexAll .empty 0 [Parcels.order "1" "LAMP-1" "0001-01-01T00:00:00+01:00"]).1

/-- The search. -/
def query : Query := .simple {
  text := some "lamp"
  searchFields := []
  filters := []
  sort := []
  paging := .default
  options := .default
  facetFields := none }

/-- What becomes of the search. -/
def reply : Reply Engine SearchResult := (Engine.start none).search .default index 0 query

theorem failed : ¬∃ r, reply.result = .ok r := Except.not_exists_eq_ok (by decide +kernel)

theorem queries_reply : reply.state.queries = 1 := by decide +kernel

theorem failsLate : query.FailsLate .default index := by
  rcases Engine.search_ends Settings.sound_default (.start none) index 0 query with
    ⟨-, state, -⟩ | ⟨-, answers, -⟩
  · have queries := congrArg Engine.queries state
    cases queries_reply.symm.trans queries
  · by_contra early
    exact failed (answers.2 early)

end Heirloom

namespace Engine

/-- **Which searches leave no trace.**  A search that fails leaves the history and the counters as
they were exactly if it does not fail late.  One that fails late, over a document that it has found
but cannot count, has counted its words and itself.  So the number of searches is that of the
searches that were answered and of those that failed late. -/
theorem search_leaves_no_trace_iff (settings : Settings) (sound : settings.Sound) :
    (∀ (e : Engine) (index : Index) (millis : Float) (q : Query) (failure : Failure),
      (e.search settings index millis q).result = .error failure →
        ((e.search settings index millis q).state = e ↔ ¬q.FailsLate settings index)) ∧
      (∀ (e : Engine) (index : Index) (millis : Float) (q : Query), q.FailsLate settings index →
        (e.search settings index millis q).result = .error .dateOutOfRange ∧
          (e.search settings index millis q).state = (e.learn settings q.text).count millis) ∧
      ∀ (e : Engine) (answered late : Nat), Course settings answered late e →
        e.queries = answered + late := by
  refine ⟨fun e index millis q failure failed => ⟨fun same late => ?_, ?_⟩, ?_, ?_⟩
  · have counted := congrArg queries (search_of_failsLate sound e millis late).2
    rw [same] at counted
    exact absurd counted (Nat.succ_ne_self e.queries).symm
  · exact state_of_early sound failed
  · exact fun e index millis q late => search_of_failsLate sound e millis late
  · exact fun e answered late course => course.queries_eq sound

/-- The search for the heirloom fails late, and is counted though it is the only one. -/
theorem search_leaves_no_trace_heirloom : Settings.default.Sound ∧
    Heirloom.query.FailsLate .default Heirloom.index ∧
    Heirloom.reply.result = .error .dateOutOfRange ∧ Heirloom.reply.state ≠ start none ∧
    Heirloom.reply.state = ((start none).learn .default (some "lamp")).count 0 ∧
    Course .default 0 1 Heirloom.reply.state ∧ Heirloom.reply.state.queries = 0 + 1 := by
  have sound := Settings.sound_default
  have course : Course .default 0 1 Heirloom.reply.state :=
    .late (.start none) Heirloom.index 0 Heirloom.query Heirloom.failsLate
  obtain ⟨traceless, traces, counts⟩ := search_leaves_no_trace_iff .default sound
  obtain ⟨result, state⟩ := traces (start none) Heirloom.index 0 Heirloom.query Heirloom.failsLate
  refine ⟨sound, Heirloom.failsLate, result, fun same => ?_, state, course, counts _ 0 1 course⟩
  exact (traceless _ _ _ _ _ result).1 same Heirloom.failsLate

/-- A valid query whose search fails is counted, and so are its words. -/
theorem not_search_leaves_no_trace :
    (validate .default Heirloom.query).1 = .ok [] ∧
      ¬(∃ r, ((start none).search .default Heirloom.index 0 Heirloom.query).result = .ok r) ∧
      (start none).queries = 0 ∧ (start none).history.tally = [] ∧
      ((start none).search .default Heirloom.index 0 Heirloom.query).state.queries = 1 ∧
      ((start none).search .default Heirloom.index 0 Heirloom.query).state.history.tally =
        [("lamp", 1)] :=
  ⟨rfl, Heirloom.failed, rfl, rfl, Heirloom.queries_reply, by decide +kernel⟩

end Engine

end OrderRetrieval
