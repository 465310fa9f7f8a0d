import OrderRetrieval.Proofs.Calendar.Date
import OrderRetrieval.Proofs.Facet.Group
import OrderRetrieval.Proofs.Filter.Select
import OrderRetrieval.Proofs.Filter.Verdict

/-!
# Filtering by a day

A date equals a filter value if it falls on the day of the value in universal time, from the first
to the last microsecond of the day (`holds_day`).  The written day of a group is taken for the start
of that day (`Datum.toMoment_isoText`), so filtering by it selects as many documents as the group
has (`Condition.day_agrees`).
-/

namespace OrderRetrieval

open Calendar (Date Moment Place)

/-- Whether a document has a date that falls on a day of universal time. -/
def Document.FallsOn (d : Document) (f : Field) (day : Date) : Prop :=
  ∃ n, d.value f = .ok (.moment n) ∧ n.date = day

/-! ## Dates that are equal -/

section Day

variable {f : Field} {x : Datum} {m first last : Moment} {d : Document} {v : Value}

theorem dayAccepts_eq_ok {s : Scale Moment} (reads : s.read x = .ok m)
    (bounds : m.dayBounds? = some (first, last)) :
    dayAccepts s x = .ok (s.placed fun n => s.le first n && s.le n last) := by
  rw [dayAccepts, Except.bind_eq_ok]
  refine ⟨m, reads, ?_⟩
  rw [bounds]

/-- Every day but the last has bounds. -/
theorem exists_dayBounds (early : m.dayNumber < Date.last.dayNumber) :
    ∃ first last, m.dayBounds? = some (first, last) := by
  have bounded : m.dayBounds? ≠ none := by
    rw [Ne, Moment.dayBounds?_eq_none_iff]
    have final : Date.last.dayNumber + 1 = Calendar.dayCount := Date.dayNumber_last
    generalize Date.last.dayNumber = last at early final
    omega
  obtain ⟨⟨first, last⟩, bounds⟩ := Option.ne_none_iff_exists'.1 bounded
  exact ⟨first, last, bounds⟩

/-- What equals a date is what falls on its day. -/
theorem accepts_day (kind : f.kind = .date) (reads : x.toMoment = .ok m)
    (early : m.dayNumber < Date.last.dayNumber) :
    ∃ accepts, f.accepts .equals x = .ok accepts ∧
      ∀ v, accepts v = true ↔ ∃ n, v = .moment n ∧ n.dayNumber = m.dayNumber := by
  obtain ⟨first, last, bounds⟩ := exists_dayBounds early
  have target : (Scale.moments f).read x = .ok m := Scale.read_moments_eq_ok.2 reads
  have within : f.accepts .equals x = .ok ((Scale.moments f).placed fun n =>
      (Scale.moments f).le first n && (Scale.moments f).le n last) := by
    simp only [Field.accepts, kind, dateAccepts]
    exact dayAccepts_eq_ok target bounds
  refine ⟨_, within, fun v => ?_⟩
  rw [Scale.placed_moments]
  refine exists_congr fun n => and_congr_right fun _ => ?_
  rw [← Moment.between_dayBounds? bounds n]
  simp [Scale.moments]

theorem Condition.compile_day (kind : f.kind = .date) (reads : x.toMoment = .ok m)
    {accepts : Value → Bool} (compiles : f.accepts .equals x = .ok accepts) (k : Combinator) :
    (comparing f .equals x k).compile = .ok ⟨f, accepts⟩ := by
  have supported : .equals ∈ f.kind.operators := by
    rw [kind]
    decide
  have present : x.isNull = false := by
    cases x with
    | null => cases reads
    | _ => rfl
  rw [compile_comparing supported fun _ => present, compiles]
  rfl

/-- A test for the moments of a day accepts the documents whose date falls on it. -/
theorem holds_day {accepts : Value → Bool}
    (falls : ∀ v, accepts v = true ↔ ∃ n, v = .moment n ∧ n.dayNumber = m.dayNumber)
    (shown : d.value f = .ok v) :
    Test.holds ⟨f, accepts⟩ d = .ok (accepts v) ∧ (accepts v = true ↔ d.FallsOn f m.date) := by
  refine ⟨by rw [Test.holds, shown]; rfl, ?_⟩
  rw [falls]
  simp [Document.FallsOn, shown, Moment.date_eq_iff]

/-- Falling on a day is coming within its length after its start. -/
theorem Document.fallsOn_date_iff : d.FallsOn f m.date ↔ ∃ n, d.value f = .ok (.moment n) ∧
    m.dayStart.micros ≤ n.micros ∧ n.micros < m.dayStart.micros + Calendar.day := by
  refine exists_congr fun n => and_congr_right fun _ => ?_
  rw [Moment.date_eq_iff, Moment.dayNumber_eq_iff]

end Day

/-! ## Groups of one day -/

/-- A written day is taken for its start. -/
theorem Datum.toMoment_isoText (m : Moment) :
    (Datum.str m.date.isoText).toMoment = .ok m.dayStart := by
  have timestamp : Checked.timestamp (.str m.date.isoText) = .ok ⟨m.dayStart, none⟩ := by
    rw [Checked.timestamp, Place.read_isoText]
    rfl
  rw [toMoment, timestamp]
  rfl

namespace Document

variable {d : Document} {f : Field} {text : String}

/-- Documents are grouped under a written day if they fall on the day. -/
theorem groupsUnder_date_iff (kind : f.kind = .date) :
    d.groupsUnder f (some text) = true ↔
      ∃ m, d.value f = .ok (.moment m) ∧ m.date.isoText = text := by
  rw [groupsUnder_iff]
  constructor
  · rintro ⟨v, shown, written⟩
    rcases value_of_date kind shown with rfl | ⟨m, rfl⟩
    · cases written
    · exact ⟨m, shown, Option.some.inj written⟩
  · rintro ⟨m, shown, written⟩
    exact ⟨.moment m, shown, congrArg some written⟩

theorem groupsUnder_isoText_iff (kind : f.kind = .date) (m : Moment) :
    d.groupsUnder f (some m.date.isoText) = true ↔ d.FallsOn f m.date := by
  rw [groupsUnder_date_iff kind]
  refine exists_congr fun n => and_congr_right fun _ => ?_
  exact Date.isoText_inj n.isValid_date m.isValid_date

end Document

namespace Condition

variable {f : Field}

/-- The written day of a moment selects the documents that are grouped under it. -/
theorem select_day (kind : f.kind = .date) {ds : List Document}
    (valued : ∀ d ∈ ds, ∃ v, d.value f = .ok v) {m : Moment}
    (early : m.dayNumber < Date.last.dayNumber) (k : Combinator) :
    ∃ t matched, (comparing f .equals (.str m.date.isoText) k).compile = .ok t ∧
      Predicate.select t.holds ds = .ok matched ∧
      matched.length = ds.countP (·.groupsUnder f (some m.date.isoText)) := by
  have reads : (Datum.str m.date.isoText).toMoment = .ok m.dayStart := Datum.toMoment_isoText m
  rw [← m.dayNumber_dayStart] at early
  obtain ⟨accepts, compiles, falls⟩ := accepts_day kind reads early
  have test := compile_day kind reads compiles k
  have answers : ∀ d ∈ ds, ∃ b, Test.holds ⟨f, accepts⟩ d = .ok b ∧
      (b = true ↔ d.FallsOn f m.date) := by
    intro d mem
    obtain ⟨v, shown⟩ := valued d mem
    rw [← m.date_dayStart]
    exact ⟨accepts v, holds_day falls shown⟩
  refine ⟨_, _, test, Predicate.select_eq_ok fun d mem => (answers d mem).imp fun _ h => h.1, ?_⟩
  rw [← List.countP_eq_length_filter]
  refine List.countP_congr fun d mem => ?_
  obtain ⟨b, holds, falls⟩ := answers d mem
  rw [Document.groupsUnder_isoText_iff kind, Predicate.passes, holds, falls]

/-- **Equal days.**  For a document that has a value in a field of dates, a condition with any value
that can be taken for a moment before the last day says whether the document has a date that falls
on the same day of universal time, which is one from the first to the last microsecond of it.
Documents are grouped by such a field if all have a value, and every group that is not that of
missing values is under a written day; filtering by this text selects as many documents as the group
counts. -/
theorem day_agrees (kind : f.kind = .date) (k : Combinator) :
    (∀ x m, x.toMoment = .ok m → m.dayNumber < Date.last.dayNumber →
        ∀ d : Document, (∃ v, d.value f = .ok v) →
          ∃ b, (comparing f .equals x k).Answers d b ∧ (b = true ↔ d.FallsOn f m.date) ∧
            (d.FallsOn f m.date ↔ ∃ n, d.value f = .ok (.moment n) ∧
              m.dayStart.micros ≤ n.micros ∧ n.micros < m.dayStart.micros + Calendar.day)) ∧
      ∀ ds : List Document, (∀ d ∈ ds, ∃ v, d.value f = .ok v) →
        ∃ buckets, groupBy (.str f.name) ds = .ok buckets ∧
          ∀ b ∈ buckets, ∀ text, b.value = some text →
            ∃ day : Date, day.isValid = true ∧ day.isoText = text ∧
              (day.dayNumber < Date.last.dayNumber →
                ∃ t matched, (comparing f .equals (.str text) k).compile = .ok t ∧
                  Predicate.select t.holds ds = .ok matched ∧ matched.length = b.count) := by
  refine ⟨fun x m reads early d shown => ?_, fun ds valued => ?_⟩
  · obtain ⟨v, shown⟩ := shown
    obtain ⟨accepts, compiles, falls⟩ := accepts_day kind reads early
    obtain ⟨holds, fallsOn⟩ := holds_day falls shown
    exact ⟨_, ⟨_, compile_day kind reads compiles k, holds⟩, fallsOn, Document.fallsOn_date_iff⟩
  · have groupable : f.kind.isGroupable = true := by
      rw [kind]
      rfl
    obtain ⟨buckets, grouped⟩ := (exists_groupBy_iff groupable).2 valued
    refine ⟨buckets, grouped, fun b mem text value => ?_⟩
    obtain ⟨⟨d, -, under⟩, count⟩ := bucket_of_groupBy groupable grouped mem
    rw [value] at under count
    obtain ⟨m, -, rfl⟩ := (Document.groupsUnder_date_iff kind).1 under
    refine ⟨m.date, m.isValid_date, rfl, fun early => ?_⟩
    rw [m.dayNumber_date] at early
    rw [count]
    exact select_day kind valued early k

end Condition

namespace LeapDay

open Calendar (Timestamp day second)

/-- The last microsecond of a leap day, on a clock that shows the day after it. -/
def finish : Timestamp := ⟨⟨738945 * day + 3600 * second - 1, by decide⟩, some (3600 * second)⟩

/-- The moment after it. -/
def after : Timestamp := ⟨⟨738945 * day, by decide⟩, none⟩

/-- An order of that time, if any. -/
def order (t : Option Timestamp) : Document := { (default : Document) with createdAt := t }

/-- An order of each time, and one without a time. -/
def orders : List Document := [order (some finish), order (some after), order none]

/-- The last half hour of the day begins. -/
def evening : Moment := ⟨738944 * day + 84600 * second, by decide⟩

/-- A clock of another zone shows the day after. -/
theorem toMoment_evening : (Datum.str "2024-03-01T00:30+01:00").toMoment = .ok evening := by
  have place : Place.read "2024-03-01T00:30+01:00" =
      .inCalendar ⟨⟨738945 * day + 1800 * second, by decide⟩, some (3600 * second)⟩ := by
    decide +kernel
  rw [Datum.toMoment, Checked.timestamp, place]
  rfl

theorem valued : ∀ d ∈ orders, ∃ v, d.value .createdAt = .ok v := by
  simp only [orders, List.forall_mem_cons]
  exact ⟨⟨_, rfl⟩, ⟨_, rfl⟩, ⟨_, rfl⟩, List.forall_mem_nil _⟩

end LeapDay

namespace Condition

/-- The leap day ends with its last microsecond, whatever the clock shows, and one of the orders is
found under it. -/
theorem day_agrees_leapDay :
    Field.createdAt.kind = .date ∧ (∀ d ∈ LeapDay.orders, ∃ v, d.value .createdAt = .ok v) ∧
      (Datum.str "2024-03-01T00:30+01:00").toMoment = .ok LeapDay.evening ∧
      LeapDay.evening.dayNumber < Date.last.dayNumber ∧
      (comparing .createdAt .equals (.str "2024-03-01T00:30+01:00") .all).Answers
        (LeapDay.order (some LeapDay.finish)) true ∧
      (comparing .createdAt .equals (.str "2024-03-01T00:30+01:00") .all).Answers
        (LeapDay.order (some LeapDay.after)) false ∧
      ∃ t matched, (comparing .createdAt .equals (.str "2024-02-29") .all).compile = .ok t ∧
        Predicate.select t.holds LeapDay.orders = .ok matched ∧ matched.length = 1 := by
  have early : LeapDay.evening.dayNumber < Date.last.dayNumber := by decide
  obtain ⟨days, groups⟩ := day_agrees (f := .createdAt) rfl .all
  have day := days _ _ LeapDay.toMoment_evening early
  obtain ⟨b, last, falls, -⟩ := day (LeapDay.order (some LeapDay.finish)) ⟨_, rfl⟩
  obtain ⟨c, next, passes, -⟩ := day (LeapDay.order (some LeapDay.after)) ⟨_, rfl⟩
  have onDay : b = true := falls.2 ⟨_, rfl, by decide⟩
  have afterDay : c = false := by
    rw [Bool.eq_false_iff, Ne, passes]
    rintro ⟨n, shown, same⟩
    cases shown
    exact absurd same (by decide)
  subst onDay afterDay
  obtain ⟨finish, after, none, grouped⟩ : ∃ finish after none,
      groupBy (.str Field.createdAt.name) LeapDay.orders =
        .ok [⟨some "2024-02-29", 1, finish⟩, ⟨some "2024-03-01", 1, after⟩, ⟨.none, 1, none⟩] :=
    ⟨_, _, _, rfl⟩
  obtain ⟨buckets, asked, each⟩ := groups LeapDay.orders LeapDay.valued
  cases asked.symm.trans grouped
  obtain ⟨date, valid, written, selects⟩ := each _ List.mem_cons_self _ rfl
  have text : Date.isoText ⟨2024, 2, 29⟩ = "2024-02-29" := by decide +kernel
  have leapDay : date = ⟨2024, 2, 29⟩ :=
    (Date.isoText_inj valid (by decide)).1 (written.trans text.symm)
  obtain ⟨t, matched, compiles, select, length⟩ := selects (by rw [leapDay]; decide)
  exact ⟨rfl, LeapDay.valued, LeapDay.toMoment_evening, early, last, next, t, matched, compiles,
    select, length⟩

end Condition

end OrderRetrieval
