import OrderRetrieval.Filter.Compile
import OrderRetrieval.Proofs.Calendar.Day
import OrderRetrieval.Proofs.Outcome

/-!
# What compiling a condition comes to

A condition compiles, or it is reported as one fault, or it overflows: it compares with a number too
large for a double or with a date that leads out of the calendar.  Only a condition that overflows
ends the validation of all (`Condition.validate_eq_ok_iff`, `Condition.exists_reported`).
-/

namespace OrderRetrieval

open Calendar (Moment)

/-! ## Failures of a filter value -/

/-- Whether a failure is the report of a single fault. -/
def Failure.IsReport (e : Failure) : Prop := ∃ fault, e = .ofFault fault

/-- Whether a failure says that a number or a date has no place among those that can be held. -/
def Failure.IsOverflow (e : Failure) : Prop := e = .dateOutOfRange ∨ e = .numberTooLarge

/-- Whether a computation succeeds or reports a single fault. -/
def Settles {α : Type} (x : Except Failure α) : Prop := Except.FailsOnly Failure.IsReport x

theorem Failure.IsOverflow.not_isReport {e : Failure} (h : e.IsOverflow) : ¬e.IsReport := by
  rcases h with rfl | rfl
  · rintro ⟨fault, ⟨⟩⟩
  · rintro ⟨fault, ⟨⟩⟩

namespace FieldKind

/-- Whether a filter value is one that a field of the kind can be compared with. -/
def Reads : FieldKind → Datum → Prop
  | numeric, x => ∃ y, x.toDouble = .ok y
  | date, x => ∃ m, x.toMoment = .ok m
  | _, _ => True

/-- Whether a filter value is a number or a timestamp, but one beyond those that can be held. -/
def Overflows : FieldKind → Datum → Prop
  | numeric, x => ∃ n, x = .int n ∧ Double.ofInt? n = none
  | date, x => ∃ t, Checked.timestamp x = .ok t ∧ t.utc? = none
  | _, _ => False

end FieldKind

/-- The values that an operator takes from its filter value, in the order in which it takes them. -/
def Operator.operands (op : Operator) (value : Datum) : List Datum :=
  match op with
  | between => match value with
    | .arr [low, high] => [low, high]
    | _ => []
  | oneOf | noneOf => value.asItems
  | _ => [value]

/-- Whether the first of several filter values that cannot be compared with overflows. -/
def FieldKind.OverflowsFirst (k : FieldKind) (xs : List Datum) : Prop :=
  ∃ before x after, xs = before ++ x :: after ∧ (∀ y ∈ before, k.Reads y) ∧ k.Overflows x

/-- Whether a filter value makes an operator on a field overflow: a value that it takes does, or
the day that it compares with is the last of the calendar. -/
def Field.Overflows (f : Field) (op : Operator) (value : Datum) : Prop :=
  f.kind.OverflowsFirst (op.operands value) ∨
    (f.kind = .date ∧ (op = .equals ∨ op = .notEquals) ∧
      ∃ m, value.toMoment = .ok m ∧ m.dayNumber + 1 = Calendar.dayCount)

/-- Whether a condition that names a field and an operator of it makes them overflow. -/
def Condition.Overflows (c : Condition) : Prop :=
  ∃ f op, c.resolve = .ok (f, op) ∧ f.Overflows op c.value

/-! ## Scales -/

/-- What taking a filter value for a place on a scale comes to: the place, the report that it is
none, or a failure because it lies beyond the scale. -/
inductive FieldKind.Reading {α : Type} (k : FieldKind) (x : Datum) : Except Failure α → Prop
  | place (a : α) (reads : k.Reads x) (fits : ¬k.Overflows x) : Reading k x (.ok a)
  | report (fault : QueryFault) (unread : ¬k.Reads x) (fits : ¬k.Overflows x) :
    Reading k x (.error (.ofFault fault))
  | beyond (e : Failure) (overflow : e.IsOverflow) (unread : ¬k.Reads x) (beyond : k.Overflows x) :
    Reading k x (.error e)

namespace FieldKind.Reading

variable {α : Type} {k : FieldKind} {x : Datum} {r : Except Failure α}

theorem reads_iff (h : k.Reading x r) : (∃ a, r = .ok a) ↔ k.Reads x := by
  cases h with
  | place a reads => exact iff_of_true ⟨a, rfl⟩ reads
  | report fault unread => exact iff_of_false (by rintro ⟨a, ⟨⟩⟩) unread
  | beyond e overflow unread => exact iff_of_false (by rintro ⟨a, ⟨⟩⟩) unread

theorem settles_iff (h : k.Reading x r) : Settles r ↔ ¬k.Overflows x := by
  cases h with
  | place a reads fits => exact iff_of_true (Except.failsOnly_ok a) fits
  | report fault unread fits => exact iff_of_true (Except.failsOnly_error.2 ⟨fault, rfl⟩) fits
  | beyond e overflow unread beyond =>
    refine iff_of_false ?_ (not_not_intro beyond)
    intro settles
    exact overflow.not_isReport (Except.failsOnly_error.1 settles)

theorem failsOnly (h : k.Reading x r) :
    Except.FailsOnly (fun e => e.IsReport ∨ e.IsOverflow) r := by
  cases h with
  | place a => exact Except.failsOnly_ok a
  | report fault => exact Except.failsOnly_error.2 (.inl ⟨fault, rfl⟩)
  | beyond e overflow => exact Except.failsOnly_error.2 (.inr overflow)

end FieldKind.Reading

namespace Scale

variable {α : Type} {s : Scale α} {k : FieldKind} {Q : Failure → Prop}

theorem numbers_reading (f : Field) (x : Datum) :
    FieldKind.numeric.Reading x ((numbers f).read x) := by
  cases x with
  | int n =>
    simp only [numbers, Datum.toDouble]
    cases hn : Double.ofInt? n with
    | some y => exact .place y ⟨y, by simp [Datum.toDouble, hn]⟩ (by simp [FieldKind.Overflows, hn])
    | none =>
      exact .beyond _ (.inr rfl) (by simp [FieldKind.Reads, Datum.toDouble, hn]) ⟨n, rfl, hn⟩
  | str s =>
    simp only [numbers, Datum.toDouble]
    cases hs : Number.readDouble? s with
    | some y => exact .place y ⟨y, by simp [Datum.toDouble, hs]⟩ (by simp [FieldKind.Overflows])
    | none =>
      exact .report _ (by simp [FieldKind.Reads, Datum.toDouble, hs])
        (by simp [FieldKind.Overflows])
  | bool | float => exact .place _ ⟨_, rfl⟩ (by simp [FieldKind.Overflows])
  | null | time | arr | obj =>
    exact .report _ (by simp [FieldKind.Reads, Datum.toDouble]) (by simp [FieldKind.Overflows])

theorem moments_reading (f : Field) (x : Datum) :
    FieldKind.date.Reading x ((moments f).read x) := by
  simp only [moments, Datum.toMoment]
  cases hx : Checked.timestamp x with
  | error issues =>
    exact .report _ (by simp [FieldKind.Reads, Datum.toMoment, hx])
      (by simp [FieldKind.Overflows, hx])
  | ok t =>
    cases ht : t.utc? with
    | some m =>
      simp only [Calendar.Timestamp.moment, ht]
      exact .place m ⟨m, by simp [Datum.toMoment, hx, Calendar.Timestamp.moment, ht]⟩
        (by simp [FieldKind.Overflows, hx, ht])
    | none =>
      simp only [Calendar.Timestamp.moment, ht]
      exact .beyond _ (.inl rfl)
        (by simp [FieldKind.Reads, Datum.toMoment, hx, Calendar.Timestamp.moment, ht]) ⟨t, hx, ht⟩

/-- A comparison fails as taking its operands does. -/
theorem failsOnly_accepts {f : Field} {value : Datum}
    (report : Q (.ofFault (.invalidValue f value .bounds))) (op : Operator) :
    Except.FailsOnly Q (s.accepts f op value) ↔
      Except.FailsOnly Q ((op.operands value).mapM s.read) := by
  cases op with
  | between =>
    simp only [accepts, Operator.operands]
    split
    · simp [List.mapM_cons, Except.failsOnly_bind, pure, Except.pure]
    · simp [pure, Except.pure, report]
  | oneOf | noneOf => exact Except.failsOnly_bind_ok
  | _ =>
    -- The one operand is taken, and what is made of it never fails.
    simp only [Operator.operands, List.mapM_cons, List.mapM_nil]
    exact Except.failsOnly_bind_ok.trans Except.failsOnly_bind_ok.symm

/-- A comparison settles unless one of its operands overflows. -/
theorem settles_accepts (reading : ∀ x, k.Reading x (s.read x)) (f : Field) (op : Operator)
    (value : Datum) :
    Settles (s.accepts f op value) ↔ ¬k.OverflowsFirst (op.operands value) := by
  unfold Settles FieldKind.OverflowsFirst
  rw [failsOnly_accepts ⟨_, rfl⟩, Except.failsOnly_mapM]
  simp only [not_exists, not_and, (reading _).reads_iff]
  refine forall₃_congr fun before x after => forall₂_congr fun _ _ => ?_
  exact (reading x).settles_iff

theorem accepts_overflows (reading : ∀ x, k.Reading x (s.read x)) (f : Field) (op : Operator)
    (value : Datum) :
    Except.FailsOnly (fun e => e.IsReport ∨ e.IsOverflow) (s.accepts f op value) := by
  rw [failsOnly_accepts (.inl ⟨_, rfl⟩), Except.failsOnly_mapM]
  intro before x after _ _
  exact (reading x).failsOnly

end Scale

/-! ## Fields and conditions -/

theorem FieldKind.overflowsFirst_singleton {k : FieldKind} {x : Datum} :
    k.OverflowsFirst [x] ↔ k.Overflows x := by
  constructor
  · rintro ⟨before, y, after, eq, -, overflows⟩
    cases before with
    | nil =>
      cases eq
      exact overflows
    | cons z before => simp at eq
  · intro overflows
    exact ⟨[], x, [], rfl, List.forall_mem_nil _, overflows⟩

/-- Comparing with a day fails as taking the day does, or because it is the last one. -/
theorem failsOnly_dayAccepts {Q : Failure → Prop} {s : Scale Moment} {value : Datum} :
    Except.FailsOnly Q (dayAccepts s value) ↔
      Except.FailsOnly Q (s.read value) ∧
        ∀ m, s.read value = .ok m → m.dayNumber + 1 = Calendar.dayCount → Q .dateOutOfRange := by
  unfold dayAccepts
  rw [Except.failsOnly_bind]
  refine and_congr_right fun _ => forall₂_congr fun m _ => ?_
  rw [← Moment.dayBounds?_eq_none_iff]
  cases m.dayBounds? with
  | none => simp
  | some bounds => simp

theorem Scale.read_moments_eq_ok {f : Field} {x : Datum} {m : Moment} :
    (Scale.moments f).read x = .ok m ↔ x.toMoment = .ok m := by
  simp only [moments]
  cases x.toMoment with
  | ok n => rfl
  | error e => cases e <;> simp

namespace Field

/-- Comparing with a day settles unless the day overflows or is the last one. -/
theorem settles_dayAccepts (f : Field) (value : Datum) :
    Settles (dayAccepts (Scale.moments f) value) ↔
      ¬(FieldKind.date.Overflows value ∨
        ∃ m, value.toMoment = .ok m ∧ m.dayNumber + 1 = Calendar.dayCount) := by
  have escapes : ¬Failure.IsReport .dateOutOfRange := Failure.IsOverflow.not_isReport (.inl rfl)
  unfold Settles
  rw [failsOnly_dayAccepts, not_or, not_exists]
  refine and_congr (Scale.moments_reading f value).settles_iff (forall_congr' fun m => ?_)
  rw [Scale.read_moments_eq_ok, not_and]
  simp only [escapes, imp_false]

/-- Other comparisons than with a day are those of the scale. -/
theorem dateAccepts_eq {f : Field} {op : Operator} {value : Datum}
    (h : ¬(op = .equals ∨ op = .notEquals)) :
    dateAccepts f op value = (Scale.moments f).accepts f op value := by
  cases op with
  | equals => exact absurd (.inl rfl) h
  | notEquals => exact absurd (.inr rfl) h
  | _ => rfl

theorem settles_dateAccepts (f : Field) (op : Operator) (value : Datum) :
    Settles (dateAccepts f op value) ↔
      ¬(FieldKind.date.OverflowsFirst (op.operands value) ∨
        ((op = .equals ∨ op = .notEquals) ∧
          ∃ m, value.toMoment = .ok m ∧ m.dayNumber + 1 = Calendar.dayCount)) := by
  by_cases h : op = .equals ∨ op = .notEquals
  · rcases h with rfl | rfl
    · simp only [Operator.operands, FieldKind.overflowsFirst_singleton, true_or, true_and]
      exact settles_dayAccepts f value
    · simp only [Operator.operands, FieldKind.overflowsFirst_singleton, or_true, true_and]
      exact Except.failsOnly_bind_ok.trans (settles_dayAccepts f value)
  · rw [dateAccepts_eq h]
    simp only [h, false_and, or_false]
    exact Scale.settles_accepts (Scale.moments_reading f) f op value

/-- A comparison of a field settles unless its filter value makes it overflow. -/
theorem settles_accepts (f : Field) (op : Operator) (value : Datum) :
    Settles (f.accepts op value) ↔ ¬f.Overflows op value := by
  unfold accepts Overflows
  cases kind : f.kind with
  | numeric =>
    simp only [reduceCtorEq, false_and, or_false]
    exact Scale.settles_accepts (Scale.numbers_reading f) f op value
  | date =>
    simp only [true_and]
    exact settles_dateAccepts f op value
  | string | nestedPath | enumeration | json =>
    simp only [reduceCtorEq, false_and, or_false]
    refine iff_of_true (Except.failsOnly_ok _) ?_
    rintro ⟨before, x, after, -, -, ⟨⟩⟩

theorem accepts_overflows (f : Field) (op : Operator) (value : Datum) :
    Except.FailsOnly (fun e => e.IsReport ∨ e.IsOverflow) (f.accepts op value) := by
  unfold accepts
  cases f.kind with
  | numeric => exact Scale.accepts_overflows (Scale.numbers_reading f) f op value
  | date =>
    have day : Except.FailsOnly (fun e => e.IsReport ∨ e.IsOverflow)
        (dayAccepts (Scale.moments f) value) :=
      failsOnly_dayAccepts.2
        ⟨(Scale.moments_reading f value).failsOnly, fun _ _ _ => .inr (.inl rfl)⟩
    show Except.FailsOnly _ (dateAccepts f op value)
    by_cases h : op = .equals ∨ op = .notEquals
    · rcases h with rfl | rfl
      · exact day
      · exact Except.failsOnly_bind_ok.2 day
    · rw [dateAccepts_eq h]
      exact Scale.accepts_overflows (Scale.moments_reading f) f op value
  | string | nestedPath | enumeration | json => exact Except.failsOnly_ok _

end Field

namespace Condition

/-- A condition compiles or is reported as one fault unless it overflows. -/
theorem settles_compile (c : Condition) : Settles c.compile ↔ ¬c.Overflows := by
  unfold compile Overflows
  cases hc : c.resolve with
  | error fault =>
    refine iff_of_true (Except.failsOnly_error.2 ⟨fault, rfl⟩) ?_
    rintro ⟨f, op, ⟨⟩, -⟩
  | ok target =>
    obtain ⟨f, op⟩ := target
    refine Except.failsOnly_map.trans ((f.settles_accepts op c.value).trans (not_congr ?_))
    constructor
    · intro overflows
      exact ⟨f, op, rfl, overflows⟩
    · rintro ⟨f, op, ⟨⟩, overflows⟩
      exact overflows

theorem compile_overflows (c : Condition) :
    Except.FailsOnly (fun e => e.IsReport ∨ e.IsOverflow) c.compile := by
  unfold compile
  cases c.resolve with
  | error fault => exact Except.failsOnly_error.2 (.inl ⟨fault, rfl⟩)
  | ok target => exact Except.failsOnly_map.2 (target.1.accepts_overflows target.2 c.value)

/-- Each condition compiles or is reported as one fault; these are the faults, in the order of the
conditions. -/
inductive Reported : List Condition → List QueryFault → Prop
  | nil : Reported [] []
  | compiled {c : Condition} {cs : List Condition} {faults : List QueryFault} {t : Test}
    (compiles : c.compile = .ok t) (rest : Reported cs faults) : Reported (c :: cs) faults
  | refused {c : Condition} {cs : List Condition} {faults : List QueryFault} {fault : QueryFault}
    (refuses : c.compile = .error (.ofFault fault)) (rest : Reported cs faults) :
    Reported (c :: cs) (fault :: faults)

variable {cs ds : List Condition} {faults others : List QueryFault}

theorem Reported.append (h : Reported cs faults) (h' : Reported ds others) :
    Reported (cs ++ ds) (faults ++ others) := by
  induction h with
  | nil => exact h'
  | compiled compiles _ ih => exact .compiled compiles ih
  | refused refuses _ ih => exact .refused refuses ih

/-- Conditions that are all reported do not overflow. -/
theorem Reported.not_overflows (h : Reported cs faults) : ∀ c ∈ cs, ¬c.Overflows := by
  induction h with
  | nil => exact List.forall_mem_nil _
  | @compiled c _ _ t compiles _ ih =>
    refine List.forall_mem_cons.2 ⟨?_, ih⟩
    rw [← settles_compile, compiles]
    exact Except.failsOnly_ok t
  | @refused c _ _ fault refuses _ ih =>
    refine List.forall_mem_cons.2 ⟨?_, ih⟩
    rw [← settles_compile, refuses]
    exact Except.failsOnly_error.2 ⟨fault, rfl⟩

/-- Conditions none of which overflows are all reported. -/
theorem exists_reported (h : ∀ c ∈ cs, ¬c.Overflows) : ∃ faults, Reported cs faults := by
  induction cs with
  | nil => exact ⟨[], .nil⟩
  | cons c cs ih =>
    rw [List.forall_mem_cons] at h
    obtain ⟨faults, rest⟩ := ih h.2
    cases hc : c.compile with
    | ok t => exact ⟨faults, .compiled hc rest⟩
    | error e =>
      obtain ⟨fault, rfl⟩ := c.settles_compile.2 h.1 e hc
      exact ⟨fault :: faults, .refused hc rest⟩

/-- Compiling several conditions gives their faults if each of them compiles or is reported. -/
theorem exists_compileEach_iff :
    (∃ ts, compileEach cs = .ok (ts, faults)) ↔ Reported cs faults := by
  constructor
  · rintro ⟨ts, h⟩
    induction cs generalizing ts faults with
    | nil =>
      cases h
      exact .nil
    | cons c cs ih =>
      cases hc : c.compile with
      | ok t =>
        simp only [compileEach, hc, Except.map_eq_ok] at h
        obtain ⟨⟨us, rest⟩, hrest, ⟨⟩⟩ := h
        exact .compiled hc (ih us hrest)
      | error e =>
        rcases c.compile_overflows e hc with ⟨fault, rfl⟩ | rfl | rfl
        · simp only [compileEach, hc, Failure.ofFault, Except.map_eq_ok] at h
          obtain ⟨⟨us, rest⟩, hrest, ⟨⟩⟩ := h
          exact .refused hc (ih us hrest)
        · simp [compileEach, hc] at h
        · simp [compileEach, hc] at h
  · intro h
    induction h with
    | nil => exact ⟨[], rfl⟩
    | compiled compiles _ ih =>
      obtain ⟨ts, hts⟩ := ih
      exact ⟨_ :: ts, by rw [compileEach, compiles, hts]; rfl⟩
    | refused refuses _ ih =>
      obtain ⟨ts, hts⟩ := ih
      exact ⟨ts, by rw [compileEach, refuses, Failure.ofFault, hts]; rfl⟩

theorem validate_eq_ok_iff : validate cs = .ok faults ↔ Reported cs faults := by
  rw [← exists_compileEach_iff, validate, Except.map_eq_ok]
  constructor
  · rintro ⟨⟨ts, rest⟩, h, rfl⟩
    exact ⟨ts, h⟩
  · rintro ⟨ts, h⟩
    exact ⟨(ts, faults), h, rfl⟩

theorem compileEach_overflows :
    Except.FailsOnly Failure.IsOverflow (compileEach cs) := by
  induction cs with
  | nil => exact Except.failsOnly_ok _
  | cons c cs ih =>
    unfold compileEach
    split
    · exact Except.failsOnly_map.2 ih
    · exact Except.failsOnly_map.2 ih
    · next e unreported hc =>
      rcases c.compile_overflows e hc with ⟨fault, rfl⟩ | overflow
      · exact absurd rfl (unreported ⟨fault, []⟩)
      · exact Except.failsOnly_error.2 overflow

end Condition

end OrderRetrieval
