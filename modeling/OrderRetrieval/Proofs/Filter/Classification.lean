import OrderRetrieval.Engine.Search
import OrderRetrieval.Proofs.Filter.Select
import OrderRetrieval.Proofs.Filter.Verdict

/-!
# How conditions come out

A condition is refused for its field, its operator, a missing value or a value of the wrong kind, in
this order, and otherwise it stands for a test (`Condition.outcome`).  Which of the five it is can
be told from the condition alone, and the test answers for every timed document
(`Condition.classified`).
-/

namespace OrderRetrieval

open Calendar (Moment)

/-- Whether a filter value has the shape that an operator takes, with operands that can be read. -/
def Operator.Takes (op : Operator) (readable : Datum → Prop) (value : Datum) : Prop :=
  (op = .between → ∃ low high, value = .arr [low, high]) ∧ ∀ x ∈ op.operands value, readable x

/-- An operator takes its filter value or the items of it. -/
theorem Operator.mem_operands {op : Operator} {value x : Datum} (h : x ∈ op.operands value) :
    x = value ∨ x ∈ value.asItems := by
  unfold operands at h
  split at h
  · split at h
    · exact .inr h
    · cases h
  · exact .inr h
  · exact .inr h
  · exact .inl (List.mem_singleton.1 h)

/-- Whether a failure reports a filter value of a field, or an item of it, as one that the field
cannot be compared with. -/
def Failure.IsInvalid (f : Field) (value : Datum) (e : Failure) : Prop :=
  ∃ x expected, e = .ofFault (.invalidValue f x expected) ∧ (x = value ∨ x ∈ value.asItems)

/-! ## Values -/

namespace Scale

theorem read_numbers_invalid (f : Field) (x : Datum) :
    Except.FailsOnly (fun e => e.IsOverflow ∨ e = .ofFault (.invalidValue f x .number))
      ((numbers f).read x) := by
  cases x with
  | int n =>
    simp only [numbers, Datum.toDouble]
    cases Double.ofInt? n with
    | some y => exact Except.failsOnly_ok y
    | none => exact Except.failsOnly_error.2 (.inl (.inr rfl))
  | str s =>
    simp only [numbers, Datum.toDouble]
    cases Number.readDouble? s with
    | some y => exact Except.failsOnly_ok y
    | none => exact Except.failsOnly_error.2 (.inr rfl)
  | bool | float => exact Except.failsOnly_ok _
  | null | time | arr | obj => exact Except.failsOnly_error.2 (.inr rfl)

theorem read_moments_invalid (f : Field) (x : Datum) :
    Except.FailsOnly (fun e => e.IsOverflow ∨ e = .ofFault (.invalidValue f x .date))
      ((moments f).read x) := by
  simp only [moments, Datum.toMoment]
  cases Checked.timestamp x with
  | error issues => exact Except.failsOnly_error.2 (.inr rfl)
  | ok t =>
    simp only [Calendar.Timestamp.moment]
    cases t.utc? with
    | some m => exact Except.failsOnly_ok m
    | none => exact Except.failsOnly_error.2 (.inl (.inl rfl))

variable {α : Type} {s : Scale α}

/-- A comparison that fails names its filter value or an operand that cannot be read. -/
theorem accepts_invalid {f : Field} {expected : Expectation}
    (read : ∀ x, Except.FailsOnly
      (fun e => e.IsOverflow ∨ e = .ofFault (.invalidValue f x expected)) (s.read x))
    (op : Operator) (value : Datum) :
    Except.FailsOnly (fun e => e.IsOverflow ∨ e.IsInvalid f value) (s.accepts f op value) := by
  rw [failsOnly_accepts (.inr ⟨value, .bounds, rfl, .inl rfl⟩)]
  refine Except.failsOnly_mapM_of_forall fun x operand e he => ?_
  refine (read x e he).imp_right ?_
  rintro rfl
  exact ⟨x, expected, rfl, Operator.mem_operands operand⟩

theorem exists_mapM_read_iff {P : Datum → Prop} (read : ∀ x, (∃ a, s.read x = .ok a) ↔ P x)
    (xs : List Datum) : (∃ as, xs.mapM s.read = .ok as) ↔ ∀ x ∈ xs, P x := by
  constructor
  · rintro ⟨as, h⟩ x hx
    exact (read x).1 (Except.exists_of_mapM_eq_ok h x hx)
  · intro h
    exact Except.exists_mapM_eq_ok fun x hx => (read x).2 (h x hx)

/-- A comparison succeeds if its operator takes the filter value. -/
theorem exists_accepts_iff {P : Datum → Prop} (read : ∀ x, (∃ a, s.read x = .ok a) ↔ P x)
    (f : Field) (op : Operator) (value : Datum) :
    (∃ g, s.accepts f op value = .ok g) ↔ op.Takes P value := by
  have operands := exists_mapM_read_iff read (op.operands value)
  unfold Operator.Takes
  rw [← operands]
  cases op with
  | between =>
    simp only [accepts, Operator.operands]
    split
    · simp [List.mapM_cons, Except.bind_eq_ok, pure, Except.pure]
    · next shape =>
      refine iff_of_false (by simp) ?_
      rintro ⟨pair, -⟩
      obtain ⟨low, high, rfl⟩ := pair trivial
      exact shape low high rfl
  | oneOf | noneOf =>
    simp only [accepts, Operator.operands, reduceCtorEq, false_imp_iff, true_and]
    simp [Except.bind_eq_ok, pure, Except.pure]
  | _ =>
    simp only [accepts, Operator.operands, reduceCtorEq, false_imp_iff, true_and]
    simp [List.mapM_cons, Except.bind_eq_ok, pure, Except.pure]

end Scale

/-- Comparing with a day succeeds if the day can be read and is not the last one. -/
theorem exists_dayAccepts_iff {s : Scale Moment} {value : Datum} :
    (∃ g, dayAccepts s value = .ok g) ↔
      (∃ m, s.read value = .ok m) ∧
        ∀ m, s.read value = .ok m → m.dayNumber + 1 ≠ Calendar.dayCount := by
  rw [← Except.failsOnly_false_iff, failsOnly_dayAccepts, Except.failsOnly_false_iff]

namespace Field

theorem accepts_invalid (f : Field) (op : Operator) (value : Datum) :
    Except.FailsOnly (fun e => e.IsOverflow ∨ e.IsInvalid f value) (f.accepts op value) := by
  unfold accepts
  cases f.kind with
  | numeric => exact Scale.accepts_invalid (Scale.read_numbers_invalid f) op value
  | date =>
    have day : Except.FailsOnly (fun e => e.IsOverflow ∨ e.IsInvalid f value)
        (dayAccepts (Scale.moments f) value) := by
      refine failsOnly_dayAccepts.2 ⟨fun e he => ?_, fun _ _ _ => .inl (.inl rfl)⟩
      refine (Scale.read_moments_invalid f value e he).imp_right ?_
      rintro rfl
      exact ⟨value, .date, rfl, .inl rfl⟩
    show Except.FailsOnly _ (dateAccepts f op value)
    by_cases h : op = .equals ∨ op = .notEquals
    · rcases h with rfl | rfl
      · exact day
      · exact Except.failsOnly_bind_ok.2 day
    · rw [dateAccepts_eq h]
      exact Scale.accepts_invalid (Scale.read_moments_invalid f) op value
  | string | nestedPath | enumeration | json => exact Except.failsOnly_ok _

theorem exists_dateAccepts_iff {f : Field} {op : Operator} {value : Datum}
    (inside : op = .equals ∨ op = .notEquals →
      ∀ m, value.toMoment = .ok m → m.dayNumber + 1 ≠ Calendar.dayCount) :
    (∃ g, dateAccepts f op value = .ok g) ↔ op.Takes FieldKind.date.Reads value := by
  have read : ∀ x, (∃ m, (Scale.moments f).read x = .ok m) ↔ FieldKind.date.Reads x :=
    fun x => (Scale.moments_reading f x).reads_iff
  by_cases h : op = .equals ∨ op = .notEquals
  · have day : (∃ g, dayAccepts (Scale.moments f) value = .ok g) ↔ FieldKind.date.Reads value := by
      rw [exists_dayAccepts_iff, read]
      simp only [Scale.read_moments_eq_ok]
      exact and_iff_left (inside h)
    rcases h with rfl | rfl
    · simpa [Operator.Takes, Operator.operands, dateAccepts] using day
    · simpa [Operator.Takes, Operator.operands, dateAccepts, Except.bind_eq_ok] using day
  · rw [dateAccepts_eq h]
    exact Scale.exists_accepts_iff read f op value

/-- A comparison of a field that fits succeeds unless it needs numbers or dates and its filter value
holds none. -/
theorem exists_accepts_iff {f : Field} {op : Operator} {value : Datum}
    (fits : ¬f.Overflows op value) :
    (∃ g, f.accepts op value = .ok g) ↔
      (f.kind = .numeric ∨ f.kind = .date → op.Takes f.kind.Reads value) := by
  unfold Overflows at fits
  unfold accepts
  cases kind : f.kind with
  | numeric =>
    simp only [true_or, true_imp_iff]
    exact Scale.exists_accepts_iff (fun x => (Scale.numbers_reading f x).reads_iff) f op value
  | date =>
    simp only [or_true, true_imp_iff]
    refine exists_dateAccepts_iff fun day m hm last => fits (.inr ⟨kind, day, m, hm, last⟩)
  | string | nestedPath | enumeration | json =>
    exact iff_of_true ⟨_, rfl⟩ (by simp)

end Field

/-! ## Conditions -/

theorem supportedOperators_name (f : Field) :
    supportedOperators (.str f.name) = .ok f.kind.operators := by
  rw [supportedOperators, Field.resolve_name]
  rfl

namespace Condition

variable {c : Condition}

/-- Whether compiling a condition ends in the report of a fault. -/
def Refused (c : Condition) (fault : QueryFault) : Prop := c.compile = .error (.ofFault fault)

/-- Whether a condition goes without the value that its operator needs. -/
def Lacks (c : Condition) (op : Operator) : Prop :=
  c.value = .null ∧ op ≠ .isNull ∧ op ≠ .isNotNull

theorem lacks_iff {op : Operator} :
    c.Lacks op ↔ c.value.isNull = true ∧ op.valueIsOptional = false := by
  refine and_congr ?_ ?_
  · cases c.value <;> simp [Datum.isNull]
  · cases op <;> simp [Operator.valueIsOptional]

theorem eq_comparing {f : Field} {op : Operator} (field : f.name = c.field)
    (operator : op.name = c.operator) : c = comparing f op c.value c.combinator := by
  rw [comparing, field, operator]

theorem refused_unsupportedField (unnamed : ∀ f : Field, f.name ≠ c.field) :
    c.Refused (.unsupportedField c.field) := by
  have none : Field.ofName? c.field = none := by
    rw [Option.eq_none_iff_forall_ne_some]
    intro f hf
    exact unnamed f (Field.ofName?_eq_some_iff.1 hf)
  simp [Refused, compile, resolve, Field.resolve, none]

theorem refused_unsupportedOperator {f : Field} (field : f.name = c.field)
    (unlisted : c.operator ∉ f.kind.operators.map Operator.name) :
    c.Refused (.unsupportedOperator f c.operator) := by
  have resolved : Field.resolve (.str c.field) = .ok f := by rw [← field, Field.resolve_name]
  have refused : c.resolve = .error (.unsupportedOperator f c.operator) := by
    unfold resolve
    rw [resolved]
    cases found : Operator.ofName? c.operator with
    | none => rfl
    | some op =>
      have named : op.name = c.operator := Operator.ofName?_eq_some_iff.1 found
      have absent : op ∉ f.kind.operators := fun h => unlisted (List.mem_map.2 ⟨op, h, named⟩)
      simp [absent, named]
  rw [Refused, compile, refused]

section Supported

variable {f : Field} {op : Operator} (field : f.name = c.field) (operator : op.name = c.operator)
  (supported : op ∈ f.kind.operators)

include field operator supported

theorem refused_missingValue (lacks : c.Lacks op) : c.Refused (.missingValue f c.operator) := by
  obtain ⟨missing, required⟩ := lacks_iff.1 lacks
  rw [Refused, eq_comparing field operator, compile_comparing_missing supported missing required]
  rfl

theorem compile_of_supported (present : ¬c.Lacks op) :
    c.compile = (f.accepts op c.value).map (Test.mk f) := by
  rw [eq_comparing field operator]
  refine compile_comparing supported fun required => ?_
  rw [lacks_iff] at present
  simpa [required] using present

variable (fits : ¬c.Overflows) (present : ¬c.Lacks op)

include fits present

/-- A condition that is refused neither for its field nor for its operator nor for a missing value
compiles unless it needs numbers or dates and its value holds none. -/
theorem exists_compile_iff :
    (∃ t, c.compile = .ok t) ↔
      (f.kind = .numeric ∨ f.kind = .date → op.Takes f.kind.Reads c.value) := by
  have compile := compile_of_supported field operator supported present
  have settles := c.settles_compile.2 fits
  rw [compile, Settles, Except.failsOnly_map] at settles
  rw [compile, ← Field.exists_accepts_iff ((f.settles_accepts op c.value).1 settles)]
  simp [Except.map_eq_ok]

theorem refused_invalidValue
    (unread : (f.kind = .numeric ∨ f.kind = .date) ∧ ¬op.Takes f.kind.Reads c.value) :
    ∃ x expected, (x = c.value ∨ x ∈ c.value.asItems) ∧ c.Refused (.invalidValue f x expected) := by
  have invalid : Except.FailsOnly (fun e => e.IsOverflow ∨ e.IsInvalid f c.value) c.compile := by
    rw [compile_of_supported field operator supported present, Except.failsOnly_map]
    exact f.accepts_invalid op c.value
  cases result : c.compile with
  | ok t =>
    have taken := (exists_compile_iff field operator supported fits present).1 ⟨t, result⟩
    exact absurd (taken unread.1) unread.2
  | error e =>
    have report : e.IsReport := c.settles_compile.2 fits e result
    rcases invalid e result with overflow | ⟨x, expected, rfl, part⟩
    · exact absurd report overflow.not_isReport
    · exact ⟨x, expected, part, result⟩

end Supported

/-- The ways in which compiling a condition comes out, in the order in which they are ruled out. -/
inductive Outcome (c : Condition) : Except Failure Test → Prop
  | unsupportedField (unnamed : ∀ f : Field, f.name ≠ c.field) :
    Outcome c (.error (.ofFault (.unsupportedField c.field)))
  | unsupportedOperator (f : Field) (field : f.name = c.field)
    (unlisted : c.operator ∉ f.kind.operators.map Operator.name) :
    Outcome c (.error (.ofFault (.unsupportedOperator f c.operator)))
  | missingValue (f : Field) (op : Operator) (field : f.name = c.field)
    (operator : op.name = c.operator) (supported : op ∈ f.kind.operators) (lacks : c.Lacks op) :
    Outcome c (.error (.ofFault (.missingValue f c.operator)))
  | invalidValue (f : Field) (op : Operator) (field : f.name = c.field)
    (operator : op.name = c.operator) (supported : op ∈ f.kind.operators) (present : ¬c.Lacks op)
    (unread : (f.kind = .numeric ∨ f.kind = .date) ∧ ¬op.Takes f.kind.Reads c.value)
    (x : Datum) (part : x = c.value ∨ x ∈ c.value.asItems) (expected : Expectation) :
    Outcome c (.error (.ofFault (.invalidValue f x expected)))
  | compiled (f : Field) (op : Operator) (field : f.name = c.field)
    (operator : op.name = c.operator) (supported : op ∈ f.kind.operators) (present : ¬c.Lacks op)
    (taken : f.kind = .numeric ∨ f.kind = .date → op.Takes f.kind.Reads c.value) (t : Test) :
    Outcome c (.ok t)

theorem outcome (fits : ¬c.Overflows) : c.Outcome c.compile := by
  by_cases named : ∃ f : Field, f.name = c.field
  case neg =>
    rw [not_exists] at named
    rw [refused_unsupportedField named]
    exact .unsupportedField named
  obtain ⟨f, field⟩ := named
  by_cases listed : c.operator ∈ f.kind.operators.map Operator.name
  case neg =>
    rw [refused_unsupportedOperator field listed]
    exact .unsupportedOperator f field listed
  obtain ⟨op, supported, operator⟩ := List.mem_map.1 listed
  by_cases lacks : c.Lacks op
  case pos =>
    rw [refused_missingValue field operator supported lacks]
    exact .missingValue f op field operator supported lacks
  by_cases taken : f.kind = .numeric ∨ f.kind = .date → op.Takes f.kind.Reads c.value
  case pos =>
    obtain ⟨t, ht⟩ := (exists_compile_iff field operator supported fits lacks).2 taken
    rw [ht]
    exact .compiled f op field operator supported lacks taken t
  rw [Classical.not_imp] at taken
  obtain ⟨x, expected, part, refused⟩ :=
    refused_invalidValue field operator supported fits lacks taken
  rw [refused]
  exact .invalidValue f op field operator supported lacks taken x part expected

section Verdicts

variable {f : Field} {op : Operator} (fits : ¬c.Overflows)

include fits

theorem refused_unsupportedField_iff :
    (∃ name, c.Refused (.unsupportedField name)) ↔ ∀ f : Field, f.name ≠ c.field := by
  refine ⟨?_, fun unnamed => ⟨_, refused_unsupportedField unnamed⟩⟩
  rintro ⟨name, refused⟩
  have out := outcome fits
  rw [refused] at out
  cases out with
  | unsupportedField unnamed => exact unnamed

theorem refused_unsupportedOperator_iff (field : f.name = c.field) :
    (∃ g name, c.Refused (.unsupportedOperator g name)) ↔
      c.operator ∉ f.kind.operators.map Operator.name := by
  refine ⟨?_, fun unlisted => ⟨f, _, refused_unsupportedOperator field unlisted⟩⟩
  rintro ⟨g, name, refused⟩
  have out := outcome fits
  rw [refused] at out
  cases out with
  | unsupportedOperator _ named unlisted =>
    cases Field.name_injective (named.trans field.symm)
    exact unlisted

variable (field : f.name = c.field) (operator : op.name = c.operator)
  (supported : op ∈ f.kind.operators)

include field operator supported

theorem refused_missingValue_iff : (∃ g name, c.Refused (.missingValue g name)) ↔ c.Lacks op := by
  refine ⟨?_, fun lacks => ⟨f, _, refused_missingValue field operator supported lacks⟩⟩
  rintro ⟨g, name, refused⟩
  have out := outcome fits
  rw [refused] at out
  cases out with
  | missingValue _ op' _ named _ lacks =>
    cases Operator.name_injective (named.trans operator.symm)
    exact lacks

theorem refused_invalidValue_iff (present : ¬c.Lacks op) :
    (∃ g x expected, c.Refused (.invalidValue g x expected)) ↔
      (f.kind = .numeric ∨ f.kind = .date) ∧ ¬op.Takes f.kind.Reads c.value := by
  constructor
  · rintro ⟨g, x, expected, refused⟩
    have out := outcome fits
    rw [refused] at out
    cases out with
    | invalidValue _ op' named named' _ _ unread =>
      cases Field.name_injective (named.trans field.symm)
      cases Operator.name_injective (named'.trans operator.symm)
      exact unread
  · intro unread
    obtain ⟨x, expected, -, refused⟩ :=
      refused_invalidValue field operator supported fits present unread
    exact ⟨f, x, expected, refused⟩

end Verdicts

/-- What a condition that fits comes to can be told from its field, its operator and its value, in
this order; the test that it otherwise stands for answers for every timed document. -/
theorem classified (fits : ¬c.Overflows) :
    ((∃ name, c.Refused (.unsupportedField name)) ↔ ∀ f : Field, f.name ≠ c.field) ∧
      ∀ f : Field, f.name = c.field → ∃ ops, supportedOperators (.str c.field) = .ok ops ∧
        ((∃ g name, c.Refused (.unsupportedOperator g name)) ↔
          c.operator ∉ ops.map Operator.name) ∧
        ∀ op ∈ ops, op.name = c.operator →
          ((∃ g name, c.Refused (.missingValue g name)) ↔ c.Lacks op) ∧
          (¬c.Lacks op →
            ((∃ g x expected, c.Refused (.invalidValue g x expected)) ↔
              (f.kind = .numeric ∨ f.kind = .date) ∧ ¬op.Takes f.kind.Reads c.value) ∧
            (¬((f.kind = .numeric ∨ f.kind = .date) ∧ ¬op.Takes f.kind.Reads c.value) →
              ∃ t, c.compile = .ok t ∧ ∀ d : Document, d.Timed → ∃ b, t.holds d = .ok b)) := by
  refine ⟨refused_unsupportedField_iff fits, fun f field => ⟨f.kind.operators, ?_,
    refused_unsupportedOperator_iff fits field, fun op supported operator =>
      ⟨refused_missingValue_iff fits field operator supported, fun present =>
        ⟨refused_invalidValue_iff fits field operator supported present, fun taken => ?_⟩⟩⟩⟩
  · rw [← field, supportedOperators_name]
  · rw [← Classical.not_imp, not_not] at taken
    obtain ⟨t, compiles⟩ := (exists_compile_iff field operator supported fits present).2 taken
    exact ⟨t, compiles, fun d timed => t.holds_eq_ok timed⟩

/-- A range of dates of which one end is no date is refused for its value. -/
theorem classified_soon :
    let c := comparing .createdAt .between (.arr [.str "2024-01-01", .str "soon"]) .all
    ¬c.Overflows ∧ ∃ g x expected, c.Refused (.invalidValue g x expected) := by
  intro c
  have compile : c.compile = .error (.ofFault (.invalidValue .createdAt (.str "soon") .date)) := rfl
  have fits : ¬c.Overflows := by
    rw [← settles_compile, compile]
    exact Except.failsOnly_error.2 ⟨_, rfl⟩
  obtain ⟨ops, listed, -, each⟩ := (classified fits).2 .createdAt rfl
  cases listed
  have present : ¬c.Lacks .between := by rintro ⟨⟨⟩, -⟩
  obtain ⟨invalid, -⟩ := (each .between (by decide) rfl).2 present
  refine ⟨fits, invalid.2 ⟨.inr rfl, ?_⟩⟩
  rintro ⟨-, readable⟩
  obtain ⟨m, ⟨⟩⟩ := readable (.str "soon") (.tail _ (.head _))

end Condition

end OrderRetrieval
