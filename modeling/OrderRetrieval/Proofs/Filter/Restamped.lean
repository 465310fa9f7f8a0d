import OrderRetrieval.Proofs.Document.Restamped
import OrderRetrieval.Proofs.Filter.Select
import OrderRetrieval.Proofs.Filter.Verdict

/-!
# Filters with the same instants

A date in a filter may be written in another way that stands for the same moment.  The test that the
filter stands for is the same one then, and a filter that is at fault stays so, with other values
quoted at most (`Condition.Restamped.compile`).
-/

namespace OrderRetrieval

open List (Forall₂)

/-- Two filter values that are taken for the same date, or lists of values that are, item by item.
Values that are no dates are taken for the same only if they are equal. -/
inductive Datum.Restamped : Datum → Datum → Prop
  | date {x y : Datum} (same : x.toMoment = y.toMoment) : Restamped x y
  | dates {xs ys : List Datum} (same : Forall₂ (fun x y => x.toMoment = y.toMoment) xs ys) :
    Restamped (.arr xs) (.arr ys)

/-- Two faults that differ at most in how they quote a date. -/
inductive QueryFault.Restamped : QueryFault → QueryFault → Prop
  | refl (fault : QueryFault) : Restamped fault fault
  | value {x y : Datum} (same : x.Restamped y) (f : Field) (expected : Expectation) :
    Restamped (.invalidValue f x expected) (.invalidValue f y expected)

/-- Two failures that differ at most in how the faults of a query quote dates. -/
inductive Failure.Restamped : Failure → Failure → Prop
  | refl (e : Failure) : Restamped e e
  | rejected {r r' : Rejection} (same : Forall₂ QueryFault.Restamped r.faults r'.faults) :
    Restamped (.rejected r) (.rejected r')

instance : Std.Refl Failure.Restamped := ⟨.refl⟩

/-- A condition and the same with a date written in another way. -/
inductive Condition.Restamped : Condition → Condition → Prop
  | refl (c : Condition) : Restamped c c
  | value {name operator : String} {x y : Datum} {combinator : Combinator} {f : Field}
    (named : Field.ofName? name = some f) (date : f.kind = .date) (same : x.Restamped y) :
    Restamped ⟨name, operator, x, combinator⟩ ⟨name, operator, y, combinator⟩

/-! ## Filter values -/

namespace Datum

theorem eq_of_notATimestamp {x y : Datum} (h : x.toMoment = .error (.notATimestamp y)) :
    x = y := by
  unfold toMoment at h
  cases hx : Checked.timestamp x with
  | ok t =>
    simp only [hx, Calendar.Timestamp.moment] at h
    cases ht : t.utc? <;> simp [ht] at h
  | error issues =>
    simp only [hx] at h
    cases h
    rfl

theorem eq_of_toMoment_arr {xs : List Datum} {y : Datum} (h : (arr xs).toMoment = y.toMoment) :
    y = arr xs :=
  eq_of_notATimestamp h.symm

namespace Restamped

variable {x y : Datum}

theorem isNull_eq (h : x.Restamped y) : x.isNull = y.isNull := by
  cases h with
  | dates => rfl
  | date same =>
    cases x with
    | null => rw [eq_of_notATimestamp same.symm]
    | _ =>
      cases y with
      | null => cases eq_of_notATimestamp same
      | _ => rfl

theorem asItems (h : x.Restamped y) :
    Forall₂ (fun x y => x.toMoment = y.toMoment) x.asItems y.asItems := by
  cases h with
  | dates same => exact same
  | date same =>
    cases x with
    | arr xs =>
      rw [eq_of_toMoment_arr same]
      exact List.forall₂_same.2 fun _ _ => rfl
    | _ =>
      cases y with
      | arr ys => cases eq_of_toMoment_arr same.symm
      | _ => exact .cons same .nil

end Restamped

end Datum

/-- A fault in a value is the same fault in another spelling of it. -/
theorem Failure.Restamped.value {x y : Datum} (same : x.Restamped y) (f : Field)
    (expected : Expectation) :
    Failure.Restamped (.ofFault (.invalidValue f x expected))
      (.ofFault (.invalidValue f y expected)) :=
  .rejected (.cons (.value same f expected) .nil)

namespace Scale

theorem read_moments_eq {x y : Datum} (same : x.toMoment = y.toMoment) (f : Field) :
    (moments f).read x = (moments f).read y := by
  simp only [moments]
  rw [same]
  cases hy : y.toMoment with
  | ok m => rfl
  | error e =>
    cases e with
    | notATimestamp z =>
      rw [Datum.eq_of_notATimestamp (same.trans hy), Datum.eq_of_notATimestamp hy]
    | _ => rfl

theorem read_moments_restamped {x y : Datum} (same : x.Restamped y) (f : Field) :
    Except.Alike Failure.Restamped Eq ((moments f).read x) ((moments f).read y) := by
  cases same with
  | date same =>
    rw [read_moments_eq same f]
    exact .refl _
  | dates same => exact .error (.value (.dates same) f .date)

theorem mapM_read_moments_eq {xs ys : List Datum}
    (same : Forall₂ (fun x y => x.toMoment = y.toMoment) xs ys) (f : Field) :
    xs.mapM (moments f).read = ys.mapM (moments f).read :=
  Except.mapM_congr same fun _ _ h => read_moments_eq h f

theorem between_moments_restamped {x y : Datum} (same : x.Restamped y) (f : Field) :
    Except.Alike Failure.Restamped Eq ((moments f).accepts f .between x)
      ((moments f).accepts f .between y) := by
  have fault : Failure.Restamped (.ofFault (.invalidValue f x .bounds))
      (.ofFault (.invalidValue f y .bounds)) := .value same f .bounds
  cases same with
  | date same =>
    cases x with
    | arr xs =>
      rw [Datum.eq_of_toMoment_arr same]
      exact .refl _
    | _ =>
      cases y with
      | arr ys => cases Datum.eq_of_toMoment_arr same.symm
      | _ => exact .error fault
  | dates same =>
    match same with
    | .nil => exact .error fault
    | .cons _ .nil => exact .error fault
    | .cons low (.cons high .nil) =>
      simp only [accepts, read_moments_eq low, read_moments_eq high]
      exact .refl _
    | .cons _ (.cons _ (.cons _ _)) => exact .error fault

/-- What a comparison accepts of a date does not depend on how its dates are written. -/
theorem accepts_moments_restamped {x y : Datum} (same : x.Restamped y) (f : Field) (op : Operator) :
    Except.Alike Failure.Restamped Eq ((moments f).accepts f op x)
      ((moments f).accepts f op y) := by
  have read := read_moments_restamped same f
  have places := mapM_read_moments_eq same.asItems f
  cases op with
  | between => exact between_moments_restamped same f
  | oneOf | noneOf =>
    simp only [accepts, places]
    exact .refl _
  | _ =>
    refine read.bind ?_
    rintro m _ rfl
    exact .ok rfl

end Scale

theorem dayAccepts_restamped {x y : Datum} (same : x.Restamped y) (f : Field) :
    Except.Alike Failure.Restamped Eq (dayAccepts (Scale.moments f) x)
      (dayAccepts (Scale.moments f) y) := by
  refine (Scale.read_moments_restamped same f).bind ?_
  rintro m _ rfl
  exact .refl _

theorem dateAccepts_restamped {x y : Datum} (same : x.Restamped y) (f : Field) (op : Operator) :
    Except.Alike Failure.Restamped Eq (dateAccepts f op x) (dateAccepts f op y) := by
  have day := dayAccepts_restamped same f
  by_cases isDay : op = .equals ∨ op = .notEquals
  · rcases isDay with rfl | rfl
    · exact day
    · refine day.bind ?_
      rintro sameDay _ rfl
      exact .ok rfl
  · rw [Field.dateAccepts_eq isDay, Field.dateAccepts_eq isDay]
    exact Scale.accepts_moments_restamped same f op

/-! ## Conditions -/

namespace Condition

variable {c c' : Condition}

theorem Restamped.resolve_eq (same : c.Restamped c') : c.resolve = c'.resolve := by
  cases same with
  | refl => rfl
  | value _ _ same => simp only [resolve, same.isNull_eq]

theorem field_of_resolve {f : Field} {op : Operator} (h : c.resolve = .ok (f, op)) :
    Field.ofName? c.field = some f := by
  simp only [resolve, Field.resolve] at h
  cases named : Field.ofName? c.field with
  | none =>
    rw [named] at h
    cases h
  | some g =>
    rw [named] at h
    dsimp only at h
    repeat' split at h
    all_goals cases h
    rfl

theorem compile_of_resolve {f : Field} {op : Operator} (h : c.resolve = .ok (f, op)) :
    c.compile = (f.accepts op c.value).map fun accepts => ⟨f, accepts⟩ := by
  rw [compile, h]

/-- A condition with a date written in another way stands for the same test. -/
theorem Restamped.compile (same : c.Restamped c') :
    Except.Alike Failure.Restamped Eq c.compile c'.compile := by
  have resolved := same.resolve_eq
  cases same with
  | refl => exact .refl _
  | @value name operator x y combinator f named date same =>
    cases h : resolve ⟨name, operator, x, combinator⟩ with
    | error fault =>
      rw [Condition.compile, Condition.compile, ← resolved, h]
      exact .refl _
    | ok target =>
      obtain ⟨g, op⟩ := target
      obtain rfl : f = g := Option.some.inj (named.symm.trans (field_of_resolve h))
      rw [compile_of_resolve h, compile_of_resolve (resolved.symm.trans h)]
      refine Except.Alike.map (R := Eq) ?_ fun _ _ h => h ▸ rfl
      simp only [Field.accepts, date]
      exact dateAccepts_restamped same f op

/-- A range of dates stands for the same test if its ends are written in another way, and is at
fault alike on a field that holds no dates. -/
theorem compile_between_restamped {start start' finish finish' : Calendar.Timestamp}
    (sameStart : start.SameInstant start') (sameFinish : finish.SameInstant finish')
    (field : String) :
    Except.Alike Failure.Restamped Eq (between field (.time start) (.time finish)).compile
      (between field (.time start') (.time finish')).compile := by
  have first : (Datum.time start).toMoment = (Datum.time start').toMoment := sameStart.moment_eq
  have last : (Datum.time finish).toMoment = (Datum.time finish').toMoment := sameFinish.moment_eq
  have resolved : (between field (.time start) (.time finish)).resolve =
      (between field (.time start') (.time finish')).resolve := rfl
  cases h : (between field (.time start) (.time finish)).resolve with
  | error fault =>
    rw [Condition.compile, Condition.compile, ← resolved, h]
    exact .refl _
  | ok target =>
    obtain ⟨f, op⟩ := target
    obtain ⟨named, rfl, supported⟩ := resolve_between h
    cases kind : f.kind with
    | date =>
      exact (Restamped.value named kind (.dates (.cons first (.cons last .nil)))).compile
    | numeric =>
      rw [compile_of_resolve h, compile_of_resolve (resolved.symm.trans h)]
      simp only [Field.accepts, kind]
      exact .error (.value (.date first) f .number)
    | string | nestedPath | enumeration | json =>
      rw [kind] at supported
      exact absurd supported (by decide)

/-- Conditions with dates written in other ways stand for the same tests, and have the same
faults. -/
theorem compileEach_restamped {cs cs' : List Condition}
    (same : Forall₂ (fun c c' => Except.Alike Failure.Restamped Eq c.compile c'.compile) cs cs') :
    Except.Alike Failure.Restamped
      (fun p p' => p.1 = p'.1 ∧ Forall₂ QueryFault.Restamped p.2 p'.2)
      (compileEach cs) (compileEach cs') := by
  induction same with
  | nil => exact .ok ⟨rfl, .nil⟩
  | @cons c c' _ _ head _ ih =>
    unfold compileEach
    revert head
    generalize c.compile = r
    generalize c'.compile = r'
    intro head
    cases head with
    | ok h =>
      subst h
      refine ih.map ?_
      rintro ⟨tests, faults⟩ ⟨_, faults'⟩ ⟨rfl, sameFaults⟩
      exact ⟨rfl, sameFaults⟩
    | @error e e' h =>
      cases h with
      | refl =>
        cases e with
        | rejected r =>
          refine ih.map ?_
          rintro ⟨tests, faults⟩ ⟨_, faults'⟩ ⟨rfl, sameFaults⟩
          exact ⟨rfl, List.rel_append (List.forall₂_same.2 fun f _ => .refl f) sameFaults⟩
        | _ => exact .error (.refl _)
      | rejected sameFirst =>
        refine ih.map ?_
        rintro ⟨tests, faults⟩ ⟨_, faults'⟩ ⟨rfl, sameFaults⟩
        exact ⟨rfl, List.rel_append sameFirst sameFaults⟩

end Condition

/-- Faults that differ in how they quote dates keep a query from being answered alike. -/
theorem refuse_restamped {fs fs' : List QueryFault} (same : Forall₂ QueryFault.Restamped fs fs') :
    Except.Alike Failure.Restamped Eq (refuse fs) (refuse fs') := by
  cases same with
  | nil => exact .ok rfl
  | cons head rest => exact .error (.rejected (.cons head rest))

/-! ## Predicates -/

namespace Predicate

/-- Whether a predicate takes a document and the same with its timestamps written in another way for
the same. -/
def IgnoresStamps (p : Predicate) : Prop := ∀ d d', d.Restamped d' → p d = p d'

theorem ignoresStamps_holds (t : Test) : IgnoresStamps t.holds := by
  intro d d' same
  rw [Test.holds, Test.holds, same.value_eq]

theorem IgnoresStamps.all {ps : List Predicate} (h : ∀ p ∈ ps, IgnoresStamps p) :
    IgnoresStamps (all ps) := by
  intro d d' same
  induction ps with
  | nil => rfl
  | cons p ps ih =>
    rw [List.forall_mem_cons] at h
    simp only [Predicate.all, h.1 d d' same, ih h.2]

theorem IgnoresStamps.any {ps : List Predicate} (h : ∀ p ∈ ps, IgnoresStamps p) :
    IgnoresStamps (any ps) := by
  intro d d' same
  induction ps with
  | nil => rfl
  | cons p ps ih =>
    rw [List.forall_mem_cons] at h
    simp only [Predicate.any, h.1 d d' same, ih h.2]

theorem IgnoresStamps.combine {ps : List Predicate} (h : ∀ p ∈ ps, IgnoresStamps p)
    (c : Combinator) : IgnoresStamps (combine c ps) := by
  cases ps with
  | nil => exact fun _ _ _ => rfl
  | cons p ps =>
    cases c with
    | all => exact IgnoresStamps.all h
    | any => exact IgnoresStamps.any h
    | notFirst =>
      intro d d' same
      exact congrArg (Except.map (!·)) (h p List.mem_cons_self d d' same)

theorem ignoresStamps_combine (tests : List Test) (c : Combinator) :
    IgnoresStamps (combine c (tests.map Test.holds)) :=
  IgnoresStamps.combine (List.forall_mem_map.2 fun t _ => ignoresStamps_holds t) c

/-- Such a predicate selects the same documents. -/
theorem IgnoresStamps.select {p : Predicate} (h : p.IgnoresStamps) {ds ds' : List Document}
    (same : Forall₂ Document.Restamped ds ds') :
    Except.Alike Eq (Forall₂ Document.Restamped) (p.select ds) (p.select ds') := by
  induction same with
  | nil => exact .ok .nil
  | cons head _ ih =>
    rw [Predicate.select, Predicate.select, h _ _ head]
    refine Except.Alike.bind (R := Eq) (.refl _) ?_
    rintro passed _ rfl
    refine ih.bind fun rest rest' related => ?_
    cases passed with
    | true => exact .ok (.cons head related)
    | false => exact .ok related

end Predicate

end OrderRetrieval
