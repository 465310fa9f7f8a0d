import Mathlib.Data.List.Forall2
import OrderRetrieval.Filter.Compile
import OrderRetrieval.Proofs.Document.Regular

/-!
# What filters select

Conditions that compile without faults stand for one test each (`Condition.compileEach_eq_ok`).  On
timed documents tests always answer, so combining them says what the combinator means
(`Predicate.combine_eq_ok`) and selecting documents is filtering them (`Predicate.select_eq_ok`).
-/

namespace OrderRetrieval

open Calendar (Moment)

/-- What a way of combining conditions asks of them; nothing is asked if there are none. -/
def Combinator.Joins {α : Type} (P : α → Prop) : Combinator → List α → Prop
  | all, xs => ∀ x ∈ xs, P x
  | any, xs => xs = [] ∨ ∃ x ∈ xs, P x
  | notFirst, xs => ∀ x ∈ xs.head?, ¬P x

section Congruence

variable {α β : Type} {P : α → Prop} {Q : β → Prop} {xs : List α} {ys : List β}

theorem forall_mem_congr (h : List.Forall₂ (fun x y => P x ↔ Q y) xs ys) :
    (∀ x ∈ xs, P x) ↔ ∀ y ∈ ys, Q y := by
  induction h with
  | nil => exact iff_of_true (List.forall_mem_nil P) (List.forall_mem_nil Q)
  | cons hd _ ih => rw [List.forall_mem_cons, List.forall_mem_cons, hd, ih]

theorem exists_mem_congr (h : List.Forall₂ (fun x y => P x ↔ Q y) xs ys) :
    (∃ x ∈ xs, P x) ↔ ∃ y ∈ ys, Q y := by
  induction h with
  | nil => simp
  | cons hd _ ih => simp [hd, ih]

theorem Combinator.joins_congr (h : List.Forall₂ (fun x y => P x ↔ Q y) xs ys) (k : Combinator) :
    k.Joins P xs ↔ k.Joins Q ys := by
  cases k with
  | all => exact forall_mem_congr h
  | any =>
    refine or_congr ?_ (exists_mem_congr h)
    cases h <;> simp
  | notFirst =>
    cases h with
    | nil => simp [Joins]
    | cons hd _ => simp [Joins, hd]

end Congruence

/-- What a condition says of a document, which it accepts if the answer is yes. -/
def Condition.Answers (c : Condition) (d : Document) (b : Bool) : Prop :=
  ∃ t, c.compile = .ok t ∧ t.holds d = .ok b

/-- Whether a document meets a condition. -/
def Condition.Accepts (c : Condition) (d : Document) : Prop :=
  ∃ t, c.compile = .ok t ∧ t.holds d = .ok true

namespace Condition

theorem accepts_iff {c : Condition} {t : Test} {d : Document} (h : c.compile = .ok t) :
    c.Accepts d ↔ t.holds d = .ok true := by
  constructor
  · rintro ⟨u, hu, accepted⟩
    cases h.symm.trans hu
    exact accepted
  · intro accepted
    exact ⟨t, h, accepted⟩

theorem resolve_of_mem {f : Field} {op : Operator} {value : Datum} {k : Combinator}
    (supported : op ∈ f.kind.operators) (present : value.isNull = false) :
    resolve ⟨f.name, op.name, value, k⟩ = .ok (f, op) := by
  simp [resolve, supported, present]

/-- The condition that compares a field with a value in the way of an operator. -/
def comparing (f : Field) (op : Operator) (value : Datum) (k : Combinator) : Condition :=
  ⟨f.name, op.name, value, k⟩

section Comparing

variable {f : Field} {op : Operator} {value : Datum} {k : Combinator}

/-- With an operator that the field supports only the value may be missing. -/
theorem resolve_comparing (supported : op ∈ f.kind.operators) :
    (comparing f op value k).resolve =
      if !op.valueIsOptional && value.isNull then .error (.missingValue f op.name)
      else .ok (f, op) := by
  simp [resolve, comparing, supported]

theorem compile_comparing (supported : op ∈ f.kind.operators)
    (present : op.valueIsOptional = false → value.isNull = false) :
    (comparing f op value k).compile = (f.accepts op value).map (Test.mk f) := by
  have resolved : (comparing f op value k).resolve = .ok (f, op) := by
    rw [resolve_comparing supported, if_neg]
    simpa using present
  rw [compile, resolved]
  rfl

theorem compile_comparing_missing (supported : op ∈ f.kind.operators)
    (missing : value.isNull = true) (required : op.valueIsOptional = false) :
    (comparing f op value k).compile = .error (.ofFault (.missingValue f op.name)) := by
  rw [compile, resolve_comparing supported, missing, required]
  rfl

theorem exists_compile_comparing (supported : op ∈ f.kind.operators)
    (present : value.isNull = false) :
    (∃ t, (comparing f op value k).compile = .ok t) ↔
      ∃ accepts, f.accepts op value = .ok accepts := by
  rw [compile_comparing supported fun _ => present]
  simp [Except.map_eq_ok]

/-- A condition says of a document what it accepts of the field's value. -/
theorem answers_comparing (supported : op ∈ f.kind.operators) (present : value.isNull = false)
    {d : Document} {b : Bool} :
    (comparing f op value k).Answers d b ↔
      ∃ accepts v, f.accepts op value = .ok accepts ∧ d.value f = .ok v ∧ accepts v = b := by
  rw [Answers, compile_comparing supported fun _ => present]
  simp [Except.map_eq_ok, Test.holds]

end Comparing

/-- Conditions without faults stand for one test each. -/
theorem compileEach_eq_ok {cs : List Condition} {ts : List Test} :
    compileEach cs = .ok (ts, []) ↔ List.Forall₂ (fun c t => c.compile = .ok t) cs ts := by
  induction cs generalizing ts with
  | nil =>
    rw [compileEach, List.forall₂_nil_left_iff]
    simp [eq_comm]
  | cons c cs ih =>
    cases hc : c.compile with
    | ok t =>
      simp only [compileEach, hc, Except.map_eq_ok]
      constructor
      · rintro ⟨⟨us, faults⟩, hus, eq⟩
        cases eq
        exact .cons hc (ih.1 hus)
      · intro h
        obtain ⟨u, us, hu, hus, rfl⟩ := List.forall₂_cons_left_iff.1 h
        rw [hc] at hu
        cases hu
        exact ⟨(us, []), ih.2 hus, rfl⟩
    | error e =>
      refine iff_of_false ?_ ?_
      · intro h
        rw [compileEach, hc] at h
        split at h
        · next eq => cases eq
        · -- A rejection has at least one fault, which would be set aside.
          obtain ⟨⟨us, faults⟩, -, eq⟩ := Except.map_eq_ok.1 h
          cases eq
        · cases h
      · intro h
        obtain ⟨t, us, ht, -, -⟩ := List.forall₂_cons_left_iff.1 h
        rw [hc] at ht
        cases ht

/-- Conditions are compiled in turn, and their faults come in the same order. -/
theorem compileEach_append (cs ds : List Condition) :
    compileEach (cs ++ ds) = (compileEach cs).bind fun (ts, faults) =>
      (compileEach ds).map fun (us, others) => (ts ++ us, faults ++ others) := by
  induction cs with
  | nil =>
    rw [List.nil_append]
    cases compileEach ds <;> rfl
  | cons c cs ih =>
    rw [List.cons_append, compileEach, compileEach]
    split
    · rw [ih]
      cases compileEach cs with
      | error e => rfl
      | ok first => cases compileEach ds <;> rfl
    · rw [ih]
      cases compileEach cs with
      | error e => rfl
      | ok first =>
        cases compileEach ds with
        | error e => rfl
        | ok second => simp [Except.bind, Except.map]
    · rfl

theorem exists_compile_eq_ok {cs : List Condition} {ts : List Test}
    (h : List.Forall₂ (fun c t => c.compile = .ok t) cs ts) : ∀ c ∈ cs, ∃ t, c.compile = .ok t := by
  induction h with
  | nil => exact List.forall_mem_nil _
  | cons hd _ ih => exact List.forall_mem_cons.2 ⟨⟨_, hd⟩, ih⟩

end Condition

theorem Test.holds_eq_ok (t : Test) {d : Document} (h : d.Timed) : ∃ b, t.holds d = .ok b := by
  obtain ⟨v, hv⟩ := h.value t.field
  exact ⟨t.accepts v, by rw [holds, hv]; rfl⟩

namespace Predicate

theorem all_cons (p : Predicate) (ps : List Predicate) (d : Document) :
    all (p :: ps) d = (p d).bind fun passed => if passed then all ps d else .ok false := rfl

/-- Predicates that all have to pass may be grouped. -/
theorem all_append (ps qs : List Predicate) : all (ps ++ qs) = all (all ps :: qs) := by
  funext d
  induction ps with
  | nil => rfl
  | cons p ps ih =>
    rw [List.cons_append, all_cons, ih, all_cons, all_cons, all_cons]
    cases p d with
    | error e => rfl
    | ok passed => cases passed <;> rfl

@[simp] theorem combine_all (ps : List Predicate) : combine .all ps = all ps := by
  cases ps <;> rfl

variable {d : Document}

theorem not_eq_ok {p : Predicate} (h : ∃ b, p d = .ok b) :
    ∃ b, not p d = .ok b ∧ (b = true ↔ ¬p d = .ok true) := by
  obtain ⟨b, hb⟩ := h
  refine ⟨!b, by rw [not, hb]; rfl, ?_⟩
  rw [hb]
  cases b <;> simp

theorem all_eq_ok {ps : List Predicate} (h : ∀ p ∈ ps, ∃ b, p d = .ok b) :
    ∃ b, all ps d = .ok b ∧ (b = true ↔ ∀ p ∈ ps, p d = .ok true) := by
  induction ps with
  | nil => exact ⟨true, rfl, by simp⟩
  | cons p ps ih =>
    rw [List.forall_mem_cons] at h
    obtain ⟨⟨b, hb⟩, hps⟩ := h
    obtain ⟨c, hc, iff⟩ := ih hps
    rw [List.forall_mem_cons, ← iff, hb]
    show ∃ a, (p d >>= fun passed => if passed then all ps d else .ok false) = .ok a ∧ _
    rw [hb]
    cases b with
    | true => exact ⟨c, hc, by simp⟩
    | false => exact ⟨false, rfl, by simp⟩

theorem any_eq_ok {ps : List Predicate} (h : ∀ p ∈ ps, ∃ b, p d = .ok b) :
    ∃ b, any ps d = .ok b ∧ (b = true ↔ ∃ p ∈ ps, p d = .ok true) := by
  induction ps with
  | nil => exact ⟨false, rfl, by simp⟩
  | cons p ps ih =>
    rw [List.forall_mem_cons] at h
    obtain ⟨⟨b, hb⟩, hps⟩ := h
    obtain ⟨c, hc, iff⟩ := ih hps
    rw [List.exists_mem_cons_iff, ← iff, hb]
    show ∃ a, (p d >>= fun passed => if passed then .ok true else any ps d) = .ok a ∧ _
    rw [hb]
    cases b with
    | true => exact ⟨true, rfl, by simp⟩
    | false => exact ⟨c, hc, by simp⟩

/-- Combined predicates ask what the combinator means. -/
theorem combine_eq_ok (k : Combinator) {ps : List Predicate} (h : ∀ p ∈ ps, ∃ b, p d = .ok b) :
    ∃ b, combine k ps d = .ok b ∧ (b = true ↔ k.Joins (fun p => p d = .ok true) ps) := by
  cases ps with
  | nil => cases k <;> exact ⟨true, rfl, by simp [Combinator.Joins]⟩
  | cons p ps =>
    cases k with
    | all => exact all_eq_ok h
    | any =>
      obtain ⟨b, hb, iff⟩ := any_eq_ok h
      exact ⟨b, hb, by simpa [Combinator.Joins] using iff⟩
    | notFirst =>
      obtain ⟨b, hb, iff⟩ := not_eq_ok (h p List.mem_cons_self)
      exact ⟨b, hb, by simpa [Combinator.Joins] using iff⟩

/-- Whether a document passes; one for which there is no answer does not. -/
def passes (p : Predicate) (d : Document) : Bool :=
  match p d with
  | .ok b => b
  | .error _ => false

/-- Where a predicate always answers, selecting is filtering. -/
theorem select_eq_ok {p : Predicate} {ds : List Document} (h : ∀ d ∈ ds, ∃ b, p d = .ok b) :
    p.select ds = .ok (ds.filter p.passes) := by
  induction ds with
  | nil => rfl
  | cons d ds ih =>
    rw [List.forall_mem_cons] at h
    obtain ⟨⟨b, hb⟩, hds⟩ := h
    have passes : p.passes d = b := by rw [Predicate.passes, hb]
    rw [select, hb, ih hds, List.filter_cons, passes]
    cases b <;> rfl

/-- Where selecting succeeds the predicate has answered for every document. -/
theorem exists_of_select_eq_ok {p : Predicate} {ds es : List Document} (h : p.select ds = .ok es) :
    ∀ d ∈ ds, ∃ b, p d = .ok b := by
  induction ds generalizing es with
  | nil => exact List.forall_mem_nil _
  | cons d ds ih =>
    obtain ⟨b, hb, h⟩ := Except.bind_eq_ok.1 h
    obtain ⟨rest, hrest, -⟩ := Except.bind_eq_ok.1 h
    exact List.forall_mem_cons.2 ⟨⟨b, hb⟩, ih hrest⟩

end Predicate

/-- The tests of some conditions ask of a timed document what the conditions do. -/
theorem Condition.combine_tests {cs : List Condition} {ts : List Test} (k : Combinator)
    (h : compileEach cs = .ok (ts, [])) {d : Document} (timed : d.Timed) :
    ∃ b, Predicate.combine k (ts.map Test.holds) d = .ok b ∧
      (b = true ↔ k.Joins (fun c => c.Accepts d) cs) := by
  have answers : ∀ p ∈ ts.map Test.holds, ∃ b, p d = .ok b := by
    intro p hp
    obtain ⟨t, -, rfl⟩ := List.mem_map.1 hp
    exact t.holds_eq_ok timed
  obtain ⟨b, hb, iff⟩ := Predicate.combine_eq_ok k answers
  refine ⟨b, hb, iff.trans (k.joins_congr ?_).symm⟩
  rw [List.forall₂_map_right_iff]
  refine (compileEach_eq_ok.1 h).imp ?_
  intro c t compiled
  exact accepts_iff compiled

/-! ## Ranges -/

/-- Whether a document has a date in a range. -/
def DateRange.Covers (r : DateRange) (d : Document) : Prop :=
  ∃ f first last m, Field.ofName? r.field = some f ∧ r.start.utc? = some first ∧
    r.finish.utc? = some last ∧ d.value f = .ok (.moment m) ∧
    first.micros ≤ m.micros ∧ m.micros ≤ last.micros

/-- Whether a document has a number in a range.  A date is in it if it lies between the moments that
the bounds stand for as counts of seconds. -/
def NumberRange.Covers (r : NumberRange) (d : Document) : Prop :=
  ∃ f, Field.ofName? r.field = some f ∧
    ((f.kind = .numeric ∧ ∃ x, d.value f = .ok (.amount x) ∧ Double.le r.least x = true ∧
        Double.le x r.greatest = true) ∨
      (f.kind = .date ∧ ∃ first last m, (Datum.float r.least).toMoment = .ok first ∧
        (Datum.float r.greatest).toMoment = .ok last ∧ d.value f = .ok (.moment m) ∧
        first.micros ≤ m.micros ∧ m.micros ≤ last.micros))

theorem Scale.accepts_between {α : Type} {s : Scale α} {f : Field} {low high : Datum}
    {g : Value → Bool} :
    s.accepts f .between (.arr [low, high]) = .ok g ↔
      ∃ a b, s.read low = .ok a ∧ s.read high = .ok b ∧
        (s.placed fun x => s.le a x && s.le x b) = g := by
  simp only [Scale.accepts, Except.bind_eq_ok, Except.ok.injEq]
  constructor
  · rintro ⟨a, ha, b, hb, hg⟩
    exact ⟨a, b, ha, hb, hg⟩
  · rintro ⟨a, b, ha, hb, hg⟩
    exact ⟨a, ha, b, hb, hg⟩

namespace Condition

variable {field : String} {low high : Datum} {t : Test}

theorem resolve_between {f : Field} {op : Operator}
    (h : (between field low high).resolve = .ok (f, op)) :
    Field.ofName? field = some f ∧ op = .between ∧ .between ∈ f.kind.operators := by
  simp only [resolve, between, Field.resolve, Operator.ofName?_name] at h
  cases hf : Field.ofName? field with
  | none =>
    rw [hf] at h
    cases h
  | some g =>
    rw [hf] at h
    by_cases supported : Operator.between ∈ g.kind.operators
    · simp only [supported, not_true_eq_false, if_false] at h
      cases h
      exact ⟨rfl, rfl, supported⟩
    · simp only [supported, not_false_eq_true, if_true] at h
      cases h

/-- A condition that a field lies between two bounds is about numbers or about dates. -/
theorem compile_between (h : (between field low high).compile = .ok t) :
    Field.ofName? field = some t.field ∧
      ((t.field.kind = .numeric ∧
          (Scale.numbers t.field).accepts t.field .between (.arr [low, high]) = .ok t.accepts) ∨
        (t.field.kind = .date ∧
          (Scale.moments t.field).accepts t.field .between (.arr [low, high]) =
            .ok t.accepts)) := by
  unfold compile at h
  cases hr : (between field low high).resolve with
  | error fault =>
    rw [hr] at h
    cases h
  | ok target =>
    obtain ⟨f, op⟩ := target
    obtain ⟨hf, rfl, supported⟩ := resolve_between hr
    rw [hr] at h
    obtain ⟨accepts, haccepts, rfl⟩ := Except.map_eq_ok.1 h
    refine ⟨hf, ?_⟩
    unfold Field.accepts at haccepts
    cases hk : f.kind with
    | numeric =>
      rw [hk] at haccepts
      exact .inl ⟨rfl, haccepts⟩
    | date =>
      rw [hk] at haccepts
      exact .inr ⟨rfl, haccepts⟩
    | string | nestedPath | enumeration | json =>
      rw [hk] at supported
      exact absurd supported (by decide)

end Condition

theorem Test.holds_eq_ok_true {t : Test} {d : Document} :
    t.holds d = .ok true ↔ ∃ v, d.value t.field = .ok v ∧ t.accepts v = true :=
  Except.map_eq_ok

theorem Scale.placed_numbers {f : Field} {p : Float → Bool} {v : Value} :
    (Scale.numbers f).placed p v = true ↔ ∃ x, v = .amount x ∧ p x = true := by
  cases v <;> simp [placed, numbers]

theorem Scale.placed_moments {f : Field} {p : Moment → Bool} {v : Value} :
    (Scale.moments f).placed p v = true ↔ ∃ m, v = .moment m ∧ p m = true := by
  cases v <;> simp [placed, moments]

theorem Scale.read_moments {f : Field} {x : Datum} {m : Moment}
    (h : (Scale.moments f).read x = .ok m) : x.toMoment = .ok m := by
  simp only [moments] at h
  split at h
  · cases h
  · exact h

/-- What lies between two moments. -/
theorem Scale.moments_between {f : Field} {low high : Datum} {g : Value → Bool}
    (h : (Scale.moments f).accepts f .between (.arr [low, high]) = .ok g) :
    ∃ first last, low.toMoment = .ok first ∧ high.toMoment = .ok last ∧
      ∀ v, g v = true ↔ ∃ m, v = .moment m ∧ first.micros ≤ m.micros ∧ m.micros ≤ last.micros := by
  obtain ⟨first, last, hfirst, hlast, rfl⟩ := accepts_between.1 h
  refine ⟨first, last, read_moments hfirst, read_moments hlast, fun v => ?_⟩
  rw [placed_moments]
  simp [moments]

theorem Calendar.Timestamp.moment_eq_ok {t : Calendar.Timestamp} {m : Moment} :
    t.moment = .ok m ↔ t.utc? = some m := by
  unfold moment
  cases t.utc? <;> simp

/-- A range of dates means what its condition does. -/
theorem DateRange.accepts_iff {r : DateRange} {d : Document}
    (h : ∃ t, (Condition.between r.field (.time r.start) (.time r.finish)).compile = .ok t) :
    (Condition.between r.field (.time r.start) (.time r.finish)).Accepts d ↔ r.Covers d := by
  obtain ⟨t, h⟩ := h
  rw [Condition.accepts_iff h]
  obtain ⟨hf, ⟨-, numbers⟩ | ⟨-, moments⟩⟩ := Condition.compile_between h
  · obtain ⟨_, _, unread, -, -⟩ := Scale.accepts_between.1 numbers
    cases unread
  · obtain ⟨first, last, hfirst, hlast, iff⟩ := Scale.moments_between moments
    rw [Test.holds_eq_ok_true]
    constructor
    · rintro ⟨v, hv, accepted⟩
      obtain ⟨m, rfl, after, before⟩ := (iff v).1 accepted
      exact ⟨t.field, first, last, m, hf, Calendar.Timestamp.moment_eq_ok.1 hfirst,
        Calendar.Timestamp.moment_eq_ok.1 hlast, hv, after, before⟩
    · rintro ⟨f, a, b, m, hf', ha, hb, hv, after, before⟩
      obtain rfl : t.field = f := Option.some.inj (hf.symm.trans hf')
      rw [Calendar.Timestamp.moment_eq_ok.1 hfirst] at ha
      rw [Calendar.Timestamp.moment_eq_ok.1 hlast] at hb
      cases ha
      cases hb
      exact ⟨.moment m, hv, (iff _).2 ⟨m, rfl, after, before⟩⟩

/-- What lies between two numbers. -/
theorem Scale.numbers_between {f : Field} {x y : Float} {g : Value → Bool}
    (h : (Scale.numbers f).accepts f .between (.arr [.float x, .float y]) = .ok g) (v : Value) :
    g v = true ↔ ∃ z, v = .amount z ∧ Double.le x z = true ∧ Double.le z y = true := by
  obtain ⟨low, high, hlow, hhigh, rfl⟩ := accepts_between.1 h
  cases hlow
  cases hhigh
  rw [placed_numbers]
  simp [numbers]

/-- A range of numbers means what its condition does. -/
theorem NumberRange.accepts_iff {r : NumberRange} {d : Document}
    (h : ∃ t, (Condition.between r.field (.float r.least) (.float r.greatest)).compile = .ok t) :
    (Condition.between r.field (.float r.least) (.float r.greatest)).Accepts d ↔ r.Covers d := by
  obtain ⟨t, h⟩ := h
  rw [Condition.accepts_iff h, Test.holds_eq_ok_true]
  obtain ⟨hf, ⟨kind, numbers⟩ | ⟨kind, moments⟩⟩ := Condition.compile_between h
  · have iff := Scale.numbers_between numbers
    constructor
    · rintro ⟨v, hv, accepted⟩
      obtain ⟨x, rfl, least, greatest⟩ := (iff v).1 accepted
      exact ⟨t.field, hf, .inl ⟨kind, x, hv, least, greatest⟩⟩
    · rintro ⟨f, hf', cases⟩
      obtain rfl : t.field = f := Option.some.inj (hf.symm.trans hf')
      rcases cases with ⟨-, x, hv, least, greatest⟩ | ⟨date, -⟩
      · exact ⟨.amount x, hv, (iff _).2 ⟨x, rfl, least, greatest⟩⟩
      · rw [kind] at date
        cases date
  · obtain ⟨first, last, hfirst, hlast, iff⟩ := Scale.moments_between moments
    constructor
    · rintro ⟨v, hv, accepted⟩
      obtain ⟨m, rfl, after, before⟩ := (iff v).1 accepted
      exact ⟨t.field, hf, .inr ⟨kind, first, last, m, hfirst, hlast, hv, after, before⟩⟩
    · rintro ⟨f, hf', cases⟩
      obtain rfl : t.field = f := Option.some.inj (hf.symm.trans hf')
      rcases cases with ⟨numeric, -⟩ | ⟨-, a, b, m, ha, hb, hv, after, before⟩
      · rw [kind] at numeric
        cases numeric
      · cases hfirst.symm.trans ha
        cases hlast.symm.trans hb
        exact ⟨.moment m, hv, (iff _).2 ⟨m, rfl, after, before⟩⟩

end OrderRetrieval
