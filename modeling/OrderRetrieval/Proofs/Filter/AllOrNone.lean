import OrderRetrieval.Proofs.Filter.Select
import OrderRetrieval.Proofs.Filter.Verdict

/-!
# Compiling all conditions or none

Conditions that are not rejected compile together to a predicate that is passed by what all of them
accept (`Condition.conjoins_of_compiles`).  If some are rejected nothing is compiled, and what is
reported are the faults of all of them in their order (`Condition.compileAll_of_reported`).
-/

namespace OrderRetrieval

open List (Forall₂)

namespace Condition

/-- The conditions that do not compile. -/
def invalid (cs : List Condition) : List Condition := cs.filter fun c => !c.compile.isOk

/-- Whether two conditions ask the same, whatever they say of how they are combined with others. -/
def AsksSame (c c' : Condition) : Prop := ∃ k, c' = { c with combinator := k }

/-- Whether a predicate says of documents what some conditions say together: it is passed by what
all of them accept, whatever their order and however often they stand there, and less is with one
more. -/
structure Conjoins (cs : List Condition) (p : Predicate) : Prop where
  answers : ∀ d : Document, d.Timed → ∃ b, p d = .ok b ∧ (b = true ↔ ∀ c ∈ cs, c.Accepts d)
  rearranged : ∀ cs', (∀ c, c ∈ cs' ↔ c ∈ cs) →
    ∃ p', compileAll cs' = .ok p' ∧ ∀ d : Document, d.Timed → p' d = p d
  narrowed : ∀ c, (∃ t, c.compile = .ok t) →
    ∃ p', compileAll (cs ++ [c]) = .ok p' ∧
      ∀ d : Document, d.Timed → p' d = .ok true → p d = .ok true

variable {cs cs' : List Condition} {ts : List Test} {faults : List QueryFault}

/-! ## Conditions that compile -/

theorem compileAll_eq_ok (h : compileEach cs = .ok (ts, [])) :
    compileAll cs = .ok (Predicate.combine .all (ts.map Test.holds)) := by
  rw [compileAll, h]
  rfl

/-- Conditions that compile one by one compile together. -/
theorem exists_compileEach (h : ∀ c ∈ cs, ∃ t, c.compile = .ok t) :
    ∃ ts, compileEach cs = .ok (ts, []) := by
  induction cs with
  | nil => exact ⟨[], rfl⟩
  | cons c cs ih =>
    rw [List.forall_mem_cons] at h
    obtain ⟨⟨t, ht⟩, rest⟩ := h
    obtain ⟨ts, hts⟩ := ih rest
    exact ⟨t :: ts, by rw [compileEach, ht, hts]; rfl⟩

/-- Together they are passed by what all of them accept. -/
theorem exists_compileAll (h : ∀ c ∈ cs, ∃ t, c.compile = .ok t) :
    ∃ p, compileAll cs = .ok p ∧ ∀ d : Document, d.Timed →
      ∃ b, p d = .ok b ∧ (b = true ↔ ∀ c ∈ cs, c.Accepts d) := by
  obtain ⟨ts, compiled⟩ := exists_compileEach h
  exact ⟨_, compileAll_eq_ok compiled, fun d timed => combine_tests .all compiled timed⟩

theorem conjoins_of_compiles (h : ∀ c ∈ cs, ∃ t, c.compile = .ok t) :
    ∃ p, compileAll cs = .ok p ∧ Conjoins cs p := by
  obtain ⟨p, compiled, answers⟩ := exists_compileAll h
  refine ⟨p, compiled, answers, fun cs' same => ?_, fun c compiles => ?_⟩
  · obtain ⟨p', compiled', answers'⟩ := exists_compileAll fun c mem => h c ((same c).1 mem)
    refine ⟨p', compiled', fun d timed => ?_⟩
    obtain ⟨b, hb, iff⟩ := answers d timed
    obtain ⟨b', hb', iff'⟩ := answers' d timed
    have agree : b' = b := by
      rw [Bool.eq_iff_iff, iff, iff']
      exact forall_congr' fun c => imp_congr_left (same c)
    rw [hb, hb', agree]
  · obtain ⟨p', compiled', answers'⟩ := exists_compileAll
      (List.forall_mem_append.2 ⟨h, List.forall_mem_singleton.2 compiles⟩)
    refine ⟨p', compiled', fun d timed passed => ?_⟩
    obtain ⟨b, hb, iff⟩ := answers d timed
    obtain ⟨b', hb', iff'⟩ := answers' d timed
    cases passed.symm.trans hb'
    rw [hb, iff.2 (List.forall_mem_append.1 (iff'.1 rfl)).1]

/-! ## Conditions that are rejected -/

/-- The faults are those of the conditions that do not compile, in their order. -/
theorem Reported.invalid (h : Reported cs faults) :
    Forall₂ (fun c fault => c.compile = .error (.ofFault fault)) (invalid cs) faults := by
  induction h with
  | nil => exact .nil
  | compiled compiles _ ih =>
    rw [Condition.invalid, List.filter_cons_of_neg (by simp [compiles, Except.isOk, Except.toBool])]
    exact ih
  | refused refuses _ ih =>
    rw [Condition.invalid, List.filter_cons_of_pos (by simp [refuses, Except.isOk, Except.toBool])]
    exact .cons refuses ih

theorem compileAll_of_reported (h : Reported cs faults) {r : Rejection}
    (some : Rejection.ofFaults? faults = some r) : compileAll cs = .error (.rejected r) := by
  obtain ⟨ts, each⟩ := exists_compileEach_iff.2 h
  rw [compileAll, each]
  show (refuse faults >>= fun _ => _) = _
  rw [refuse, some]
  rfl

/-- A condition that is rejected is reported as one fault. -/
theorem exists_reported_of_rejected
    (rejects : ∀ c ∈ cs, ∀ e, c.compile = .error e → ∃ r, e = .rejected r) :
    ∃ faults, Reported cs faults := by
  refine exists_reported fun c mem => ?_
  rw [← settles_compile]
  intro e refused
  obtain ⟨r, rfl⟩ := rejects c mem e refused
  rcases c.compile_overflows _ refused with report | overflow | overflow
  · exact report
  · cases overflow
  · cases overflow

/-! ## How conditions say they are combined -/

theorem compileEach_eq_of_asksSame (h : Forall₂ AsksSame cs cs') :
    compileEach cs' = compileEach cs := by
  induction h with
  | nil => rfl
  | cons head _ ih =>
    obtain ⟨k, rfl⟩ := head
    rw [compileEach, compileEach, ih]
    rfl

theorem exists_compile_of_invalid_eq_nil (h : invalid cs = []) :
    ∀ c ∈ cs, ∃ t, c.compile = .ok t := by
  intro c mem
  have compiles := List.filter_eq_nil_iff.1 h c mem
  exact Except.exists_eq_ok (by simpa using compiles)

/-- **All or none.**  Suppose that conditions fail to compile only by being rejected.  Together they
compile exactly if validating them finds no fault.  A single condition that does not compile is
reported as it is alone, and several are reported with the messages of all of them in their order.
If all compile they stand together for what each of them says (`Conjoins`).  What the conditions say
of how they are combined changes nothing. -/
theorem all_or_none (rejects : ∀ c ∈ cs, ∀ e, c.compile = .error e → ∃ r, e = .rejected r) :
    (∃ faults, validate cs = .ok faults ∧
        Forall₂ (fun c fault => c.compile = .error (.ofFault fault)) (invalid cs) faults ∧
        ((∃ e, compileAll cs = .error e) ↔ faults ≠ [])) ∧
      (∀ c, invalid cs = [c] → ∃ e, c.compile = .error e ∧ compileAll cs = .error e) ∧
      (2 ≤ (invalid cs).length → ∃ r, compileAll cs = .error (.rejected r) ∧
        Forall₂ (fun c text => ∃ e, c.compile = .error e ∧ e.message = text) (invalid cs)
          r.errors) ∧
      (invalid cs = [] → ∃ p, compileAll cs = .ok p ∧ Conjoins cs p) ∧
      ∀ cs', Forall₂ AsksSame cs cs' →
        validate cs' = validate cs ∧ compileAll cs' = compileAll cs := by
  obtain ⟨faults, reported⟩ := exists_reported_of_rejected rejects
  have each := reported.invalid
  have conjoins (none : invalid cs = []) : ∃ p, compileAll cs = .ok p ∧ Conjoins cs p :=
    conjoins_of_compiles (exists_compile_of_invalid_eq_nil none)
  refine ⟨⟨faults, validate_eq_ok_iff.2 reported, each, ?_⟩, fun c one => ?_, fun several => ?_,
    conjoins, fun cs' same => ?_⟩
  · cases faults with
    | nil =>
      obtain ⟨p, compiled, -⟩ := conjoins (List.forall₂_nil_right_iff.1 each)
      simp [compiled]
    | cons fault faults =>
      exact iff_of_true ⟨_, compileAll_of_reported reported rfl⟩ (List.cons_ne_nil _ _)
  · rw [one] at each
    obtain ⟨fault, rest, refused, none, rfl⟩ := List.forall₂_cons_left_iff.1 each
    cases List.forall₂_nil_left_iff.1 none
    exact ⟨_, refused, compileAll_of_reported reported rfl⟩
  · have messages : Forall₂ (fun c text => ∃ e, c.compile = .error e ∧ e.message = text)
        (invalid cs) (faults.map QueryFault.message) :=
      List.forall₂_map_right_iff.2 (each.imp fun c fault refused => ⟨_, refused, rfl⟩)
    cases faults with
    | nil => simp [List.forall₂_nil_right_iff.1 each] at several
    | cons fault faults => exact ⟨_, compileAll_of_reported reported rfl, messages⟩
  · have compiled := compileEach_eq_of_asksSame same
    exact ⟨by rw [validate, compiled, validate], by rw [compileAll, compiled, compileAll]⟩

end Condition

namespace Muddled

/-- A condition on a field that orders do not have. -/
def colour : Condition := ⟨"colour", "equals", .str "red", .all⟩

/-- A condition that compiles. -/
def paid : Condition := ⟨"status", "equals", .str "paid", .notFirst⟩

/-- A condition that compares an amount with a text that is no number. -/
def much : Condition := ⟨"totalAmount", "greater_than", .str "much", .any⟩

theorem compile_colour :
    colour.compile = .error (.ofFault (.unsupportedField "colour")) := rfl

theorem compile_much :
    much.compile = .error (.ofFault (.invalidValue .totalAmount (.str "much") .number)) := rfl

theorem rejects :
    ∀ c ∈ [colour, paid, much], ∀ e, c.compile = .error e → ∃ r, e = .rejected r := by
  simp only [List.forall_mem_cons]
  refine ⟨fun e refused => ?_, fun e refused => ?_, fun e refused => ?_, List.forall_mem_nil _⟩
  · cases compile_colour.symm.trans refused
    exact ⟨_, rfl⟩
  · cases refused
  · cases compile_much.symm.trans refused
    exact ⟨_, rfl⟩

end Muddled

namespace Condition

open Muddled

/-- Both conditions that do not compile are reported, and the one between them is not. -/
theorem all_or_none_muddled :
    (∀ c ∈ [colour, paid, much], ∀ e, c.compile = .error e → ∃ r, e = .rejected r) ∧
      invalid [colour, paid, much] = [colour, much] ∧
      ∃ r, compileAll [colour, paid, much] = .error (.rejected r) ∧
        r.errors = ["Unsupported field: colour",
          "Invalid value 'much' for field 'totalAmount': expected a number"] := by
  have two : invalid [colour, paid, much] = [colour, much] := rfl
  obtain ⟨-, -, several, -, -⟩ := all_or_none rejects
  obtain ⟨r, failed, messages⟩ := several (by rw [two]; decide)
  rw [two] at messages
  obtain ⟨_, _, ⟨e, unsupported, rfl⟩, rest, errors⟩ := List.forall₂_cons_left_iff.1 messages
  obtain ⟨_, _, ⟨e', invalidValue, rfl⟩, none, rfl⟩ := List.forall₂_cons_left_iff.1 rest
  cases List.forall₂_nil_left_iff.1 none
  cases compile_colour.symm.trans unsupported
  cases compile_much.symm.trans invalidValue
  exact ⟨rejects, two, r, failed, errors.trans (by decide +kernel)⟩

end Condition

end OrderRetrieval
