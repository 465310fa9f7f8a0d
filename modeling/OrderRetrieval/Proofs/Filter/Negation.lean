import OrderRetrieval.Proofs.Filter.Select

/-!
# Operators and their negations

Four operators have one that asks the opposite (`Operator.negated?`), which every field supports
that supports them.  What the one accepts of a value the other does not, whatever the kind of the
field (`Field.accepts_negated`).  So the test of the one is that of the other negated, and if one of
the two conditions is at fault, so is the other in the same way (`Condition.negation_complements`).
-/

namespace OrderRetrieval

/-- The operator that asks the opposite, where there is one. -/
def Operator.negated? : Operator → Option Operator
  | equals => some notEquals
  | contains => some notContains
  | oneOf => some noneOf
  | isNull => some isNotNull
  | _ => none

/-- Two failures that are the same, but that a missing value is reported for the operator that
misses it. -/
inductive Failure.SameButOperator : Failure → Failure → Prop
  | refl (e : Failure) : SameButOperator e e
  | missing (f : Field) (op op' : String) :
    SameButOperator (.ofFault (.missingValue f op)) (.ofFault (.missingValue f op'))

instance : Std.Refl Failure.SameButOperator := ⟨.refl⟩

section Negated

variable {op neg : Operator}

/-- A field supports both operators or none. -/
theorem Operator.mem_operators_of_negated (negated : op.negated? = some neg) {kind : FieldKind}
    (supported : op ∈ kind.operators) : neg ∈ kind.operators := by
  cases op <;> cases negated <;> cases kind <;> revert supported <;> decide

theorem Operator.valueIsOptional_of_negated (negated : op.negated? = some neg) :
    neg.valueIsOptional = op.valueIsOptional := by
  cases op <;> cases negated <;> rfl

/-- Of the operators on numbers and dates only these have a negation. -/
theorem Operator.negated_of_ordered (negated : op.negated? = some neg)
    (supported : op ∈ FieldKind.numeric.operators) :
    op = equals ∧ neg = notEquals ∨ op = oneOf ∧ neg = noneOf := by
  cases op <;> cases negated <;> revert supported <;> decide

/-! ## What the two accept -/

theorem textAccepts_negated (negated : op.negated? = some neg) (x : Datum) :
    textAccepts neg x = fun v => !textAccepts op x v := by
  cases op <;> cases negated <;> rfl

theorem Scale.accepts_notEquals {α : Type} (s : Scale α) (f : Field) (x : Datum) :
    s.accepts f .notEquals x = (s.accepts f .equals x).map fun accepts v => !accepts v := by
  simp only [accepts]
  cases s.read x <;> rfl

theorem Scale.accepts_noneOf {α : Type} (s : Scale α) (f : Field) (x : Datum) :
    s.accepts f .noneOf x = (s.accepts f .oneOf x).map fun accepts v => !accepts v := by
  simp only [accepts]
  cases x.asItems.mapM s.read <;> rfl

theorem dateAccepts_notEquals (f : Field) (x : Datum) :
    dateAccepts f .notEquals x = (dateAccepts f .equals x).map fun accepts v => !accepts v := by
  simp only [dateAccepts]
  cases dayAccepts (Scale.moments f) x <;> rfl

/-- What an operator accepts its negation does not. -/
theorem Field.accepts_negated {f : Field} (negated : op.negated? = some neg)
    (supported : op ∈ f.kind.operators) (x : Datum) :
    f.accepts neg x = (f.accepts op x).map fun accepts v => !accepts v := by
  unfold accepts
  cases kind : f.kind with
  | string | nestedPath | enumeration | json =>
    exact congrArg Except.ok (textAccepts_negated negated x)
  | numeric =>
    rw [kind] at supported
    rcases Operator.negated_of_ordered negated supported with ⟨rfl, rfl⟩ | ⟨rfl, rfl⟩
    · exact Scale.accepts_notEquals _ f x
    · exact Scale.accepts_noneOf _ f x
  | date =>
    rw [kind] at supported
    rcases Operator.negated_of_ordered negated supported with ⟨rfl, rfl⟩ | ⟨rfl, rfl⟩
    · exact dateAccepts_notEquals f x
    · exact Scale.accepts_noneOf _ f x

end Negated

/-! ## Conditions -/

namespace Condition

variable {f : Field} {op neg : Operator} {x : Datum} {k k' : Combinator}

/-- The negation of a condition stands for the negated test. -/
theorem compile_negated (negated : op.negated? = some neg) (supported : op ∈ f.kind.operators)
    (present : op.valueIsOptional = false → x.isNull = false) :
    (comparing f neg x k').compile = (comparing f op x k).compile.map Test.negate := by
  rw [compile_comparing supported present, compile_comparing
    (Operator.mem_operators_of_negated negated supported)
    (by rwa [Operator.valueIsOptional_of_negated negated]), Field.accepts_negated negated supported]
  cases f.accepts op x <;> rfl

/-- **Negated operators are exact complements.**  A field that supports an operator supports its
negation.  With the same value both conditions fail in the same way, or both compile and on every
timed document one of them answers yes and the other no. -/
theorem negation_complements (negated : op.negated? = some neg)
    (supported : op ∈ f.kind.operators) (x : Datum) (k k' : Combinator) :
    neg ∈ f.kind.operators ∧
      Except.Alike Failure.SameButOperator
        (fun t t' => ∀ d : Document, d.Timed → ∃ b, t.holds d = .ok b ∧ t'.holds d = .ok !b)
        (comparing f op x k).compile (comparing f neg x k').compile := by
  have supported' : neg ∈ f.kind.operators := Operator.mem_operators_of_negated negated supported
  have optional := Operator.valueIsOptional_of_negated negated
  refine ⟨supported', ?_⟩
  by_cases missing : x.isNull = true ∧ op.valueIsOptional = false
  · rw [compile_comparing_missing supported missing.1 missing.2,
      compile_comparing_missing supported' missing.1 (optional.trans missing.2)]
    exact .error (.missing f op.name neg.name)
  · have present : op.valueIsOptional = false → x.isNull = false := by
      intro required
      by_contra null
      exact missing ⟨by simpa using null, required⟩
    rw [compile_negated (k := k) negated supported present]
    cases (comparing f op x k).compile with
    | error e => exact .error (.refl e)
    | ok t =>
      refine .ok fun d timed => ?_
      obtain ⟨b, hb⟩ := t.holds_eq_ok timed
      exact ⟨b, hb, by rw [Test.holds_negate, hb]; rfl⟩

/-- An order without a date was not changed on the leap day. -/
theorem negation_complements_undated :
    Operator.equals.negated? = some .notEquals ∧ .equals ∈ Field.updatedAt.kind.operators ∧
      (default : Document).Timed ∧
      (comparing .updatedAt .equals (.str "2024-02-29") .all).Answers default false ∧
      (comparing .updatedAt .notEquals (.str "2024-02-29") .all).Answers default true := by
  have negated : Operator.equals.negated? = some .notEquals := rfl
  have supported : .equals ∈ Field.updatedAt.kind.operators := by decide
  have timed : (default : Document).Timed := ⟨by rintro _ ⟨⟩, by rintro _ ⟨⟩⟩
  obtain ⟨-, alike⟩ := negation_complements negated supported (.str "2024-02-29") .all .all
  have asked : (comparing .updatedAt .equals (.str "2024-02-29") .all).Answers default false :=
    ⟨_, rfl, rfl⟩
  refine ⟨negated, supported, timed, asked, ?_⟩
  obtain ⟨t, compiles, no⟩ := asked
  rw [compiles] at alike
  generalize opposite : (comparing .updatedAt .notEquals (.str "2024-02-29") .all).compile = r
    at alike
  cases alike with
  | @ok t t' answers =>
    obtain ⟨b, hb, hb'⟩ := answers default timed
    cases no.symm.trans hb
    exact ⟨t', opposite, hb'⟩

end Condition

end OrderRetrieval
