import OrderRetrieval.Proofs.Filter.Select
import OrderRetrieval.Proofs.Filter.Verdict

/-!
# Operators that say what others say

A range asks for both its bounds (`Field.accepts_between`) and a list of values for any of them
(`Field.accepts_oneOf`), whether taking these for numbers or dates succeeds or fails.  Of the three
ways in which an amount may compare with a number exactly one holds (`Double.comparison`).
-/

namespace OrderRetrieval

/-! ## Ranges -/

namespace Scale

variable {α : Type} (s : Scale α) {op : Operator}

/-- How an operator asks a place on a scale to stand to its target. -/
def relation? : Operator → Option (α → α → Bool)
  | .equals => some s.eq
  | .greaterThan => some fun a target => s.lt target a
  | .lessThan => some s.lt
  | .greaterThanOrEqual => some fun a target => s.le target a
  | .lessThanOrEqual => some s.le
  | _ => none

theorem accepts_of_relation {r : α → α → Bool} (relation : s.relation? op = some r) (f : Field)
    (x : Datum) :
    s.accepts f op x = (s.read x).map fun target => s.placed fun a => r a target := by
  cases op <;> cases relation <;> simp only [accepts] <;> cases s.read x <;> rfl

theorem placed_and (p q : α → Bool) (v : Value) :
    s.placed (fun a => p a && q a) v = (s.placed p v && s.placed q v) := by
  unfold placed
  cases s.place? v <;> rfl

/-- A list of places is met where one of them is. -/
theorem amongPlaces_eq (targets : List α) (v : Value) :
    s.amongPlaces targets v = targets.any fun target => s.placed (fun a => s.eq a target) v := by
  unfold amongPlaces placed
  cases s.place? v <;> simp

end Scale

namespace Field

variable {f : Field}

/-- Numbers and dates are compared on a scale, but that dates are equal by days. -/
theorem exists_scale (ordered : f.kind = .numeric ∨ f.kind = .date) :
    ∃ (α : Type) (s : Scale α), ∀ op x, ¬(op = .equals ∨ op = .notEquals) →
      f.accepts op x = s.accepts f op x := by
  rcases ordered with kind | kind
  · exact ⟨_, .numbers f, fun op x _ => by rw [accepts, kind]⟩
  · refine ⟨_, .moments f, fun op x other => ?_⟩
    simp only [accepts, kind]
    exact dateAccepts_eq other

/-- A range accepts what both its bounds accept, and fails as they do. -/
theorem accepts_between (ordered : f.kind = .numeric ∨ f.kind = .date) (low high : Datum) :
    f.accepts .between (.arr [low, high]) = (do
      let above ← f.accepts .greaterThanOrEqual low
      let below ← f.accepts .lessThanOrEqual high
      .ok fun v => above v && below v) := by
  obtain ⟨α, s, scaled⟩ := exists_scale ordered
  have least : s.accepts f .greaterThanOrEqual low =
      (s.read low).map fun target => s.placed fun a => s.le target a :=
    s.accepts_of_relation rfl f low
  have greatest : s.accepts f .lessThanOrEqual high =
      (s.read high).map fun target => s.placed fun a => s.le a target :=
    s.accepts_of_relation rfl f high
  rw [scaled _ _ (by decide), scaled _ _ (by decide), scaled _ _ (by decide), least, greatest,
    Scale.accepts]
  cases s.read low with
  | error e => rfl
  | ok lowest =>
    cases s.read high with
    | error e => rfl
    | ok highest => exact congrArg Except.ok (funext (s.placed_and _ _))

/-! ## Lists of values -/

/-- Only the items of a list of values count. -/
theorem accepts_oneOf_congr {x y : Datum} (same : x.asItems = y.asItems) (f : Field) :
    f.accepts .oneOf x = f.accepts .oneOf y := by
  cases kind : f.kind <;>
    simp only [accepts, kind, textAccepts, dateAccepts, Scale.accepts, same]

/-- A list of values accepts what one of them accepts, and fails as the first of them that does. -/
theorem accepts_oneOf (kind : f.kind ≠ .date) (xs : List Datum) :
    f.accepts .oneOf (.arr xs) =
      (xs.mapM (f.accepts .equals)).map fun each v => each.any fun accepts => accepts v := by
  cases hk : f.kind with
  | date => exact absurd hk kind
  | numeric =>
    have one (x : Datum) : f.accepts .equals x = ((Scale.numbers f).read x).map fun target =>
        (Scale.numbers f).placed fun a => (Scale.numbers f).eq a target := by
      rw [accepts, hk]
      exact Scale.accepts_of_relation _ rfl f x
    rw [accepts, hk, funext one, Except.mapM_map]
    simp only [Scale.accepts, Datum.asItems]
    cases xs.mapM (Scale.numbers f).read with
    | error e => rfl
    | ok targets =>
      refine congrArg Except.ok (funext fun v => ?_)
      simp only [Scale.amongPlaces_eq, List.any_map, Function.comp_def]
  | string | nestedPath | enumeration | json =>
    have one (x : Datum) : f.accepts .equals x = .ok fun v => v.equals x := by
      rw [accepts, hk]
      rfl
    rw [accepts, hk, Except.mapM_eq_ok fun x _ => one x]
    refine congrArg Except.ok (funext fun v => ?_)
    simp only [List.any_map]
    rfl

end Field

/-! ## Numbers -/

namespace Double

variable {x y : Float}

/-- Of two numbers one is less than the other or they are equal, and one is at most the other if the
other is not less. -/
theorem comparison (hx : isNotANumber x = false) (hy : isNotANumber y = false) :
    [lt x y, eq x y, lt y x].count true = 1 ∧ le x y = !lt y x ∧ le y x = !lt x y := by
  obtain ⟨i, hi⟩ := exists_rank hx
  obtain ⟨j, hj⟩ := exists_rank hy
  simp only [lt, eq, le, compares_of_rank _ hi hj, compares_of_rank _ hj hi]
  rcases Int.lt_trichotomy i j with less | rfl | greater
  · simp [less, Int.lt_asymm less, Int.ne_of_lt less, Int.le_of_lt less, Int.not_le.2 less]
  · simp
  · simp [greater, Int.lt_asymm greater, Int.ne_of_gt greater, Int.le_of_lt greater,
      Int.not_le.2 greater]

end Double

/-! ## Conditions -/

/-- Whether a condition says what two others say together. -/
structure Condition.IsBoth (c c₁ c₂ : Condition) : Prop where
  compiles : (∃ t, c.compile = .ok t) ↔ (∃ t, c₁.compile = .ok t) ∧ ∃ t, c₂.compile = .ok t
  answers : ∀ d a b, c₁.Answers d a → c₂.Answers d b → c.Answers d (a && b)
  accepts : ∀ d, c.Accepts d ↔ c₁.Accepts d ∧ c₂.Accepts d

/-- Whether a condition says of every document whether one of several others accepts it. -/
structure Condition.IsAnyOf (c : Condition) (cs : List Condition) : Prop where
  compiles : (∃ t, c.compile = .ok t) ↔ ∀ e ∈ cs, ∃ t, e.compile = .ok t
  answers : (∃ t, c.compile = .ok t) → ∀ d, ∃ b, c.Answers d b ∧ (b = true ↔ ∃ e ∈ cs, e.Accepts d)

namespace Condition

variable {f : Field}

theorem isBoth_between (ordered : f.kind = .numeric ∨ f.kind = .date) {low high : Datum}
    (lowPresent : low.isNull = false) (highPresent : high.isNull = false) (k : Combinator) :
    (comparing f .between (.arr [low, high]) k).IsBoth (comparing f .greaterThanOrEqual low k)
      (comparing f .lessThanOrEqual high k) := by
  have supported : ∀ op ∈ [Operator.between, .greaterThanOrEqual, .lessThanOrEqual],
      op ∈ f.kind.operators := by
    rcases ordered with kind | kind <;> rw [kind] <;> decide
  simp only [List.forall_mem_cons, List.not_mem_nil, false_imp_iff, implies_true, and_true]
    at supported
  obtain ⟨between, above, below⟩ := supported
  have answers : ∀ d a b, (comparing f .greaterThanOrEqual low k).Answers d a →
      (comparing f .lessThanOrEqual high k).Answers d b →
      (comparing f .between (.arr [low, high]) k).Answers d (a && b) := by
    intro d a b
    rw [answers_comparing above lowPresent, answers_comparing below highPresent,
      answers_comparing between rfl, Field.accepts_between ordered]
    rintro ⟨g, v, least, shown, rfl⟩ ⟨h, w, greatest, same, rfl⟩
    cases shown.symm.trans same
    exact ⟨_, v, by rw [least, greatest]; rfl, shown, rfl⟩
  refine ⟨?_, answers, fun d => ⟨?_, fun h => answers d true true h.1 h.2⟩⟩
  · rw [exists_compile_comparing between rfl, exists_compile_comparing above lowPresent,
      exists_compile_comparing below highPresent, Field.accepts_between ordered]
    simp [Except.bind_eq_ok]
  · show Answers _ d true → Answers _ d true ∧ Answers _ d true
    rw [answers_comparing above lowPresent, answers_comparing below highPresent,
      answers_comparing between rfl, Field.accepts_between ordered]
    rintro ⟨both, v, accepts, shown, accepted⟩
    obtain ⟨g, least, rest⟩ := Except.bind_eq_ok.1 accepts
    obtain ⟨h, greatest, eq⟩ := Except.bind_eq_ok.1 rest
    cases eq
    rw [Bool.and_eq_true] at accepted
    exact ⟨⟨g, v, least, shown, accepted.1⟩, ⟨h, v, greatest, shown, accepted.2⟩⟩

theorem isAnyOf_oneOf (undated : f.kind ≠ .date) (supported : .oneOf ∈ f.kind.operators)
    {xs : List Datum} (present : ∀ x ∈ xs, x.isNull = false) (k : Combinator) :
    (comparing f .oneOf (.arr xs) k).IsAnyOf (xs.map fun x => comparing f .equals x k) := by
  have equals : .equals ∈ f.kind.operators := by
    revert supported
    cases f.kind <;> decide
  have compiles : (∃ t, (comparing f .oneOf (.arr xs) k).compile = .ok t) ↔
      ∃ each, xs.mapM (f.accepts .equals) = .ok each := by
    rw [exists_compile_comparing supported rfl, Field.accepts_oneOf undated]
    simp [Except.map_eq_ok]
  refine ⟨?_, fun compiled d => ?_⟩
  · rw [compiles, List.forall_mem_map]
    constructor
    · rintro ⟨each, accepts⟩ x mem
      rw [exists_compile_comparing equals (present x mem)]
      exact Except.exists_of_mapM_eq_ok accepts x mem
    · intro one
      refine Except.exists_mapM_eq_ok fun x mem => ?_
      rw [← exists_compile_comparing equals (present x mem)]
      exact one x mem
  · obtain ⟨each, accepts⟩ := compiles.1 compiled
    obtain ⟨v, shown⟩ := d.exists_value_eq_ok undated
    refine ⟨each.any fun g => g v, ?_, ?_⟩
    · rw [answers_comparing supported rfl, Field.accepts_oneOf undated, accepts]
      exact ⟨_, v, rfl, shown, rfl⟩
    · have both := (List.forall₂_and_left xs each).2 ⟨present, Except.mapM_eq_ok_iff.1 accepts⟩
      simp only [List.any_eq_true, List.mem_map, exists_exists_and_eq_and]
      refine (exists_mem_congr (both.imp ?_)).symm
      rintro x g ⟨present, reads⟩
      exact (answers_comparing equals present).trans (by simp [reads, shown])

/-- A comparison with a number says how the amount stands to it. -/
theorem answers_amount {op : Operator} {r : Float → Float → Bool}
    (relation : (Scale.numbers .totalAmount).relation? op = some r) {x : Datum} {y : Float}
    (reads : x.toDouble = .ok y) (d : Document) (k : Combinator) :
    (comparing .totalAmount op x k).Answers d (r d.totalAmount y) := by
  have supported : op ∈ Field.totalAmount.kind.operators := by
    cases op <;> cases relation <;> decide
  have present : x.isNull = false := by
    cases x with
    | null => cases reads
    | _ => rfl
  have target : (Scale.numbers .totalAmount).read x = .ok y := by simp only [Scale.numbers, reads]
  have accepts : Field.totalAmount.accepts op x = _ :=
    Scale.accepts_of_relation _ relation .totalAmount x
  rw [target] at accepts
  exact (answers_comparing supported present).2 ⟨_, .amount d.totalAmount, accepts, rfl, rfl⟩

/-- A value that is no list is a list of itself. -/
theorem compile_oneOf_scalar (supported : .oneOf ∈ f.kind.operators) {x : Datum}
    (present : x.isNull = false) (scalar : ∀ xs, x ≠ .arr xs) (k : Combinator) :
    (comparing f .oneOf x k).compile = (comparing f .oneOf (.arr [x]) k).compile := by
  have same : x.asItems = (Datum.arr [x]).asItems := by
    cases x with
    | arr xs => exact absurd rfl (scalar xs)
    | _ => rfl
  rw [compile_comparing supported fun _ => present, compile_comparing supported fun _ => rfl,
    Field.accepts_oneOf_congr same]

/-- The empty list accepts nothing. -/
theorem answers_oneOf_nil (undated : f.kind ≠ .date) (supported : .oneOf ∈ f.kind.operators)
    (d : Document) (k : Combinator) : (comparing f .oneOf (.arr []) k).Answers d false := by
  have empty := isAnyOf_oneOf undated supported (List.forall_mem_nil _) k
  obtain ⟨b, answers, some⟩ := empty.answers (empty.compiles.2 (List.forall_mem_nil _)) d
  cases b with
  | false => exact answers
  | true => simp at some

/-- The comparisons of an amount with a number follow from which of the two is less. -/
theorem answers_amounts {x : Datum} {y : Float} {d : Document} (reads : x.toDouble = .ok y)
    (number : Double.isNotANumber y = false)
    (amount : Double.isNotANumber d.totalAmount = false) (k : Combinator) :
    ∃ less same greater, (comparing .totalAmount .lessThan x k).Answers d less ∧
      (comparing .totalAmount .equals x k).Answers d same ∧
      (comparing .totalAmount .greaterThan x k).Answers d greater ∧
      [less, same, greater].count true = 1 ∧
      (comparing .totalAmount .lessThanOrEqual x k).Answers d (!greater) ∧
      (comparing .totalAmount .greaterThanOrEqual x k).Answers d (!less) := by
  obtain ⟨one, atMost, atLeast⟩ := Double.comparison amount number
  refine ⟨Double.lt d.totalAmount y, Double.eq d.totalAmount y, Double.lt y d.totalAmount,
    answers_amount (r := Double.lt) rfl reads d k, answers_amount (r := Double.eq) rfl reads d k,
    answers_amount (r := fun a target => Double.lt target a) rfl reads d k, one, ?_, ?_⟩
  · rw [← atMost]
    exact answers_amount (r := Double.le) rfl reads d k
  · rw [← atLeast]
    exact answers_amount (r := fun a target => Double.le target a) rfl reads d k

/-- **Derived operators.**  In a field of numbers or dates a range compiles if its bounds do and
accepts what both accept.  In a field of texts or numbers a list compiles if every value in it does
and accepts what one of them equals, so the empty list accepts nothing; a value that is no list
counts as a list of itself.  An amount is less than a number, equal to it or greater, and exactly
one of the three; it is at most the number if it is not greater, and at least the number if it is
not less. -/
theorem operators_reduce (k : Combinator) :
    (∀ f : Field, f.kind = .numeric ∨ f.kind = .date → ∀ low high : Datum, low.isNull = false →
        high.isNull = false → (comparing f .between (.arr [low, high]) k).IsBoth
          (comparing f .greaterThanOrEqual low k) (comparing f .lessThanOrEqual high k)) ∧
      (∀ f : Field, f.kind ∈ [.string, .nestedPath, .enumeration, .numeric] →
        (∀ xs : List Datum, (∀ x ∈ xs, x.isNull = false) →
          (comparing f .oneOf (.arr xs) k).IsAnyOf (xs.map fun x => comparing f .equals x k)) ∧
        (∀ x : Datum, x.isNull = false → (∀ xs, x ≠ .arr xs) →
          (comparing f .oneOf x k).compile = (comparing f .oneOf (.arr [x]) k).compile) ∧
        ∀ d, (comparing f .oneOf (.arr []) k).Answers d false) ∧
      ∀ (x : Datum) (y : Float) (d : Document), x.toDouble = .ok y →
        Double.isNotANumber y = false → Double.isNotANumber d.totalAmount = false →
          ∃ less same greater, (comparing .totalAmount .lessThan x k).Answers d less ∧
            (comparing .totalAmount .equals x k).Answers d same ∧
            (comparing .totalAmount .greaterThan x k).Answers d greater ∧
            [less, same, greater].count true = 1 ∧
            (comparing .totalAmount .lessThanOrEqual x k).Answers d (!greater) ∧
            (comparing .totalAmount .greaterThanOrEqual x k).Answers d (!less) := by
  refine ⟨fun f ordered low high lowPresent highPresent =>
    isBoth_between ordered lowPresent highPresent k, fun f kind => ?_,
    fun x y d reads number amount => answers_amounts reads number amount k⟩
  have undated : f.kind ≠ .date := by
    rintro date
    rw [date] at kind
    exact absurd kind (by decide)
  have supported : .oneOf ∈ f.kind.operators := by
    revert kind
    cases f.kind <;> decide
  exact ⟨fun xs present => isAnyOf_oneOf undated supported present k,
    fun x present scalar => compile_oneOf_scalar supported present scalar k,
    fun d => answers_oneOf_nil undated supported d k⟩

end Condition

/-- An order of fifteen that is paid. -/
def paidOrder : Document := { (default : Document) with totalAmount := 15, status := some "paid" }

namespace Condition

/-- The order lies between ten and twenty, its status is listed, and it is not at most what the
truth value counts as. -/
theorem operators_reduce_paid :
    Field.totalAmount.kind = .numeric ∧ (Datum.float 10).isNull = false ∧
      (Datum.float 20).isNull = false ∧
      Field.status.kind ∈ [.string, .nestedPath, .enumeration, .numeric] ∧
      (∀ x ∈ [Datum.int 5, .str "paid"], x.isNull = false) ∧
      (Datum.bool true).toDouble = .ok 1 ∧ Double.isNotANumber 1 = false ∧
      Double.isNotANumber paidOrder.totalAmount = false ∧
      (comparing .totalAmount .between (.arr [.float 10, .float 20]) .all).Accepts paidOrder ∧
      (comparing .status .oneOf (.arr [.int 5, .str "paid"]) .all).Accepts paidOrder ∧
      (comparing .totalAmount .lessThanOrEqual (.bool true) .all).Answers paidOrder false := by
  have texts : Field.status.kind ∈ [.string, .nestedPath, .enumeration, .numeric] := by decide
  have present : ∀ x ∈ [Datum.int 5, .str "paid"], x.isNull = false := by simp [Datum.isNull]
  have one : Double.isNotANumber 1 = false := by decide +kernel
  have amount : Double.isNotANumber paidOrder.totalAmount = false := by decide +kernel
  obtain ⟨ranges, lists, numbers⟩ := operators_reduce .all
  have above : (comparing .totalAmount .greaterThanOrEqual (.float 10) .all).Accepts paidOrder :=
    ⟨_, rfl, congrArg Except.ok (by decide +kernel : Double.le 10 15 = true)⟩
  have below : (comparing .totalAmount .lessThanOrEqual (.float 20) .all).Accepts paidOrder :=
    ⟨_, rfl, congrArg Except.ok (by decide +kernel : Double.le 15 20 = true)⟩
  have between := ranges .totalAmount (.inl rfl) (.float 10) (.float 20) rfl rfl
  have paid : (comparing .status .equals (.str "paid") .all).Accepts paidOrder := ⟨_, rfl, rfl⟩
  obtain ⟨b, listed, found⟩ := ((lists .status texts).1 _ present).answers ⟨_, rfl⟩ paidOrder
  obtain rfl : b = true := found.2 ⟨_, by simp, paid⟩
  obtain ⟨less, same, greater, -, -, ⟨t, compiles, holds⟩, -, atMost, -⟩ :=
    numbers (.bool true) 1 paidOrder rfl one amount
  have more : t.holds paidOrder = .ok true := by
    cases compiles
    exact congrArg Except.ok (by decide +kernel : Double.lt 1 15 = true)
  cases holds.symm.trans more
  exact ⟨rfl, rfl, rfl, texts, present, rfl, one, amount, (between.accepts _).2 ⟨above, below⟩,
    listed, atMost⟩

end Condition

end OrderRetrieval
