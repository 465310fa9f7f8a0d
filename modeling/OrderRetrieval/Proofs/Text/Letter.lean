import OrderRetrieval.Text.Case

/-!
# Lower case keeps the letter

A search compares lower-case texts and marks what it finds letter by letter.  The two agree on
single characters: what a character becomes in lower case is a form of the same letter
(`sameLetter_moveBy`).  Only the capital I with a dot, whose lower case is two characters, is left
out.  The reason is that no lower-case form is moved once more, which is read off the table of runs.
So is that some classes of characters, such as controls, have nothing to do with case (`Caseless`).
-/

namespace OrderRetrieval.Text

/-! ## Sets of numbers as bits -/

/-- The number whose bits are the members of a list. -/
def bitsOf : List Nat → Nat
  | [] => 0
  | n :: ns => 1 <<< n ||| bitsOf ns

@[simp] theorem testBit_bitsOf (ns : List Nat) (n : Nat) :
    (bitsOf ns).testBit n = true ↔ n ∈ ns := by
  induction ns with
  | nil => simp [bitsOf]
  | cons m ns ih =>
    rw [bitsOf, Nat.testBit_or, Bool.or_eq_true, ih, Nat.one_shiftLeft, Nat.testBit_two_pow,
      decide_eq_true_eq, List.mem_cons, eq_comm]

/-- Lists without a common bit have no common member. -/
theorem notMem_of_land_eq_zero {xs ys : List Nat} (apart : bitsOf xs &&& bitsOf ys = 0) {n : Nat}
    (hy : n ∈ ys) : n ∉ xs := by
  intro hx
  have both : (bitsOf xs &&& bitsOf ys).testBit n = true := by
    rw [Nat.testBit_and, (testBit_bitsOf xs n).2 hx, (testBit_bitsOf ys n).2 hy, Bool.and_self]
  rw [apart, Nat.zero_testBit] at both
  exact Bool.false_ne_true both

/-! ## What a table of runs moves -/

/-- The code points of a run. -/
def runCodes : Nat × Nat × Nat × Int → List Nat
  | (first, last, step, _) => List.range' first ((last - first) / step + 1) step

/-- Where the characters of a run are moved to. -/
def movedCodes (run : Nat × Nat × Nat × Int) : List Nat :=
  (runCodes run).map fun n : Nat => (Char.ofNat ((n : Int) + run.2.2.2).toNat).toNat

theorem exists_run_of_shiftIn {runs : List (Nat × Nat × Nat × Int)} {n : Nat} {shift : Int}
    (h : shiftIn runs n = some shift) : ∃ run ∈ runs, n ∈ runCodes run ∧ run.2.2.2 = shift := by
  obtain ⟨⟨first, last, step, k⟩, found, rfl⟩ := Option.map_eq_some_iff.1 h
  refine ⟨_, List.mem_of_find?_eq_some found, ?_, rfl⟩
  have inside := List.find?_some found
  simp only [Bool.and_eq_true, decide_eq_true_eq, beq_iff_eq] at inside
  obtain ⟨⟨low, high⟩, onStep⟩ := inside
  -- The place in the run is the distance from its start in steps.
  refine List.mem_range'.2 ⟨(n - first) / step, ?_, ?_⟩
  · exact Nat.lt_succ_of_le (Nat.div_le_div_right (Nat.sub_le_sub_right high first))
  · have whole := Nat.div_add_mod (n - first) step
    omega

/-- The table of lower case with the ASCII capitals. -/
def capitalRuns : List (Nat × Nat × Nat × Int) := (0x41, 0x5A, 1, 32) :: Case.lowerRuns

/-- The code points of the characters that have another lower case. -/
def capitalCodes : List Nat := 0x130 :: capitalRuns.flatMap runCodes

/-- A character is its own lower case, or the table moves it. -/
theorem moveBy_eq_or_mem (c : Char) :
    moveBy Case.lowerRuns c = c ∨
      ∃ run ∈ capitalRuns, c.toNat ∈ runCodes run ∧
        (moveBy Case.lowerRuns c).toNat ∈ movedCodes run := by
  unfold moveBy
  split
  · split
    · next capital =>
      rw [Bool.and_eq_true, decide_eq_true_eq, decide_eq_true_eq] at capital
      have inRun : c.toNat ∈ runCodes (0x41, 0x5A, 1, 32) :=
        List.mem_range'_1.2 ⟨capital.1, Nat.lt_succ_of_le capital.2⟩
      exact .inr ⟨_, List.mem_cons_self, inRun, List.mem_map.2 ⟨c.toNat, inRun, rfl⟩⟩
    · exact .inl rfl
  · split
    · next shift found =>
      obtain ⟨run, mem, inRun, rfl⟩ := exists_run_of_shiftIn found
      exact .inr ⟨run, List.mem_cons_of_mem _ mem, inRun, List.mem_map.2 ⟨c.toNat, inRun, rfl⟩⟩
    · exact .inl rfl

theorem moveBy_of_notMem {c : Char} (h : c.toNat ∉ capitalCodes) :
    moveBy Case.lowerRuns c = c := by
  refine (moveBy_eq_or_mem c).resolve_right ?_
  rintro ⟨run, mem, inRun, -⟩
  exact h (List.mem_cons_of_mem _ (List.mem_flatMap.2 ⟨run, mem, inRun⟩))

/-- No lower-case form has another lower case. -/
theorem movedCodes_apart :
    bitsOf capitalCodes &&& bitsOf (capitalRuns.flatMap movedCodes) = 0 := by
  decide +kernel

theorem moveBy_settled (c : Char) :
    moveBy Case.lowerRuns c = c ∨ (moveBy Case.lowerRuns c).toNat ∉ capitalCodes := by
  refine (moveBy_eq_or_mem c).imp_right ?_
  rintro ⟨run, mem, -, moved⟩
  exact notMem_of_land_eq_zero movedCodes_apart (List.mem_flatMap.2 ⟨run, mem, moved⟩)

theorem moveBy_moveBy (c : Char) :
    moveBy Case.lowerRuns (moveBy Case.lowerRuns c) = moveBy Case.lowerRuns c := by
  rcases moveBy_settled c with fixed | settled
  · rw [fixed, fixed]
  · exact moveBy_of_notMem settled

/-- The lower case of a character is a form of the same letter. -/
theorem sameLetter_moveBy {c : Char} (undotted : c ≠ 'İ') :
    sameLetter (moveBy Case.lowerRuns c) c = true := by
  have small : moveBy Case.lowerRuns c ≠ 'İ' := by
    rcases moveBy_settled c with fixed | settled
    · rwa [fixed]
    · rintro eq
      rw [eq] at settled
      exact settled List.mem_cons_self
  simp only [sameLetter, letter, undotted, small, if_false, moveBy_moveBy, beq_self_eq_true]

/-- In lower case every character but the dotted capital I is one character, a form of the same
letter. -/
theorem exists_lowerChar_eq {c : Char} (undotted : c ≠ 'İ') (afterCased : Bool)
    (following : List Char) :
    ∃ x, lowerChar afterCased c following = [x] ∧ sameLetter x c = true := by
  rw [lowerChar, if_neg undotted]
  split
  · next sigma =>
    subst sigma
    refine ⟨_, rfl, ?_⟩
    split <;> decide
  · exact ⟨_, rfl, sameLetter_moveBy undotted⟩

/-! ## Classes of characters without case -/

/-- A class of characters without case: lower case leads neither into it nor out of it. -/
def Caseless (p : Char → Bool) : Prop :=
  ∀ afterCased c following, (∀ x ∈ lowerChar afterCased c following, p x = false) ↔ p c = false

/-- The code points that lower case leads from or to: the letters with rules of their own and what
the table moves. -/
def caseCodes : List Nat :=
  [0x3A3, 0x3C3, 0x3C2, 0x130, 0x69, 0x307] ++ capitalRuns.flatMap runCodes ++
    capitalRuns.flatMap movedCodes

/-- A class of code points is without case if lower case leads neither from them nor to them. -/
theorem caseless_of_apart {p : Nat → Bool} (apart : ∀ n ∈ caseCodes, p n = false) :
    Caseless fun c => p c.toNat := by
  rw [caseCodes, List.forall_mem_append, List.forall_mem_append] at apart
  obtain ⟨⟨letters, sources⟩, targets⟩ := apart
  simp only [List.forall_mem_cons] at letters
  obtain ⟨capital, small, final, dotted, i, dot, -⟩ := letters
  intro afterCased c following
  unfold lowerChar
  split
  · next sigma =>
    subst sigma
    refine iff_of_true ?_ capital
    rw [List.forall_mem_singleton]
    split
    · exact final
    · exact small
  · split
    · next eq =>
      subst eq
      refine iff_of_true ?_ dotted
      rw [List.forall_mem_cons, List.forall_mem_singleton]
      exact ⟨i, dot⟩
    · rw [List.forall_mem_singleton]
      rcases moveBy_eq_or_mem c with fixed | ⟨run, mem, inRun, moved⟩
      · rw [fixed]
      · exact iff_of_true (targets _ (List.mem_flatMap.2 ⟨run, mem, moved⟩))
          (sources _ (List.mem_flatMap.2 ⟨run, mem, inRun⟩))

/-- A text has none of a class without case exactly if its lower case has none. -/
theorem Caseless.forall_lowerChars_iff {p : Char → Bool} (h : Caseless p) {cs : List Char} :
    (∀ c ∈ lowerChars cs, p c = false) ↔ ∀ c ∈ cs, p c = false := by
  have after (afterCased : Bool) :
      (∀ c ∈ lowerAfter afterCased cs, p c = false) ↔ ∀ c ∈ cs, p c = false := by
    induction cs generalizing afterCased with
    | nil => exact Iff.rfl
    | cons c cs ih => rw [lowerAfter, List.forall_mem_append, List.forall_mem_cons, h, ih]
  exact after false

end OrderRetrieval.Text
