import Mathlib.Data.List.Forall2
import OrderRetrieval.Reply

/-!
# Outcomes of computations that may fail

When a chain of computations succeeds and what a list of computations that all succeed gives, in
which ways they may fail instead, and when two computations end alike.
-/

namespace OrderRetrieval

namespace Except

variable {ε ε' α β : Type}

/-- A chain succeeds if both its parts do. -/
theorem bind_eq_ok {x : Except ε α} {f : α → Except ε β} {b : β} :
    x >>= f = .ok b ↔ ∃ a, x = .ok a ∧ f a = .ok b := by
  cases x <;> simp [bind, Except.bind]

theorem map_eq_ok {x : Except ε α} {f : α → β} {b : β} :
    x.map f = .ok b ↔ ∃ a, x = .ok a ∧ f a = b := by
  cases x <;> simp [Except.map]

theorem mapError_eq_ok {x : Except ε α} {f : ε → ε'} {a : α} :
    x.mapError f = .ok a ↔ x = .ok a := by
  cases x <;> simp [Except.mapError]

theorem exists_eq_ok {x : Except ε α} (h : x.isOk = true) : ∃ a, x = .ok a := by
  cases x with
  | ok a => exact ⟨a, rfl⟩
  | error e => cases h

theorem not_exists_eq_ok {x : Except ε α} (h : x.isOk = false) : ¬∃ a, x = .ok a := by
  rintro ⟨a, rfl⟩
  cases h

/-- Computations that all succeed give the list of their values. -/
theorem mapM_eq_ok {f : α → Except ε β} {g : α → β} {xs : List α}
    (h : ∀ x ∈ xs, f x = .ok (g x)) : xs.mapM f = .ok (xs.map g) := by
  induction xs with
  | nil => rfl
  | cons x xs ih =>
    have hx : f x = .ok (g x) := h x List.mem_cons_self
    have hxs : xs.mapM f = .ok (xs.map g) := ih fun y hy => h y (List.mem_cons_of_mem x hy)
    rw [List.mapM_cons, hx, hxs]
    rfl

/-- What follows each of some computations may follow all of them. -/
theorem mapM_map {γ : Type} (f : α → Except ε β) (g : β → γ) (xs : List α) :
    xs.mapM (fun x => (f x).map g) = (xs.mapM f).map (List.map g) := by
  induction xs with
  | nil => rfl
  | cons x xs ih =>
    rw [List.mapM_cons, List.mapM_cons, ih]
    cases f x with
    | error e => rfl
    | ok y => cases xs.mapM f <;> rfl

/-- Computations that all succeed succeed together. -/
theorem exists_mapM_eq_ok {f : α → Except ε β} {xs : List α} (h : ∀ x ∈ xs, ∃ y, f x = .ok y) :
    ∃ ys, xs.mapM f = .ok ys := by
  induction xs with
  | nil => exact ⟨[], rfl⟩
  | cons x xs ih =>
    obtain ⟨y, hy⟩ := h x List.mem_cons_self
    obtain ⟨ys, hys⟩ := ih fun z hz => h z (List.mem_cons_of_mem x hz)
    exact ⟨y :: ys, by rw [List.mapM_cons, hy, hys]; rfl⟩

/-- Computations succeed together with the values with which they succeed one by one. -/
theorem mapM_eq_ok_iff {f : α → Except ε β} {xs : List α} {ys : List β} :
    xs.mapM f = .ok ys ↔ List.Forall₂ (fun x y => f x = .ok y) xs ys := by
  induction xs generalizing ys with
  | nil =>
    rw [List.forall₂_nil_left_iff, List.mapM_nil]
    exact (Except.ok.injEq _ _).to_iff.trans eq_comm
  | cons x xs ih =>
    rw [List.mapM_cons, bind_eq_ok, List.forall₂_cons_left_iff]
    simp only [bind_eq_ok, ih]
    constructor
    · rintro ⟨y, hy, zs, hzs, eq⟩
      exact ⟨y, zs, hy, hzs, (Except.ok.inj eq).symm⟩
    · rintro ⟨y, zs, hy, hzs, rfl⟩
      exact ⟨y, hy, zs, hzs, rfl⟩

theorem mapM_concat (f : α → Except ε β) (xs : List α) (x : α) :
    (xs ++ [x]).mapM f = xs.mapM f >>= fun ys => (f x).map fun y => ys ++ [y] := by
  rw [List.mapM_append, List.mapM_cons, List.mapM_nil]
  cases xs.mapM f with
  | error e => rfl
  | ok ys => cases f x <;> rfl

/-- Where computations succeed together each of them does. -/
theorem exists_of_mapM_eq_ok {f : α → Except ε β} {xs : List α} {ys : List β}
    (h : xs.mapM f = .ok ys) : ∀ x ∈ xs, ∃ y, f x = .ok y := by
  have each := mapM_eq_ok_iff.1 h
  clear h
  induction each with
  | nil => exact List.forall_mem_nil _
  | cons head _ ih => exact List.forall_mem_cons.2 ⟨⟨_, head⟩, ih⟩

/-- Computations succeed together exactly if each of them does. -/
theorem exists_mapM_eq_ok_iff {f : α → Except ε β} {xs : List α} :
    (∃ ys, xs.mapM f = .ok ys) ↔ ∀ x ∈ xs, ∃ y, f x = .ok y :=
  ⟨fun ⟨_, h⟩ => exists_of_mapM_eq_ok h, exists_mapM_eq_ok⟩

theorem exists_map_eq_ok_iff {x : Except ε α} {f : α → β} :
    (∃ b, x.map f = .ok b) ↔ ∃ a, x = .ok a := by
  cases x with
  | error e => exact iff_of_false nofun nofun
  | ok a => exact iff_of_true ⟨_, rfl⟩ ⟨_, rfl⟩

/-- Computations that end the same one by one end the same together. -/
theorem mapM_congr {α' : Type} {R : α → α' → Prop} {f : α → Except ε β} {g : α' → Except ε β}
    {xs : List α} {ys : List α'} (related : List.Forall₂ R xs ys)
    (agree : ∀ x y, R x y → f x = g y) : xs.mapM f = ys.mapM g := by
  induction related with
  | nil => rfl
  | cons head _ ih => rw [List.mapM_cons, List.mapM_cons, agree _ _ head, ih]

/-- Whether every failure that a computation may end in has a property. -/
def FailsOnly (Q : ε → Prop) (x : Except ε α) : Prop := ∀ e, x = .error e → Q e

section FailsOnly

variable {Q : ε → Prop}

@[simp] theorem failsOnly_ok (a : α) : FailsOnly Q (.ok a : Except ε α) := by
  rintro e ⟨⟩

@[simp] theorem failsOnly_error {e : ε} : FailsOnly Q (.error e : Except ε α) ↔ Q e := by
  constructor
  · intro h
    exact h e rfl
  · rintro h _ ⟨⟩
    exact h

@[simp] theorem failsOnly_map {x : Except ε α} {f : α → β} :
    FailsOnly Q (x.map f) ↔ FailsOnly Q x := by
  cases x with
  | ok a => exact iff_of_true (failsOnly_ok (f a)) (failsOnly_ok a)
  | error e => exact failsOnly_error.trans failsOnly_error.symm

/-- A chain fails as its first part does, or as its second part does after it. -/
theorem failsOnly_bind {x : Except ε α} {f : α → Except ε β} :
    FailsOnly Q (x >>= f) ↔ FailsOnly Q x ∧ ∀ a, x = .ok a → FailsOnly Q (f a) := by
  cases x with
  | ok a => simp [bind, Except.bind]
  | error e => simp [bind, Except.bind]

/-- A chain whose second part never fails fails as its first part does. -/
theorem failsOnly_bind_ok {x : Except ε α} {f : α → β} :
    FailsOnly Q (x >>= fun a => .ok (f a)) ↔ FailsOnly Q x := by
  simp [failsOnly_bind]

/-- Computations one after the other fail as the first of them that fails. -/
theorem failsOnly_mapM {f : α → Except ε β} {xs : List α} :
    FailsOnly Q (xs.mapM f) ↔ ∀ before x after, xs = before ++ x :: after →
      (∀ y ∈ before, ∃ b, f y = .ok b) → FailsOnly Q (f x) := by
  induction xs with
  | nil => simp [pure, Except.pure]
  | cons z zs ih =>
    have step : FailsOnly Q ((z :: zs).mapM f) ↔
        FailsOnly Q (f z) ∧ ∀ b, f z = .ok b → FailsOnly Q (zs.mapM f) := by
      rw [List.mapM_cons, failsOnly_bind]
      exact and_congr_right fun _ => forall₂_congr fun b _ => failsOnly_bind_ok
    rw [step, ih]
    constructor
    · rintro ⟨first, rest⟩ before x after eq succeed
      cases before with
      | nil =>
        cases eq
        exact first
      | cons y before =>
        cases eq
        obtain ⟨b, hb⟩ := succeed z List.mem_cons_self
        exact rest b hb before x after rfl fun w hw => succeed w (List.mem_cons_of_mem z hw)
    · intro h
      refine ⟨h [] z zs rfl (List.forall_mem_nil _), ?_⟩
      rintro b hb before x after rfl succeed
      refine h (z :: before) x after rfl ?_
      rw [List.forall_mem_cons]
      exact ⟨⟨b, hb⟩, succeed⟩

theorem failsOnly_mapM_of_forall {f : α → Except ε β} {xs : List α}
    (h : ∀ x ∈ xs, FailsOnly Q (f x)) : FailsOnly Q (xs.mapM f) := by
  rw [failsOnly_mapM]
  rintro before x after rfl -
  exact h x (by simp)

theorem failsOnly_foldlM {f : β → α → Except ε β} (h : ∀ b x, FailsOnly Q (f b x)) (b : β)
    (xs : List α) : FailsOnly Q (xs.foldlM f b) := by
  induction xs generalizing b with
  | nil => exact failsOnly_ok b
  | cons x xs ih =>
    rw [List.foldlM_cons]
    exact failsOnly_bind.2 ⟨h b x, fun c _ => ih c⟩

end FailsOnly

/-! ### Computations that fail in one way only -/

section OneFailure

variable {γ : Type} {e : ε}

/-- Where there is one way to fail, two rounds of computations end like one. -/
theorem mapM_bind_mapM {f : α → Except ε β} {g : β → Except ε γ}
    (first : ∀ x, FailsOnly (· = e) (f x)) (second : ∀ y, FailsOnly (· = e) (g y)) (xs : List α) :
    (xs.mapM f >>= fun ys => ys.mapM g) = xs.mapM fun x => f x >>= g := by
  induction xs with
  | nil => rfl
  | cons x xs ih =>
    rw [List.mapM_cons, List.mapM_cons, ← ih]
    cases f x with
    | error _ => rfl
    | ok y =>
      cases hxs : xs.mapM f with
      | ok ys => exact (List.mapM_cons : (y :: ys).mapM g = _)
      | error e₁ =>
        -- the first round never comes to `g y`, which may fail too
        obtain rfl : e₁ = e := failsOnly_mapM_of_forall (fun x _ => first x) e₁ hxs
        cases hy : g y with
        | ok z => simp only [hy, bind, Except.bind]
        | error e₂ =>
          obtain rfl : e₂ = e₁ := second y e₂ hy
          simp only [hy, bind, Except.bind]

/-- Where there is one way to fail, items may be taken into several accumulators together, or into
one accumulator after the other. -/
theorem foldlM_mapM {f : β → α → Except ε β} (sole : ∀ b x, FailsOnly (· = e) (f b x))
    (xs : List α) (bs : List β) :
    xs.foldlM (fun bs x => bs.mapM fun b => f b x) bs = bs.mapM fun b => xs.foldlM f b := by
  induction xs generalizing bs with
  | nil => simp [pure, Except.pure, mapM_eq_ok (g := id)]
  | cons x xs ih =>
    have rest : ∀ b, FailsOnly (· = e) (xs.foldlM f b) := fun b => failsOnly_foldlM sole b xs
    simp only [List.foldlM_cons, ih]
    exact mapM_bind_mapM (fun b => sole b x) rest bs

end OneFailure

/-- Whether a computation ends in a value that has one property or in a failure that has another. -/
def Ends (Q : ε → Prop) (P : α → Prop) : Except ε α → Prop
  | .ok a => P a
  | .error e => Q e

section Ends

variable {Q : ε → Prop} {P P' : α → Prop} {R : β → Prop} {x : Except ε α}

@[simp] theorem ends_ok {a : α} : Ends Q P (.ok a) ↔ P a := .rfl

@[simp] theorem ends_error {e : ε} : Ends Q P (.error e) ↔ Q e := .rfl

theorem Ends.mono (h : Ends Q P x) (le : ∀ a, P a → P' a) : Ends Q P' x := by
  cases x with
  | ok a => exact le a h
  | error e => exact h

/-- A chain ends as its second part does after every value of the first. -/
theorem Ends.bind {f : α → Except ε β} (h : Ends Q P x) (next : ∀ a, P a → Ends Q R (f a)) :
    Ends Q R (x >>= f) := by
  cases x with
  | ok a => exact next a h
  | error e => exact h

theorem Ends.failsOnly (h : Ends Q P x) : FailsOnly Q x := by
  rintro e rfl
  exact h

theorem FailsOnly.ends (h : FailsOnly Q x) : Ends Q (fun _ => True) x := by
  cases x with
  | ok a => trivial
  | error e => exact h e rfl

/-- A computation that may fail in no way succeeds. -/
theorem failsOnly_false_iff : FailsOnly (fun _ => False) x ↔ ∃ a, x = .ok a := by
  cases x with
  | ok a => exact iff_of_true (failsOnly_ok a) ⟨a, rfl⟩
  | error e => simp

end Ends

/-- Two computations both fail, with failures that are related in one way, or both succeed, with
values that are related in another. -/
inductive Alike (Q : ε → ε' → Prop) (R : α → β → Prop) : Except ε α → Except ε' β → Prop
  | error {e : ε} {e' : ε'} (h : Q e e') : Alike Q R (.error e) (.error e')
  | ok {a : α} {b : β} (h : R a b) : Alike Q R (.ok a) (.ok b)

section Alike

variable {α' β' : Type} {Q : ε → ε' → Prop} {R : α → α' → Prop} {S : β → β' → Prop}
  {x : Except ε α} {y : Except ε' α'}

theorem Alike.imp {Q' : ε → ε' → Prop} {R' : α → α' → Prop} (h : Alike Q R x y)
    (fails : ∀ e e', Q e e' → Q' e e') (values : ∀ a a', R a a' → R' a a') : Alike Q' R' x y := by
  cases h with
  | error h => exact .error (fails _ _ h)
  | ok h => exact .ok (values _ _ h)

theorem Alike.bind {f : α → Except ε β} {g : α' → Except ε' β'} (h : Alike Q R x y)
    (next : ∀ a a', R a a' → Alike Q S (f a) (g a')) : Alike Q S (x >>= f) (y >>= g) := by
  cases h with
  | error h => exact .error h
  | ok h => exact next _ _ h

theorem Alike.map {f : α → β} {g : α' → β'} (h : Alike Q R x y)
    (maps : ∀ a a', R a a' → S (f a) (g a')) : Alike Q S (x.map f) (y.map g) := by
  cases h with
  | error h => exact .error h
  | ok h => exact .ok (maps _ _ h)

/-- A computation ends like itself. -/
theorem Alike.refl {Q : ε → ε → Prop} {R : α → α → Prop} [Std.Refl Q] [Std.Refl R]
    (x : Except ε α) : Alike Q R x x := by
  cases x with
  | ok a => exact .ok (Std.Refl.refl a)
  | error e => exact .error (Std.Refl.refl e)

end Alike

end Except

namespace Reply

variable {σ α β : Type} {r : Reply σ α}

theorem result_bind_of_ok {a : α} (h : r.result = .ok a) (f : α → σ → Reply σ β) :
    (r.bind f).result = (f a r.state).result := by
  rw [Reply.bind, h]
  rfl

theorem state_bind_of_ok {a : α} (h : r.result = .ok a) (f : α → σ → Reply σ β) :
    (r.bind f).state = (f a r.state).state := by
  rw [Reply.bind, h]
  rfl

/-- A chain of operations answers if both its parts do. -/
theorem result_bind_eq_ok {f : α → σ → Reply σ β} {b : β} :
    (r.bind f).result = .ok b ↔ ∃ a, r.result = .ok a ∧ (f a r.state).result = .ok b := by
  constructor
  · intro h
    cases hr : r.result with
    | ok a => exact ⟨a, rfl, (result_bind_of_ok hr f).symm.trans h⟩
    | error e =>
      rw [Reply.bind, hr] at h
      cases h
  · rintro ⟨a, ha, h⟩
    exact (result_bind_of_ok ha f).trans h

/-- Chains of operations end alike if their parts do. -/
theorem alike_bind {τ α' β' : Type} {Q : Failure → Failure → Prop} {R : α → α' → Prop}
    {S : β → β' → Prop} {r' : Reply τ α'} {f : α → σ → Reply σ β} {g : α' → τ → Reply τ β'}
    (h : Except.Alike Q R r.result r'.result)
    (next : ∀ a a', R a a' → Except.Alike Q S (f a r.state).result (g a' r'.state).result) :
    Except.Alike Q S (r.bind f).result (r'.bind g).result := by
  unfold Reply.bind
  revert h
  cases r.result with
  | ok a =>
    cases r'.result with
    | ok a' =>
      rintro (_ | h)
      exact next a a' h
    | error e' => rintro ⟨⟩
  | error e =>
    cases r'.result with
    | ok a' => rintro ⟨⟩
    | error e' =>
      rintro (h | _)
      exact .error h

/-- A chain of operations fails as its first part does, or as its second part does after it. -/
theorem failsOnly_bind {Q : Failure → Prop} {f : α → σ → Reply σ β} :
    Except.FailsOnly Q (r.bind f).result ↔ Except.FailsOnly Q r.result ∧
      ∀ a, r.result = .ok a → Except.FailsOnly Q (f a r.state).result := by
  cases hr : r.result with
  | ok a => simp [result_bind_of_ok hr]
  | error e => simp [Reply.bind, hr]

end Reply

end OrderRetrieval
