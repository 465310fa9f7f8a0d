import OrderRetrieval.Failure
import OrderRetrieval.Notice

/-!
# Replies

An operation on a state answers or fails; either way it leaves a state behind and may have noted
something.
-/

namespace OrderRetrieval

/-- What an operation on a state leaves behind. -/
structure Reply (σ α : Type) where
  result : Except Failure α
  state : σ
  notices : List Notice

namespace Reply

variable {σ τ α β : Type}

/-- An answer that changes nothing. -/
def answer (s : σ) (a : α) : Reply σ α := ⟨.ok a, s, []⟩

/-- A failure that changes nothing. -/
def refusal (s : σ) (e : Failure) : Reply σ α := ⟨.error e, s, []⟩

/-- Do something with the answer. -/
def map (f : α → β) (r : Reply σ α) : Reply σ β := { r with result := r.result.map f }

/-- Put the state into a larger one. -/
def lift (f : σ → τ) (r : Reply σ α) : Reply τ α := { r with state := f r.state }

/-- Note something before what was noted. -/
def noting (ns : List Notice) (r : Reply σ α) : Reply σ α := { r with notices := ns ++ r.notices }

/-- Go on with another operation after an answer. -/
def bind (r : Reply σ α) (f : α → σ → Reply σ β) : Reply σ β :=
  match r.result with
  | .ok a => (f a r.state).noting r.notices
  | .error e => ⟨.error e, r.state, r.notices⟩

end Reply

end OrderRetrieval
