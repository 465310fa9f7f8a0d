import OrderRetrieval.Document.Value
import OrderRetrieval.Proofs.Outcome

/-!
# Documents whose values can be looked at

A document is timed if its timestamps are moments of the calendar.  That is so if and only if each
of its fields has a value (`Document.timed_iff`), and with it a text and a key: nothing but a
timestamp keeps a document from being looked at (`Document.value_failsOnly`).  It is regular if in
addition its amount is a number; then its keys are of the kinds of their fields (`Regular.key`).
-/

namespace OrderRetrieval

open Calendar (Moment Timestamp)

/-- Whether each field of a document has a value that can be compared. -/
structure Document.Regular (d : Document) : Prop where
  number : Double.isNotANumber d.totalAmount = false
  created : ∀ t ∈ d.createdAt, t.utc? ≠ none
  updated : ∀ t ∈ d.updatedAt, t.utc? ≠ none

/-- Whether the timestamps of a document are moments of the calendar. -/
structure Document.Timed (d : Document) : Prop where
  created : ∀ t ∈ d.createdAt, t.utc? ≠ none
  updated : ∀ t ∈ d.updatedAt, t.utc? ≠ none

/-- Whether a value is missing or of a kind. -/
def Value.IsOfKind : FieldKind → Value → Prop
  | .numeric, v => ∃ x, v = .amount x
  | .date, v => v = .missing ∨ ∃ m, v = .moment m
  | _, v => v = .missing ∨ ∃ s, v = .text s

/-- Whether a key is one that a field of some kind may have. -/
def Value.IsKeyOf : FieldKind → Value → Prop
  | .numeric, v => ∃ x, v = .amount x ∧ Double.isNotANumber x = false
  | .date, v => v = .missing ∨ ∃ m, v = .moment m
  | _, v => v = .missing ∨ ∃ s, v = .text s

namespace Value

/-- A timestamp has a value if it is a moment of the calendar. -/
theorem exists_ofTimestamp?_iff {t : Option Timestamp} :
    (∃ v, ofTimestamp? t = .ok v) ↔ ∀ s ∈ t, s.utc? ≠ none := by
  cases t with
  | none => simp [ofTimestamp?]
  | some s => cases hs : s.utc? <;> simp [ofTimestamp?, Timestamp.moment, hs, Except.map]

theorem isMoment_of_ofTimestamp? {t : Option Timestamp} {v : Value} (h : ofTimestamp? t = .ok v) :
    v = .missing ∨ ∃ m, v = .moment m := by
  cases t with
  | none =>
    cases h
    exact .inl rfl
  | some s =>
    obtain ⟨m, -, rfl⟩ := Except.map_eq_ok.1 h
    exact .inr ⟨m, rfl⟩

theorem ofText?_isText (s : Option String) : ofText? s = .missing ∨ ∃ t, ofText? s = .text t := by
  cases s with
  | none => exact .inl rfl
  | some t => exact .inr ⟨t, rfl⟩

/-- A text, or one that is missing, is its own key. -/
theorem toKey_of_isText {v : Value} (h : v = .missing ∨ ∃ s, v = .text s) : v.toKey = v := by
  rcases h with rfl | ⟨s, rfl⟩
  · rfl
  · rfl

theorem toKey_ofBlob?_isText (b : Option Blob) :
    (ofBlob? b).toKey = .missing ∨ ∃ t, (ofBlob? b).toKey = .text t := by
  cases b with
  | none => exact .inl rfl
  | some b => exact .inr ⟨blobText b, rfl⟩

theorem not_isOfKind_blob (kind : FieldKind) (b : Blob) : ¬(blob b).IsOfKind kind := by
  cases kind <;> simp [IsOfKind]

/-- Where one key is a text, all others are. -/
theorem IsOfKind.isText {kind : FieldKind} {s : String} {v : Value}
    (h : (text s).IsOfKind kind) (hv : v.IsOfKind kind) : v = .missing ∨ ∃ t, v = .text t := by
  cases kind with
  | numeric =>
    obtain ⟨x, ⟨⟩⟩ := h
  | date =>
    rcases h with h | ⟨m, h⟩
    · cases h
    · cases h
  | string | nestedPath | enumeration | json => exact hv

end Value

section Failing

variable {Q : Failure → Prop} (late : Q .dateOutOfRange)

include late

theorem Calendar.Timestamp.moment_failsOnly (t : Timestamp) : Except.FailsOnly Q t.moment := by
  unfold moment
  cases t.utc? with
  | some m => exact Except.failsOnly_ok m
  | none => exact Except.failsOnly_error.2 late

namespace Document

/-- Looking at a field of a document fails only on a timestamp outside the calendar. -/
theorem value_failsOnly (d : Document) (f : Field) : Except.FailsOnly Q (d.value f) := by
  have timestamp (t : Option Timestamp) : Except.FailsOnly Q (Value.ofTimestamp? t) := by
    cases t with
    | none => exact Except.failsOnly_ok _
    | some t => exact Except.failsOnly_map.2 (t.moment_failsOnly late)
  cases f with
  | createdAt => exact timestamp d.createdAt
  | updatedAt => exact timestamp d.updatedAt
  | _ => exact Except.failsOnly_ok _

theorem key_failsOnly (d : Document) (f : Field) : Except.FailsOnly Q (d.key f) :=
  Except.failsOnly_map.2 (d.value_failsOnly late f)

theorem createdMoment?_failsOnly (d : Document) : Except.FailsOnly Q d.createdMoment? := by
  unfold createdMoment?
  cases d.createdAt with
  | none => exact Except.failsOnly_ok _
  | some t => exact Except.failsOnly_map.2 (t.moment_failsOnly late)

end Document

end Failing

namespace Document

theorem customerText_isText (d : Document) (part stored : String) :
    d.customerText part stored = .missing ∨ ∃ s, d.customerText part stored = .text s := by
  unfold customerText
  split
  · split
    · exact .inl rfl
    · exact .inr ⟨stored, rfl⟩
  · exact .inr ⟨_, rfl⟩

/-- The key of a field is missing or of the kind of the field. -/
theorem toKey_isOfKind {d : Document} {f : Field} {v : Value} (h : d.value f = .ok v) :
    v.toKey.IsOfKind f.kind := by
  cases f with
  | createdAt | updatedAt =>
    rcases Value.isMoment_of_ofTimestamp? h with rfl | ⟨m, rfl⟩
    · exact .inl rfl
    · exact .inr ⟨m, rfl⟩
  | orderNumber =>
    cases h
    exact .inr ⟨d.orderNumber, rfl⟩
  | notes =>
    cases h
    exact .inr ⟨d.notes, rfl⟩
  | customerName =>
    cases h
    have text := d.customerText_isText "name" d.customerName
    rw [Value.toKey_of_isText text]
    exact text
  | customerEmail =>
    cases h
    have text := d.customerText_isText "email" d.customerEmail
    rw [Value.toKey_of_isText text]
    exact text
  | totalAmount =>
    cases h
    exact ⟨d.totalAmount, rfl⟩
  | shippingAddress | billingAddress =>
    cases h
    exact Value.toKey_ofBlob?_isText _
  | status | paymentStatus | fulfillmentStatus =>
    cases h
    rw [Value.toKey_of_isText (Value.ofText?_isText _)]
    exact Value.ofText?_isText _

theorem key_isOfKind {d : Document} {f : Field} {v : Value} (h : d.key f = .ok v) :
    v.IsOfKind f.kind := by
  obtain ⟨w, hw, rfl⟩ := Except.map_eq_ok.1 h
  exact toKey_isOfKind hw

/-- The value of a field other than an address is its own key. -/
theorem toKey_eq_self {d : Document} {f : Field} {v : Value} (json : f.kind ≠ .json)
    (h : d.value f = .ok v) : v.toKey = v := by
  cases f with
  | createdAt | updatedAt =>
    rcases Value.isMoment_of_ofTimestamp? h with rfl | ⟨m, rfl⟩
    · rfl
    · rfl
  | orderNumber | notes | totalAmount =>
    cases h
    rfl
  | customerName | customerEmail =>
    cases h
    exact Value.toKey_of_isText (d.customerText_isText _ _)
  | status | paymentStatus | fulfillmentStatus =>
    cases h
    exact Value.toKey_of_isText (Value.ofText?_isText _)
  | shippingAddress | billingAddress => exact absurd rfl json

/-- The value of a field of dates is a moment unless it is missing. -/
theorem value_of_date {d : Document} {f : Field} {v : Value} (kind : f.kind = .date)
    (shown : d.value f = .ok v) : v = .missing ∨ ∃ m, v = .moment m := by
  have json : f.kind ≠ .json := by simp [kind]
  have dated : v.toKey.IsOfKind f.kind := toKey_isOfKind shown
  rwa [toKey_eq_self json shown, kind] at dated

/-- The value of a field of statuses is a text unless it is missing. -/
theorem value_of_enumeration {d : Document} {f : Field} {v : Value} (kind : f.kind = .enumeration)
    (shown : d.value f = .ok v) : v = .missing ∨ ∃ s, v = .text s := by
  have json : f.kind ≠ .json := by simp [kind]
  have status : v.toKey.IsOfKind f.kind := toKey_isOfKind shown
  rwa [toKey_eq_self json shown, kind] at status

/-- Only timestamps may have no value to look at. -/
theorem exists_value_eq_ok {f : Field} (undated : f.kind ≠ .date) (d : Document) :
    ∃ v, d.value f = .ok v := by
  cases f with
  | createdAt | updatedAt => exact absurd rfl undated
  | _ => exact ⟨_, rfl⟩

/-- The creation of a document can be told if it is a moment of the calendar. -/
theorem exists_createdMoment?_iff {d : Document} :
    (∃ m, d.createdMoment? = .ok m) ↔ ∀ t ∈ d.createdAt, t.utc? ≠ none := by
  rw [← Value.exists_ofTimestamp?_iff, createdMoment?]
  cases d.createdAt with
  | none => exact iff_of_true ⟨_, rfl⟩ ⟨_, rfl⟩
  | some t => exact Except.exists_map_eq_ok_iff.trans Except.exists_map_eq_ok_iff.symm

namespace Timed

variable {d : Document}

theorem value (h : d.Timed) (f : Field) : ∃ v, d.value f = .ok v := by
  cases f with
  | createdAt => exact Value.exists_ofTimestamp?_iff.2 h.created
  | updatedAt => exact Value.exists_ofTimestamp?_iff.2 h.updated
  | _ => exact ⟨_, rfl⟩

theorem textValue (h : d.Timed) (f : Field) : ∃ s, d.textValue f = .ok s := by
  obtain ⟨v, hv⟩ := h.value f
  exact ⟨v.searchText, by rw [Document.textValue, hv]; rfl⟩

theorem key (h : d.Timed) (f : Field) : ∃ v, d.key f = .ok v := by
  obtain ⟨v, hv⟩ := h.value f
  exact ⟨v.toKey, by rw [Document.key, hv]; rfl⟩

end Timed

/-- A document is timed if all its fields have values. -/
theorem timed_iff {d : Document} : d.Timed ↔ ∀ f, ∃ v, d.value f = .ok v := by
  constructor
  · intro h
    exact h.value
  · intro h
    exact ⟨Value.exists_ofTimestamp?_iff.1 (h .createdAt),
      Value.exists_ofTimestamp?_iff.1 (h .updatedAt)⟩

namespace Regular

variable {d : Document}

theorem timed (h : d.Regular) : d.Timed :=
  ⟨h.created, h.updated⟩

/-- Every field has a value, and its key is of the kind of the field. -/
theorem value_isKeyOf (h : d.Regular) (f : Field) :
    ∃ v, d.value f = .ok v ∧ v.toKey.IsKeyOf f.kind := by
  obtain ⟨v, hv⟩ := h.timed.value f
  have kind : v.toKey.IsOfKind f.kind := toKey_isOfKind hv
  refine ⟨v, hv, ?_⟩
  cases f with
  | totalAmount =>
    cases hv
    exact ⟨d.totalAmount, rfl, h.number⟩
  | _ => exact kind

theorem key (h : d.Regular) (f : Field) : ∃ v, d.key f = .ok v ∧ v.IsKeyOf f.kind := by
  obtain ⟨v, hv, kind⟩ := h.value_isKeyOf f
  exact ⟨v.toKey, by rw [Document.key, hv]; rfl, kind⟩

end Regular

end Document

end OrderRetrieval
