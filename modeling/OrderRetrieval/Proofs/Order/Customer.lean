import OrderRetrieval.Document.Value
import OrderRetrieval.Proofs.Order.Mapping

/-!
# The customer of an order

A document holds the customer's name and e-mail address beside the shipping address from which they
were taken, and a field of the customer looks into the address first.  The two agree unless a part
of the address is hollow, that is, there without saying anything (`Order.customer_agrees_iff`):
indexing passes over such a part, and looking at the field does not.
-/

namespace OrderRetrieval

/-! ## Parts that say nothing -/

/-- The bits of a zero. -/
theorem Double.view_of_rank?_eq_zero {x : Float} (h : rank? x = some 0) :
    ∃ negative, view x = .finite negative 0 (-1074) := by
  have magnitude : x.toBits.toNat % (Number.twoTo 52 * Number.twoTo 11) = 0 := by
    have width : Number.twoTo 63 = Number.twoTo 52 * Number.twoTo 11 := by decide
    rw [← width]
    exact magnitude_of_rank?_eq_zero h
  have power : x.toBits.toNat / Number.twoTo 52 % Number.twoTo 11 = 0 := by
    rw [← Nat.mod_mul_right_div_self, magnitude, Nat.zero_div]
  have fraction : x.toBits.toNat % Number.twoTo 52 = 0 := by
    rw [← Nat.mod_mul_right_mod _ _ (Number.twoTo 11), magnitude, Nat.zero_mod]
  refine ⟨decide (x.toBits.toNat / Number.twoTo 63 = 1), ?_⟩
  simp [view, power, fraction]

theorem Number.display_ne_empty {x : Float} (zero : Double.rank? x = some 0) : display x ≠ "" := by
  obtain ⟨negative, hx⟩ := Double.view_of_rank?_eq_zero zero
  rw [display, Layout.write, Layout.writeAs, hx]
  cases negative <;> decide

namespace Datum

/-- Whether a value is there and still says nothing, as an empty text or a zero. -/
def IsHollow (x : Datum) : Prop := x ≠ .null ∧ x.isTruthy = false

/-- Of the values that say nothing, only the empty text is written as nothing. -/
theorem IsHollow.text_eq_empty_iff {x : Datum} (h : x.IsHollow) : x.text = "" ↔ x = .str "" := by
  obtain ⟨given, silent⟩ := h
  cases x with
  | null => exact absurd rfl given
  | bool b => cases b <;> simp [text, literal]
  | int n =>
    obtain rfl : n = 0 := by simpa [isTruthy] using silent
    exact iff_of_false (by decide) Datum.noConfusion
  | float x =>
    have zero : Double.rank? x = some 0 := by simpa [isTruthy] using silent
    exact iff_of_false (Number.display_ne_empty zero) Datum.noConfusion
  | str s => simp
  | time t => cases silent
  | arr items => simp [text, literal]
  | obj fields => simp [text, literal]

/-- A value that says something stands for itself before any other. -/
theorem orElse_of_solid {x : Datum} (given : x ≠ .null) (solid : ¬x.IsHollow) (y : Datum) :
    x.orElse y = x := by
  have truthy : x.isTruthy = true := by
    rw [← Bool.not_eq_false]
    exact fun silent => solid ⟨given, silent⟩
  rw [orElse, if_pos truthy]

end Datum

/-! ## Looking at a document for its customer -/

namespace Document

/-- A part of the shipping address of a document, null if there is none. -/
def shippingPart (d : Document) (part : String) : Datum :=
  Datum.field (d.shippingAddress.getD []) part

/-- Without its part of the address, a field of the customer shows what is held beside it. -/
theorem searchText_customerText_of_null {d : Document} {part : String}
    (null : d.shippingPart part = .null) (stored : String) :
    (d.customerText part stored).searchText = stored := by
  unfold customerText
  rw [shippingPart] at null
  simp only [null]
  split
  · next none => exact (String.isEmpty_iff.1 none).symm
  · rfl

theorem searchText_customerText {d : Document} {part : String}
    (given : d.shippingPart part ≠ .null) (stored : String) :
    (d.customerText part stored).searchText = (d.shippingPart part).text := by
  unfold customerText
  split
  · next null => exact absurd null given
  · rfl

/-- A field of the customer shows what is held beside the address unless its part of the address is
hollow. -/
theorem customerText_agrees_iff {d : Document} {part stored : String} {rest : Datum}
    (h : (d.shippingPart part).orElse rest = .str stored) :
    (d.customerText part stored).searchText = stored ↔
      ((d.shippingPart part).IsHollow → (d.shippingPart part).text = stored) := by
  by_cases null : d.shippingPart part = .null
  · rw [searchText_customerText_of_null null]
    exact iff_of_true rfl fun hollow => absurd null hollow.1
  · rw [searchText_customerText null]
    refine ⟨fun same _ => same, fun agrees => ?_⟩
    by_cases hollow : (d.shippingPart part).IsHollow
    · exact agrees hollow
    · rw [Datum.orElse_of_solid null hollow] at h
      rw [h, Datum.text_str]

end Document

namespace Order

/-- A part of the shipping address of an order, null if the order has no such part. -/
def shippingPart (o : Order) (part : String) : Datum :=
  match o.read "shipping_address" with
  | .ok (.obj parts) => Datum.field parts part
  | _ => .null

variable {o : Order} {d : Document}

/-- The first part of the address that says something. -/
theorem addressPart_eq {address : Datum} (h : o.read "shipping_address" = .ok address)
    (names : List String) :
    addressPart address names =
      names.foldr (fun name rest => (o.shippingPart name).orElse rest) (.str "") := by
  unfold addressPart shippingPart
  rw [h]
  cases address with
  | obj parts => rfl
  | _ =>
    induction names with
    | nil => rfl
    | cons name names ih => exact ih

/-- The document of an order has the shipping address of the order, and its customer is found in
there: by name or else by full name. -/
theorem customer_of_toDocument (h : o.toDocument = .ok d) :
    d.shippingPart = o.shippingPart ∧
      (o.shippingPart "name").orElse ((o.shippingPart "fullName").orElse (.str "")) =
        .str d.customerName ∧
      (o.shippingPart "email").orElse (.str "") = .str d.customerEmail := by
  obtain ⟨id, fields, -, -, made, read⟩ := fields_of_toDocument h
  obtain ⟨address, -, hread, -, -, hname, hemail, hshipping, -⟩ := parts_of_documentFields made
  obtain ⟨-, name, email, shipping, -⟩ := Document.parts_of_read read
  rw [Checked.orDefault_eq_ok hname, Checked.string_eq_ok, customerName,
    addressPart_eq hread] at name
  rw [Checked.orDefault_eq_ok hemail, Checked.string_eq_ok, customerEmail,
    addressPart_eq hread] at email
  rw [Checked.orDefault_eq_ok hshipping] at shipping
  refine ⟨?_, name, email⟩
  funext part
  unfold Document.shippingPart shippingPart
  rw [hread]
  cases address with
  | obj parts =>
    have kept : some parts = d.shippingAddress := Except.ok.inj shipping
    rw [← kept]
    rfl
  | _ =>
    have none : none = d.shippingAddress := Except.ok.inj shipping
    rw [← none]
    rfl

/-! ## A parcel for Dana -/

namespace Dana

/-- An order with a shipping address. -/
def order (address : List (String × Datum)) : Order :=
  .ofAttributes [("id", .str "1"), ("shipping_address", .obj address)]

end Dana

/-- **When the fields of the customer agree with the document.**  The document of an order holds the
first of name and full name that says something, and the e-mail address if it says something.
Looking at the document for the name shows the same exactly if the name in the address is not
hollow, or is written like what stands in for it; for the e-mail address, exactly if that is not
hollow but for an empty text. -/
theorem customer_agrees_iff (h : o.toDocument = .ok d) :
    (o.shippingPart "name").orElse ((o.shippingPart "fullName").orElse (.str "")) =
        .str d.customerName ∧
      (o.shippingPart "email").orElse (.str "") = .str d.customerEmail ∧
      (d.textValue .customerName = .ok d.customerName ↔
        ((o.shippingPart "name").IsHollow → (o.shippingPart "name").text = d.customerName)) ∧
      (d.textValue .customerEmail = .ok d.customerEmail ↔
        ((o.shippingPart "email").IsHollow → o.shippingPart "email" = .str "")) := by
  obtain ⟨parts, name, email⟩ := customer_of_toDocument h
  refine ⟨name, email, ?_, ?_⟩
  · rw [← parts] at name ⊢
    exact (Except.ok.injEq _ _).to_iff.trans (Document.customerText_agrees_iff name)
  · rw [← parts] at email ⊢
    refine (Except.ok.injEq _ _).to_iff.trans ((Document.customerText_agrees_iff email).trans ?_)
    refine forall_congr' fun hollow => ?_
    -- What stands in for a hollow address is the empty text.
    rw [Datum.orElse, if_neg (by simp [hollow.2]), Datum.str.injEq] at email
    rw [← email, hollow.text_eq_empty_iff]

/-- Dana's name and address are shown as they are held. -/
theorem customer_agrees_dana : ∃ d, (Dana.order [("name", .null), ("fullName", .str "Dana"),
      ("email", .str "")]).toDocument = .ok d ∧
    d.textValue .customerName = .ok d.customerName ∧
    d.textValue .customerEmail = .ok d.customerEmail := by
  have h : ∃ d, (Dana.order [("name", .null), ("fullName", .str "Dana"),
      ("email", .str "")]).toDocument = .ok d := ⟨_, rfl⟩
  obtain ⟨d, h⟩ := h
  obtain ⟨-, -, name, email⟩ := customer_agrees_iff h
  exact ⟨d, h, name.2 fun hollow => absurd rfl hollow.1, email.2 fun _ => rfl⟩

/-- Under an empty name the document holds the full name, which is not shown, and a zero for an
e-mail address is shown, though the document holds none. -/
theorem not_customer_agrees : ∃ d, (Dana.order [("name", .str ""), ("fullName", .str "Dana"),
      ("email", .int 0)]).toDocument = .ok d ∧
    d.customerName = "Dana" ∧ d.textValue .customerName = .ok "" ∧
    d.customerEmail = "" ∧ d.textValue .customerEmail = .ok "0" :=
  ⟨_, rfl, rfl, rfl, rfl, rfl⟩

end Order

end OrderRetrieval
