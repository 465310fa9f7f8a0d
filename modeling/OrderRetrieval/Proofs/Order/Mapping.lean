import OrderRetrieval.Document.SearchableText
import OrderRetrieval.Order.Mapping
import OrderRetrieval.Proofs.Outcome

/-!
# The document of an order

What a document is read from, part by part (`Document.parts_of_read`), and where an order puts it
(`Order.parts_of_documentFields`).  A document has the id of its order
(`Order.sourceId_of_toDocument`) and those of its addresses that are objects
(`Order.addresses_of_toDocument`), so it can be stored if the addresses can be written
(`Order.isWritable_of_toDocument`).
-/

namespace OrderRetrieval

namespace Checked

/-- A record is read if both what was read before and its next part are. -/
theorem and_eq_ok {α β : Type} {f : Checked (α → β)} {x : Checked α} {b : β} :
    f.and x = .ok b ↔ ∃ g a, f = .ok g ∧ x = .ok a ∧ g a = b := by
  cases f with
  | error is => cases x <;> simp [Checked.and]
  | ok g => cases x <;> simp [Checked.and]

theorem first_eq_ok {α β : Type} {f : α → β} {x : Checked α} {b : β} :
    first f x = .ok b ↔ ∃ a, x = .ok a ∧ f a = b := by
  cases x <;> simp [first, Except.map]

theorem string_eq_ok {x : Datum} {s : String} : string x = .ok s ↔ x = .str s := by
  cases x <;> simp [string, fail]

/-- A text that has to be there is there. -/
theorem required_string_eq_ok {fields : List (String × Datum)} {name s : String} :
    required fields name string = .ok s ↔ Datum.field? fields name = some (.str s) := by
  rw [required, within, Except.mapError_eq_ok]
  cases Datum.field? fields name with
  | none => simp [fail]
  | some x => simp [string_eq_ok]

/-- A field with a default that is there is read as it stands. -/
theorem orDefault_eq_ok {α : Type} {fields : List (String × Datum)} {name : String}
    {read : Datum → Checked α} {default a : α} {x : Datum}
    (there : Datum.field? fields name = some x) :
    orDefault fields name read default = .ok a ↔ read x = .ok a := by
  rw [orDefault, within, there, Except.mapError_eq_ok, Option.elim_some]

end Checked

/-- The parts of an object that can be written can be written. -/
theorem Datum.isWritable_field {fields : List (String × Datum)}
    (h : (Datum.obj fields).isWritable = true) (name : String) :
    (Datum.field fields name).isWritable = true := by
  induction fields with
  | nil => rfl
  | cons f fields ih =>
    obtain ⟨first, x⟩ := f
    rw [isWritable, haveWritable, Bool.and_eq_true] at h
    unfold field field? at ih ⊢
    rw [List.lookup_cons]
    split
    · exact h.1
    · exact ih (by rw [isWritable]; exact h.2)

open Checked in
/-- A document holds the id, the customer and the addresses that it was read with. -/
theorem Document.parts_of_read {fields : List (String × Datum)} {d : Document}
    (h : Document.read fields = .ok d) :
    Datum.field? fields "id" = some (.str d.id) ∧
      orDefault fields "customer_name" string "" = .ok d.customerName ∧
      orDefault fields "customer_email" string "" = .ok d.customerEmail ∧
      orDefault fields "shipping_address" (nullable object) none = .ok d.shippingAddress ∧
      orDefault fields "billing_address" (nullable object) none = .ok d.billingAddress := by
  unfold Document.read at h
  -- The parts are supplied from the left, so they are reached from the last to the first.
  iterate 2
    rw [and_eq_ok] at h
    obtain ⟨_, _, h, -, rfl⟩ := h
  rw [and_eq_ok] at h
  obtain ⟨_, _, h, billing, rfl⟩ := h
  rw [and_eq_ok] at h
  obtain ⟨_, _, h, shipping, rfl⟩ := h
  iterate 6
    rw [and_eq_ok] at h
    obtain ⟨_, _, h, -, rfl⟩ := h
  rw [and_eq_ok] at h
  obtain ⟨_, _, h, email, rfl⟩ := h
  rw [and_eq_ok] at h
  obtain ⟨_, _, h, name, rfl⟩ := h
  rw [and_eq_ok] at h
  obtain ⟨_, _, h, -, rfl⟩ := h
  obtain ⟨id, hid, rfl⟩ := first_eq_ok.1 h
  exact ⟨required_string_eq_ok.1 hid, name, email, shipping, billing⟩

namespace Order

variable {o : Order} {d : Document}

/-- A document is made of the id, the customer and the addresses of its order. -/
theorem parts_of_documentFields {id : Datum} {fields : List (String × Datum)}
    (h : o.documentFields id = .ok fields) :
    ∃ shipping billing, o.read "shipping_address" = .ok shipping ∧
      o.read "billing_address" = .ok billing ∧
      Datum.field? fields "id" = some (.str id.text) ∧
      Datum.field? fields "customer_name" = some (customerName shipping) ∧
      Datum.field? fields "customer_email" = some (customerEmail shipping) ∧
      Datum.field? fields "shipping_address" = some (blobOrNull shipping) ∧
      Datum.field? fields "billing_address" = some (blobOrNull billing) := by
  unfold documentFields at h
  obtain ⟨shipping, hshipping, h⟩ := Except.bind_eq_ok.1 h
  iterate 8
    obtain ⟨_, -, h⟩ := Except.bind_eq_ok.1 h
  obtain ⟨billing, hbilling, h⟩ := Except.bind_eq_ok.1 h
  obtain ⟨_, -, h⟩ := Except.bind_eq_ok.1 h
  cases h
  exact ⟨shipping, billing, hshipping, hbilling, rfl, rfl, rfl, rfl, rfl⟩

/-- The document of an order is read from what it is made of, and the id can be written. -/
theorem fields_of_toDocument (h : o.toDocument = .ok d) :
    ∃ id fields, o.read "id" = .ok id ∧ id.isWritable = true ∧
      o.documentFields id = .ok fields ∧ Document.read fields = .ok d := by
  unfold toDocument at h
  split at h
  · contradiction
  · contradiction
  · next id _ hid =>
    split at h
    · next writable =>
      obtain ⟨fields, made, read⟩ := Except.bind_eq_ok.1 (Except.mapError_eq_ok.1 h)
      exact ⟨id, fields, hid, writable, made, Except.mapError_eq_ok.1 read⟩
    · contradiction

/-- A document has the id under which its order is known. -/
theorem sourceId_of_toDocument (h : o.toDocument = .ok d) : o.sourceId = .ok d.id := by
  obtain ⟨id, fields, hid, writable, made, read⟩ := fields_of_toDocument h
  obtain ⟨_, _, -, -, text, -⟩ := parts_of_documentFields made
  rw [(Document.parts_of_read read).1, Option.some.injEq, Datum.str.injEq] at text
  rw [sourceId, hid, text]
  exact if_pos writable

/-- Ids that can be read one by one are read together. -/
theorem mapM_sourceId_eq_ok {orders : List Order}
    (readable : ∀ o ∈ orders, ∃ id, o.sourceId = .ok id) :
    ∃ ids, orders.mapM sourceId = .ok ids ∧
      ∀ id, id ∈ ids ↔ ∃ o ∈ orders, o.sourceId = .ok id := by
  have reads : ∀ o ∈ orders, o.sourceId = .ok (o.sourceId.toOption.getD "") := by
    intro o ho
    obtain ⟨id, hid⟩ := readable o ho
    rw [hid]
    rfl
  refine ⟨_, Except.mapM_eq_ok reads, fun id => ?_⟩
  rw [List.mem_map]
  refine exists_congr fun o => and_congr_right fun ho => ⟨fun h => h ▸ reads o ho, fun h => ?_⟩
  rw [h]
  rfl

/-- An order that does not become a document is rejected with a reason. -/
theorem rejected_of_toDocument {e : Failure} (h : o.toDocument = .error e) :
    ∃ id reason, e = .orderRejected id reason := by
  unfold toDocument at h
  split at h
  · next fault _ =>
    cases h
    exact ⟨.null, fault.message, rfl⟩
  · cases h
    exact ⟨.null, _, rfl⟩
  · next id _ _ =>
    split at h
    · cases hd : o.toDocumentAs id with
      | ok d =>
        rw [hd] at h
        cases h
      | error fault =>
        rw [hd] at h
        cases h
        exact ⟨id, fault.message, rfl⟩
    · cases h
      exact ⟨.null, _, rfl⟩

/-! ### Addresses -/

/-- The addresses of a document are those of its order that are objects. -/
theorem addresses_of_toDocument (h : o.toDocument = .ok d) :
    ∃ shipping billing, o.read "shipping_address" = .ok shipping ∧
      o.read "billing_address" = .ok billing ∧
      Checked.nullable Checked.object (blobOrNull shipping) = .ok d.shippingAddress ∧
      Checked.nullable Checked.object (blobOrNull billing) = .ok d.billingAddress := by
  obtain ⟨id, fields, -, -, made, read⟩ := fields_of_toDocument h
  obtain ⟨shipping, billing, hs, hb, -, -, -, fieldS, fieldB⟩ := parts_of_documentFields made
  obtain ⟨-, -, -, readS, readB⟩ := Document.parts_of_read read
  rw [Checked.orDefault_eq_ok fieldS] at readS
  rw [Checked.orDefault_eq_ok fieldB] at readB
  exact ⟨shipping, billing, hs, hb, readS, readB⟩

/-- An address that can be written has parts that can. -/
theorem addressValues_isWritable {address : Datum} {blob : Option Blob}
    (writable : address.isWritable = true)
    (h : Checked.nullable Checked.object (blobOrNull address) = .ok blob) :
    (Document.addressValues (blob.getD [])).all Datum.isWritable = true := by
  have part : ∀ name, (Datum.field (blob.getD []) name).isWritable = true := by
    intro name
    cases address with
    | obj parts =>
      obtain rfl : some parts = blob := Except.ok.inj h
      exact Datum.isWritable_field writable name
    | _ =>
      obtain rfl : none = blob := Except.ok.inj h
      rfl
  refine List.all_eq_true.2 fun x hx => ?_
  obtain ⟨name, -, rfl⟩ := List.mem_map.1 (List.mem_filter.1 hx).1
  exact part name

/-- The document of an order whose addresses can be written can be stored. -/
theorem isWritable_of_toDocument (h : o.toDocument = .ok d)
    (shipping : ∀ x, o.read "shipping_address" = .ok x → x.isWritable = true)
    (billing : ∀ x, o.read "billing_address" = .ok x → x.isWritable = true) :
    d.isWritable = true := by
  obtain ⟨x, y, hx, hy, readX, readY⟩ := addresses_of_toDocument h
  rw [Document.isWritable, addressValues_isWritable (shipping x hx) readX,
    addressValues_isWritable (billing y hy) readY, Bool.and_self]

end Order

end OrderRetrieval
