import OrderRetrieval.Proofs.Datum.SameValue
import OrderRetrieval.Proofs.Facet.Count
import OrderRetrieval.Proofs.Sorting.Order

/-!
# Addresses as keys

Documents are counted and sorted by the canonical texts of their addresses.  These texts tell plain
addresses apart, and a missing address from all others (`searchText_eq_iff`).  So the documents
counted together in a facet, and those that a sort key leaves in the order given, are the documents
with the same address (`Document.addresses_told_apart`).
-/

namespace OrderRetrieval

/-- Whether an address, if there is one, is plain. -/
def PlainAddress (a : Option Blob) : Prop := ∀ b ∈ a, (Datum.obj b).Plain

theorem PlainAddress.some {b : Blob} (names : (b.map Prod.fst).Nodup)
    (each : ∀ f ∈ b, f.2.Plain) : PlainAddress (some b) := by
  rintro _ ⟨⟩
  exact .obj names each

/-- Whether two addresses are one value, or both missing. -/
def SameAddress : Option Blob → Option Blob → Prop :=
  Option.Rel fun a b => (Datum.obj a).SameValue (.obj b)

/-- The address in a field of addresses. -/
def Document.address? (d : Document) : Field → Option Blob
  | .shippingAddress => d.shippingAddress
  | .billingAddress => d.billingAddress
  | _ => none

namespace Value

theorem blobText_ne_empty (b : Blob) : blobText b ≠ "" := by
  intro empty
  rw [blobText, Datum.canonical, Datum.canonicalChars_obj] at empty
  have chars := congrArg String.toList empty
  rw [String.toList_ofList] at chars
  cases chars

variable {a b : Option Blob}

/-- Plain addresses have one text if and only if they are one value. -/
theorem blobText_eq_iff {a b : Blob} (ha : (Datum.obj a).Plain) (hb : (Datum.obj b).Plain) :
    blobText a = blobText b ↔ (Datum.obj a).SameValue (.obj b) := by
  rw [blobText, blobText, Datum.canonical, Datum.canonical, String.ofList_inj,
    ha.canonicalChars_eq_iff hb]

/-- The texts of addresses that may be missing tell them apart. -/
theorem searchText_eq_iff (ha : PlainAddress a) (hb : PlainAddress b) :
    (ofBlob? a).searchText = (ofBlob? b).searchText ↔ SameAddress a b := by
  cases a with
  | none =>
    cases b with
    | none => exact iff_of_true rfl .none
    | some b => exact iff_of_false (blobText_ne_empty b).symm nofun
  | some a =>
    cases b with
    | none => exact iff_of_false (blobText_ne_empty a) nofun
    | some b =>
      unfold SameAddress
      rw [Option.rel_some_some]
      exact blobText_eq_iff (ha a rfl) (hb b rfl)

/-- Addresses are counted as one if they have one text. -/
theorem sameKey_ofBlob?_iff (ha : PlainAddress a) (hb : PlainAddress b) :
    (ofBlob? a).toKey.sameKey (ofBlob? b).toKey = true ↔ SameAddress a b := by
  rw [← searchText_eq_iff ha hb]
  cases a with
  | none =>
    cases b with
    | none => exact iff_of_true rfl rfl
    | some b => exact iff_of_false Bool.false_ne_true (blobText_ne_empty b).symm
  | some a =>
    cases b with
    | none => exact iff_of_false Bool.false_ne_true (blobText_ne_empty a)
    | some b => exact beq_iff_eq

theorem sameKey_ofBlob?_self (a : Option Blob) :
    (ofBlob? a).toKey.sameKey (ofBlob? a).toKey = true := by
  cases a with
  | none => rfl
  | some a => exact beq_self_eq_true _

end Value

namespace Document

variable {d e : Document} {f : Field}

theorem key_of_json (json : f.kind = .json) (d : Document) :
    d.key f = .ok (Value.ofBlob? (d.address? f)).toKey := by
  cases f with
  | shippingAddress | billingAddress => rfl
  | _ => cases json

/-- A document falls under the address of another one if it has that address. -/
theorem fallsUnder_iff (json : f.kind = .json) {v : Value} (hd : PlainAddress (d.address? f))
    (he : PlainAddress (e.address? f))
    (same : v.sameKey (Value.ofBlob? (d.address? f)).toKey = true) :
    e.fallsUnder f v = true ↔ SameAddress (d.address? f) (e.address? f) := by
  have under : e.fallsUnder f v = v.sameKey (Value.ofBlob? (e.address? f)).toKey := by
    rw [fallsUnder, key_of_json json, Value.sameKey_comm]
  rw [← Value.sameKey_ofBlob?_iff hd he, under]
  exact ⟨Value.sameKey_trans (Value.sameKey_symm same), Value.sameKey_trans same⟩

/-- In the facet of addresses a document falls under one entry, the one of its address. -/
theorem facet_addresses (json : f.kind = .json) {ds : List Document}
    (plain : ∀ d ∈ ds, PlainAddress (d.address? f)) :
    ∃ counts, Facet.ofField f ds = .ok counts ∧ (counts.map Prod.snd).sum = ds.length ∧
      ∀ d ∈ ds, ∃ v n, counts.filter (fun entry => d.fallsUnder f entry.1) = [(v, n)] ∧
        n = ds.countP (·.fallsUnder f v) ∧
        ∀ e ∈ ds, e.fallsUnder f v = true ↔ SameAddress (d.address? f) (e.address? f) := by
  have keys : Facet.keysOf f ds = .ok (ds.map fun d => (Value.ofBlob? (d.address? f)).toKey) :=
    Except.mapM_eq_ok fun d _ => key_of_json json d
  have counted : ∃ counts, Facet.ofField f ds = .ok counts := by
    rw [Facet.ofField, keys]
    exact ⟨_, rfl⟩
  obtain ⟨counts, facet⟩ := counted
  refine ⟨counts, facet, Facet.sum_of_ofField facet, fun d hd => ?_⟩
  have self := Value.sameKey_ofBlob?_self (d.address? f)
  obtain ⟨v, same, entry⟩ := Facet.entries_of_mem facet hd (key_of_json json d) self
  have falls (u : Value) (hu : u.sameKey (Value.ofBlob? (d.address? f)).toKey = true) :
      ∀ e ∈ ds, e.fallsUnder f u = true ↔ SameAddress (d.address? f) (e.address? f) :=
    fun e he => fallsUnder_iff json (plain d hd) (plain e he) hu
  refine ⟨v, _, entry, ?_, falls v same⟩
  refine List.countP_congr fun e he => ?_
  rw [falls v same e he, falls _ self e he]

end Document

namespace Sorting

/-- The cell of an address. -/
def Cell.ofAddress (a : Option Blob) : Cell Nat := .ofValue (Value.ofBlob? a).toKey

namespace Cell

variable {a b : Option Blob}

theorem ofAddress_some (b : Blob) :
    ofAddress (some b) = .text (Text.fold (Value.blobText b)) (Value.blobText b) := rfl

theorem not_hasNul_ofAddress (a : Option Blob) : (ofAddress a).hasNul = false := by
  cases a with
  | none => rfl
  | some b =>
    rw [ofAddress_some, hasNul, List.contains_eq_mem, decide_eq_false_iff_not]
    exact Datum.nul_notMem_canonical (.obj b)

theorem comparable_ofAddress (a b : Option Blob) : Comparable (ofAddress a) (ofAddress b) := by
  cases a <;> cases b <;> trivial

/-- Texts tie if and only if they are equal, in case-folded form and as they are. -/
theorem order_text_eq_iff (descending : Bool) (f p g q : String) :
    (text f p : Cell Nat).order Ord.compare descending (text g q) = .eq ↔ f = g ∧ p = q := by
  have texts : (Ord.compare f g).then (Ord.compare p q) = .eq ↔ f = g ∧ p = q := by
    rw [Ordering.then_eq_eq, Std.compare_eq_iff_eq, Std.compare_eq_iff_eq]
  cases descending with
  | true => exact Ordering.swap_eq_eq.trans texts
  | false => exact texts

/-- Two addresses tie in either direction if and only if they are the same. -/
theorem order_ofAddress_eq_iff (descending : Bool) (ha : PlainAddress a) (hb : PlainAddress b) :
    (ofAddress a).order Ord.compare descending (ofAddress b) = .eq ↔ SameAddress a b := by
  rw [← Value.searchText_eq_iff ha hb]
  cases a with
  | none =>
    cases b with
    | none => exact iff_of_true rfl rfl
    | some b => exact iff_of_false nofun (Value.blobText_ne_empty b).symm
  | some a =>
    cases b with
    | none => exact iff_of_false nofun (Value.blobText_ne_empty a)
    | some b =>
      rw [ofAddress_some, ofAddress_some, order_text_eq_iff]
      exact ⟨And.right, fun eq => ⟨congrArg Text.fold eq, eq⟩⟩

end Cell

variable {f : Field} {k : Key} {a b : Scored Nat}

theorem Key.cell_of_json (json : f.kind = .json) (subject : k.subject = .field f)
    (a : Scored Nat) : k.cell a = .ok (.ofAddress (a.document.address? f)) := by
  rw [Key.cell, subject]
  simp only [Document.key_of_json json]
  rfl

theorem Key.cellOf_of_json (json : f.kind = .json) (subject : k.subject = .field f)
    (a : Scored Nat) : k.cellOf a = .ofAddress (a.document.address? f) := by
  rw [Key.cellOf, Key.cell_of_json json subject]

/-- All items can be compared by their addresses. -/
theorem Key.sorts_of_json (json : f.kind = .json) (subject : k.subject = .field f)
    (items : List (Scored Nat)) : k.Sorts items where
  cell_eq_ok a _ := by rw [Key.cellOf_of_json json subject, Key.cell_of_json json subject]
  not_hasNul a _ := by rw [Key.cellOf_of_json json subject, Cell.not_hasNul_ofAddress]
  comparable a _ b _ := by
    rw [Key.cellOf_of_json json subject, Key.cellOf_of_json json subject]
    exact Cell.comparable_ofAddress _ _

/-- Items tie by their addresses if and only if these are the same. -/
theorem Key.order_of_json (json : f.kind = .json) (subject : k.subject = .field f)
    (ha : PlainAddress (a.document.address? f)) (hb : PlainAddress (b.document.address? f)) :
    k.order a b = .eq ↔ SameAddress (a.document.address? f) (b.document.address? f) := by
  rw [Key.order, Key.cellOf_of_json json subject, Key.cellOf_of_json json subject,
    ← Cell.order_eq_directed _ (Cell.comparable_ofAddress _ _),
    Cell.order_ofAddress_eq_iff _ ha hb]

theorem keys_field (f : Field) (direction : Direction) :
    keys [⟨f.name, direction⟩] = [⟨.field f, direction == .descending⟩] := by
  cases f <;> cases direction <;> decide

section Items

variable {items : List (Scored Nat)}

/-- The rows of addresses tie if and only if the addresses are the same. -/
theorem keysOrder_addresses (json : f.kind = .json) (direction : Direction)
    (plain : ∀ a ∈ items, PlainAddress (a.document.address? f)) (ha : a ∈ items) (hb : b ∈ items) :
    keysOrder (keys [⟨f.name, direction⟩]) a b = .eq ↔
      SameAddress (a.document.address? f) (b.document.address? f) := by
  let k : Key := ⟨.field f, direction == .descending⟩
  have subject : k.subject = .field f := rfl
  rw [← Key.order_of_json json subject (plain a ha) (plain b hb), keys_field, keysOrder,
    compareLex, Ordering.then_eq_eq]
  exact and_iff_left rfl

theorem sorts_addresses (json : f.kind = .json) (direction : Direction)
    (items : List (Scored Nat)) : ∀ k ∈ keys [⟨f.name, direction⟩], k.Sorts items := by
  rw [keys_field, List.forall_mem_singleton]
  exact Key.sorts_of_json json rfl items

theorem order_row_addresses (json : f.kind = .json) (direction : Direction)
    (plain : ∀ a ∈ items, PlainAddress (a.document.address? f)) (ha : a ∈ items) (hb : b ∈ items) :
    (row (keys [⟨f.name, direction⟩]) a).order Ord.compare
        (row (keys [⟨f.name, direction⟩]) b) = .eq ↔
      SameAddress (a.document.address? f) (b.document.address? f) := by
  rw [order_row (sorts_addresses json direction items) ha hb,
    keysOrder_addresses json direction plain ha hb]

/-- Sorting by addresses puts the items of one address together, in the order given. -/
theorem sort_addresses (json : f.kind = .json) (direction : Direction)
    (plain : ∀ a ∈ items, PlainAddress (a.document.address? f)) :
    ∃ sorted, sort Ord.compare [⟨f.name, direction⟩] items = .ok sorted ∧ sorted.Perm items ∧
      (∀ a b c, [a, b, c].Sublist sorted →
        SameAddress (a.document.address? f) (c.document.address? f) →
        SameAddress (a.document.address? f) (b.document.address? f)) ∧
      ∀ a b, [a, b].Sublist items →
        SameAddress (a.document.address? f) (b.document.address? f) → [a, b].Sublist sorted := by
  have perm : (items.mergeSort fun a b =>
      (keysOrder (keys [⟨f.name, direction⟩]) a b).isLE).Perm items :=
    List.mergeSort_perm items _
  refine ⟨_, sort_eq_ok_of_sorts (sorts_addresses json direction items), perm, ?_, ?_⟩
  · intro a b c between same
    have mem (x : Scored Nat) (hx : x ∈ [a, b, c]) : x ∈ items := perm.mem_iff.1 (between.mem hx)
    rw [← keysOrder_addresses json direction plain (mem a (by simp)) (mem c (by simp))] at same
    rw [← keysOrder_addresses json direction plain (mem a (by simp)) (mem b (by simp))]
    exact eq_of_between _ between same
  · intro a b given same
    have mem (x : Scored Nat) (hx : x ∈ [a, b]) : x ∈ items := given.mem hx
    rw [← keysOrder_addresses json direction plain (mem a (by simp)) (mem b (by simp))] at same
    refine pair_sublist_of_isLE _ given ?_
    rw [same]
    rfl

end Items

end Sorting

/-- Plain addresses are told apart by their texts, of which none is empty, in facets and in sorting:
an entry counts the documents of one address, and a sort puts the documents of one address, and only
these, together as equals. -/
theorem Document.addresses_told_apart {f : Field} (json : f.kind = .json) {ds : List Document}
    (plain : ∀ d ∈ ds, PlainAddress (d.address? f)) :
    (∀ a b, PlainAddress a → PlainAddress b →
      ((Value.ofBlob? a).searchText = (Value.ofBlob? b).searchText ↔ SameAddress a b)) ∧
    (∀ b, (Value.ofBlob? (some b)).searchText ≠ (Value.ofBlob? none).searchText) ∧
    (∃ counts, Facet.ofField f ds = .ok counts ∧ (counts.map Prod.snd).sum = ds.length ∧
      ∀ d ∈ ds, ∃ v n, counts.filter (fun entry => d.fallsUnder f entry.1) = [(v, n)] ∧
        n = ds.countP (·.fallsUnder f v) ∧
        ∀ e ∈ ds, e.fallsUnder f v = true ↔ SameAddress (d.address? f) (e.address? f)) ∧
    ∀ (direction : Direction) (items : List (Scored Nat)), (∀ a ∈ items, a.document ∈ ds) →
      (∀ a ∈ items, ∀ b ∈ items,
        (Sorting.row (Sorting.keys [⟨f.name, direction⟩]) a).order compare
            (Sorting.row (Sorting.keys [⟨f.name, direction⟩]) b) = .eq ↔
          SameAddress (a.document.address? f) (b.document.address? f)) ∧
      ∃ sorted, Sorting.sort compare [⟨f.name, direction⟩] items = .ok sorted ∧
        sorted.Perm items ∧
        (∀ a b c, [a, b, c].Sublist sorted →
          SameAddress (a.document.address? f) (c.document.address? f) →
          SameAddress (a.document.address? f) (b.document.address? f)) ∧
        ∀ a b, [a, b].Sublist items →
          SameAddress (a.document.address? f) (b.document.address? f) →
          [a, b].Sublist sorted := by
  refine ⟨fun a b => Value.searchText_eq_iff, fun b => Value.blobText_ne_empty b,
    facet_addresses json plain, fun direction items mem => ?_⟩
  have plain' : ∀ a ∈ items, PlainAddress (a.document.address? f) :=
    fun a ha => plain a.document (mem a ha)
  exact ⟨fun a ha b hb => Sorting.order_row_addresses json direction plain' ha hb,
    Sorting.sort_addresses json direction plain'⟩

/-- A document of which only the shipping address is known. -/
def Document.shippedTo (b : Blob) : Document :=
  { (default : Document) with shippingAddress := some b }

/-- The order of its fields does not count for an address; the order of the items of a list does. -/
theorem Document.addresses_counted :
    let home : Blob := [("city", .str "Bonn"), ("at", .arr [.int 5, .str "5"])]
    let home' : Blob := [("at", .arr [.int 5, .str "5"]), ("city", .str "Bonn")]
    let other : Blob := [("city", .str "Bonn"), ("at", .arr [.str "5", .int 5])]
    ∃ counts v, Facet.ofField .shippingAddress [shippedTo home, shippedTo other, shippedTo home'] =
      .ok counts ∧
      counts.filter (fun entry => (shippedTo home).fallsUnder .shippingAddress entry.1) =
        [(v, 2)] := by
  intro home home' other
  have plain_home : PlainAddress (some home) :=
    .some (by decide) (by simp [home, Datum.Plain.arr, Datum.Plain.int, Datum.Plain.str])
  have plain_home' : PlainAddress (some home') :=
    .some (by decide) (by simp [home', Datum.Plain.arr, Datum.Plain.int, Datum.Plain.str])
  have plain_other : PlainAddress (some other) :=
    .some (by decide) (by simp [other, Datum.Plain.arr, Datum.Plain.int, Datum.Plain.str])
  have plain : ∀ d ∈ [shippedTo home, shippedTo other, shippedTo home'],
      PlainAddress (d.address? .shippingAddress) := by
    simp only [List.forall_mem_cons]
    exact ⟨plain_home, plain_other, plain_home', List.forall_mem_nil _⟩
  obtain ⟨-, -, ⟨counts, facet, -, entries⟩, -⟩ := addresses_told_apart rfl plain
  obtain ⟨v, n, entry, number, falls⟩ := entries (shippedTo home) List.mem_cons_self
  simp only [List.forall_mem_cons] at falls
  obtain ⟨falls_home, falls_other, falls_home', -⟩ := falls
  have same : SameAddress (some home) (some home') :=
    .some ((plain_home home rfl).sameValue_of_perm (.swap _ _ []))
  have differ : ¬SameAddress (some home) (some other) := by
    intro same
    cases same with | some same =>
    cases same with | obj fields =>
    have places : Option.Rel Datum.SameValue (some (.arr [.int 5, .str "5"]))
        (some (.arr [.str "5", .int 5])) := fields "at"
    cases places with | some same =>
    cases same with | arr items =>
    cases (List.forall₂_cons.1 items).1
  have one : (shippedTo home).fallsUnder .shippingAddress v = true :=
    falls_home.2 (.some (plain_home home rfl).sameValue_self)
  have two : (shippedTo home').fallsUnder .shippingAddress v = true :=
    falls_home'.2 same
  have none : ¬(shippedTo other).fallsUnder .shippingAddress v = true := by
    rw [falls_other]
    exact differ
  have number : n = 2 := by
    rw [number]
    simp [one, two, none]
  exact ⟨counts, v, facet, number ▸ entry⟩

end OrderRetrieval
