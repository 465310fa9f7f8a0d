import OrderRetrieval.Order.Batch
import OrderRetrieval.Proofs.Datum.Canonical
import OrderRetrieval.Proofs.Engine.Meaning
import OrderRetrieval.Proofs.Engine.Validation
import OrderRetrieval.Proofs.Sorting.Obstacle

/-!
# Which documents answer every query

An index answers every valid query if and only if its documents are timed and any two of them
collate (`Engine.answers_all_iff`).  Otherwise one of two queries fails: one that looks at a
timestamp outside the calendar, or one that sorts by a text with a NUL.
-/

namespace OrderRetrieval

/-- Whether an index holds documents that queries can look at and compare. -/
structure Index.Answerable (index : Index) : Prop where
  timed : ∀ d ∈ index.documents, d.Timed
  collate : ∀ d ∈ index.documents, ∀ e ∈ index.documents, d ≠ e → d.Collates e

namespace Engine

variable {settings : Settings} {e : Engine} {index : Index} {millis : Float} {q : Query}

/-- Every valid query is answered over documents that queries can look at and compare. -/
theorem search_answers (sound : settings.Sound) (answerable : index.Answerable)
    (valid : (validate settings q).1 = .ok []) :
    ∃ r, (e.search settings index millis q).result = .ok r := by
  obtain ⟨p, hp⟩ := ofQuery_of_validate valid
  have does : p.Does q := Plan.does_of_ofQuery hp
  obtain ⟨items, ranked, nodup, mem_iff, -⟩ := Plan.ranked_eq_ok does answerable.timed
  have mem : ∀ a ∈ items, a.document ∈ index.documents := by
    intro a ha
    exact ((mem_iff a.document a.score).1 ha).1
  have collate : items.Pairwise fun a b => a.document.Collates b.document := by
    refine (List.pairwise_map.1 nodup).imp_of_mem ?_
    intro a b ha hb ne
    exact answerable.collate _ (mem a ha) _ (mem b hb) ne
  obtain ⟨sorted, sorts, perm⟩ : ∃ sorted, Sorting.sort compare p.sort items = .ok sorted ∧
      sorted.Perm items :=
    Sorting.exists_sort_eq_ok (fun a ha => answerable.timed _ (mem a ha)) collate
  have found : (p.found index).result = .ok sorted := by
    rw [Plan.found, ranked]
    exact sorts
  rw [search_eq_execute hp]
  refine execute_completes does sound found ?_
  rw [List.forall_mem_map]
  intro a ha
  exact answerable.timed _ (mem a (perm.mem_iff.1 ha))

end Engine

/-! ## Queries that fail -/

theorem Value.equals_str_iff {v : Value} {s : String} :
    v.equals (.str s) = true ↔ v = .text s := by
  cases v <;> simp [Value.equals, Value.datum, Datum.same, Datum.quantity?]

namespace Document

variable {d : Document} {f : Field} {s : String}

/-- The text of an address holds no NUL. -/
theorem nul_notMem_of_json (json : f.kind = .json) (h : d.key f = .ok (.text s)) :
    '\x00' ∉ s.toList := by
  have blob (b : Option Blob) (eq : (Value.ofBlob? b).toKey = .text s) : '\x00' ∉ s.toList := by
    cases b with
    | none => cases eq
    | some b =>
      cases eq
      exact Datum.nul_notMem_canonical _
  cases f with
  | shippingAddress => exact blob d.shippingAddress (Except.ok.inj h)
  | billingAddress => exact blob d.billingAddress (Except.ok.inj h)
  | _ => cases json

/-- The text of a field other than an address is its value. -/
theorem value_of_key_text (json : f.kind ≠ .json) (h : d.key f = .ok (.text s)) :
    d.value f = .ok (.text s) := by
  obtain ⟨v, hv, eq⟩ := Except.map_eq_ok.1 h
  rw [hv, ← toKey_eq_self json hv, eq]

end Document

/-- The query for the first document that meets a condition, least values of a field first. -/
def Query.probe (f : Field) (c : Condition) : SimpleQuery where
  text := none
  searchFields := []
  filters := [c]
  sort := [⟨f.name, .ascending⟩]
  paging := ⟨1, 1⟩
  options := .default
  facetFields := none

namespace Engine

variable {settings : Settings} {e : Engine} {index : Index} {millis : Float} {f : Field}
  {c : Condition} {t : Test}

/-- The plan of a query for the first document that meets a condition. -/
theorem ofQuery_probe (room : settings.maxPageSize.lt (.whole 1) = false) (h : c.compile = .ok t) :
    ∃ p, Plan.ofQuery settings (.simple (Query.probe f c)) = .ok (p, []) ∧
      p.predicate = Predicate.all [t.holds] := by
  have each : Condition.compileEach [c] = .ok ([t], []) :=
    Condition.compileEach_eq_ok.2 (.cons h .nil)
  have threshold : (Double.le 0 defaultThreshold && Double.le defaultThreshold 1) = true := by
    decide
  have bounds : Plan.boundFaults settings ⟨1, 1⟩ .default = [] := by
    simp [Plan.boundFaults, room, Options.default, threshold]
  refine ⟨⟨none, some [], Predicate.all [t.holds], [⟨f.name, .ascending⟩], ⟨1, 1⟩,
    Options.default.closeness, Options.default.highlight, none⟩, ?_, rfl⟩
  show Except.map _ (Condition.compileEach [c]) = _
  rw [each]
  simp [Except.map, Query.probe, bounds, Plan.fieldFaults, Predicate.combine]

theorem validate_eq_ok_nil {q : Query} {p : Plan} (h : Plan.ofQuery settings q = .ok (p, [])) :
    (validate settings q).1 = .ok [] := by
  rw [validate, h]
  rfl

/-- What an index finds for a query that it answers. -/
theorem exists_found_of_search {q : Query} {p : Plan} {r : SearchResult}
    (h : Plan.ofQuery settings q = .ok (p, []))
    (answered : (e.search settings index millis q).result = .ok r) :
    ∃ items, (p.found index).result = .ok items := by
  rw [search_eq_execute h] at answered
  obtain ⟨items, names, suggestions, facets, range, found, -⟩ := execute_eq_ok.1 answered
  exact ⟨items, found⟩

/-- Where an index finds something, all its documents could be looked at. -/
theorem holds_of_found {p : Plan} {items : List (Scored Nat)}
    (predicate : p.predicate = Predicate.all [t.holds])
    (found : (p.found index).result = .ok items) :
    ∀ d ∈ index.documents, ∃ b, t.holds d = .ok b := by
  intro d hd
  unfold Plan.found at found
  split at found
  · cases found
  · next ranked =>
    obtain ⟨selected, select, -⟩ := Except.bind_eq_ok.1 ranked
    obtain ⟨b, hb⟩ := Predicate.exists_of_select_eq_ok select d hd
    rw [predicate] at hb
    obtain ⟨passed, hpassed, -⟩ := Except.bind_eq_ok.1 hb
    exact ⟨passed, hpassed⟩

/-- An index that answers every valid query holds timed documents. -/
theorem timed_of_answers (room : settings.maxPageSize.lt (.whole 1) = false)
    (answers : ∀ q, (validate settings q).1 = .ok [] →
      ∃ r, (e.search settings index millis q).result = .ok r) :
    ∀ d ∈ index.documents, d.Timed := by
  intro d hd
  refine Document.timed_iff.2 fun f => ?_
  -- a condition that every value meets still looks at the value of every document
  have probed (date : f.kind = .date) : ∃ v, d.value f = .ok v := by
    have compiles : Condition.compile ⟨f.name, Operator.noneOf.name, .arr [], .all⟩ =
        .ok ⟨f, fun v => !(Scale.moments f).amongPlaces [] v⟩ := by
      rw [Condition.compile, Condition.resolve_of_mem (by rw [date]; decide) rfl]
      simp only [Field.accepts, date]
      rfl
    obtain ⟨p, hp, predicate⟩ := ofQuery_probe (f := f) room compiles
    obtain ⟨r, answered⟩ := answers _ (validate_eq_ok_nil hp)
    obtain ⟨items, found⟩ := exists_found_of_search hp answered
    obtain ⟨b, hb⟩ := holds_of_found predicate found d hd
    obtain ⟨v, hv, -⟩ := Except.map_eq_ok.1 hb
    exact ⟨v, hv⟩
  cases f with
  | createdAt | updatedAt => exact probed rfl
  | _ => exact ⟨_, rfl⟩

/-- Without a text every document that meets the condition is found, each with no score. -/
theorem ranked_probe {p : Plan}
    (h : Plan.ofQuery settings (.simple (Query.probe f c)) = .ok (p, []))
    (timed : ∀ d ∈ index.documents, d.Timed) :
    ∃ items, p.ranked index = .ok items ∧ (∀ a ∈ items, c.Accepts a.document) ∧
      ∀ d ∈ index.documents, c.Accepts d → ⟨d, 0⟩ ∈ items := by
  obtain ⟨items, ranked, -, mem_iff, -⟩ := Plan.ranked_eq_ok (Plan.does_of_ofQuery h) timed
  have admits (d : Document) : (Query.simple (Query.probe f c)).Admits d ↔ c.Accepts d :=
    List.forall_mem_singleton
  refine ⟨items, ranked, ?_, ?_⟩
  · intro a ha
    exact (admits a.document).1 ((mem_iff a.document a.score).1 ha).2.1
  · intro d hd accepts
    exact (mem_iff d 0).2 ⟨hd, (admits d).2 accepts, fun words => absurd rfl words, rfl⟩

/-- The condition that a field has one of two texts. -/
def eitherText (f : Field) (s s' : String) : Condition :=
  ⟨f.name, Operator.oneOf.name, .arr [.str s, .str s'], .all⟩

theorem compile_eitherText {s s' : String} (text : (Value.text s).IsOfKind f.kind)
    (json : f.kind ≠ .json) :
    (eitherText f s s').compile = .ok ⟨f, fun v => v.isAmong [.str s, .str s']⟩ := by
  have supported : .oneOf ∈ f.kind.operators ∧
      f.accepts .oneOf (.arr [.str s, .str s']) = .ok fun v => v.isAmong [.str s, .str s'] := by
    unfold Field.accepts
    cases kind : f.kind with
    | string | nestedPath | enumeration => exact ⟨by decide, rfl⟩
    | json => exact absurd kind json
    | numeric =>
      rw [kind] at text
      obtain ⟨x, h⟩ := text
      cases h
    | date =>
      rw [kind] at text
      rcases text with h | ⟨m, h⟩
      · cases h
      · cases h
  rw [Condition.compile, eitherText, Condition.resolve_of_mem supported.1 rfl]
  simp only [supported.2]
  rfl

theorem accepts_eitherText_iff {s s' : String} {d : Document}
    (compiles : (eitherText f s s').compile = .ok ⟨f, fun v => v.isAmong [.str s, .str s']⟩) :
    (eitherText f s s').Accepts d ↔ d.value f = .ok (.text s) ∨ d.value f = .ok (.text s') := by
  rw [Condition.accepts_iff compiles, Test.holds_eq_ok_true]
  simp only [Value.isAmong, List.any_cons, List.any_nil, Bool.or_false, Bool.or_eq_true,
    Value.equals_str_iff]
  constructor
  · rintro ⟨v, hv, rfl | rfl⟩
    · exact .inl hv
    · exact .inr hv
  · rintro (hv | hv)
    · exact ⟨_, hv, .inl rfl⟩
    · exact ⟨_, hv, .inr rfl⟩

theorem two_le_length {α : Type} {xs : List α} {a b : α} (ha : a ∈ xs) (hb : b ∈ xs) (ne : a ≠ b) :
    2 ≤ xs.length := by
  match xs with
  | [c] =>
    exact absurd ((List.mem_singleton.1 ha).trans (List.mem_singleton.1 hb).symm) ne
  | _ :: _ :: _ => exact Nat.le_add_left 2 _

/-- An index that answers every valid query holds no two documents with texts in one field of which
the first has a NUL. -/
theorem nul_notMem_of_answers (room : settings.maxPageSize.lt (.whole 1) = false)
    (answers : ∀ q, (validate settings q).1 = .ok [] →
      ∃ r, (e.search settings index millis q).result = .ok r)
    {d d' : Document} (hd : d ∈ index.documents) (hd' : d' ∈ index.documents) (ne : d ≠ d')
    {s s' : String} (hs : d.key f = .ok (.text s)) (hs' : d'.key f = .ok (.text s')) :
    '\x00' ∉ s.toList := by
  by_cases json : f.kind = .json
  · exact Document.nul_notMem_of_json json hs
  intro nul
  have compiles : (eitherText f s s').compile = _ :=
    compile_eitherText (Document.key_isOfKind hs) json
  -- other documents are kept out, since their texts could part the two in the sort
  have accepts (d : Document) : (eitherText f s s').Accepts d ↔
      d.value f = .ok (.text s) ∨ d.value f = .ok (.text s') := accepts_eitherText_iff compiles
  obtain ⟨p, hp, -⟩ := ofQuery_probe (f := f) room compiles
  obtain ⟨items, ranked, accepted, mem⟩ := ranked_probe hp (timed_of_answers room answers)
  have first : ⟨d, 0⟩ ∈ items :=
    mem d hd ((accepts d).2 (.inl (Document.value_of_key_text json hs)))
  have second : ⟨d', 0⟩ ∈ items :=
    mem d' hd' ((accepts d').2 (.inr (Document.value_of_key_text json hs')))
  have alike : ∀ a ∈ items, ∃ t, a.document.key f = .ok (.text t) ∧
      (t = s' ∨ '\x00' ∈ t.toList) := by
    intro a ha
    rcases (accepts a.document).1 (accepted a ha) with h | h
    · exact ⟨s, by rw [Document.key, h]; rfl, .inr nul⟩
    · exact ⟨s', by rw [Document.key, h]; rfl, .inl rfl⟩
  have several : 2 ≤ items.length := by
    refine two_le_length first second ?_
    intro eq
    exact ne (congrArg Scored.document eq)
  have stops : Sorting.sort compare p.sort items = .error .embeddedNul := by
    rw [(Plan.does_of_ofQuery hp).sort]
    exact Sorting.sort_eq_error alike several ⟨_, first, s, hs, nul⟩
  obtain ⟨r, answered⟩ := answers _ (validate_eq_ok_nil hp)
  obtain ⟨sorted, found⟩ := exists_found_of_search hp answered
  rw [Plan.found, ranked] at found
  cases stops.symm.trans found

end Engine

/-! ## Two parcels

Two orders that are known by their numbers, and a search that lists them by number. -/

/-- Whether the text in a field of a document holds a NUL. -/
def Document.hasNul (d : Document) (f : Field) : Bool :=
  match d.key f with
  | .ok (.text s) => s.toList.contains '\x00'
  | _ => false

/-- Documents without a NUL collate. -/
theorem Document.collates_of_hasNul {d e : Document} (hd : ∀ f, d.hasNul f = false)
    (he : ∀ f, e.hasNul f = false) : d.Collates e := by
  intro f s t hs ht
  have first := hd f
  have second := he f
  simp only [hasNul, hs, ht, List.contains_eq_mem, decide_eq_false_iff_not] at first second
  exact ⟨first, second⟩

namespace Parcels

/-- An order with a number and a time of creation. -/
def order (id number created : String) : Order := .ofAttributes
  [("id", .str id), ("order_number", .str number), ("created_at", .str created)]

/-- The search. -/
def query : Query := .simple {
  text := none
  searchFields := []
  filters := []
  sort := [⟨"orderNumber", .ascending⟩]
  paging := .default
  options := .default
  facetFields := none }

/-- Two orders, of which the first has the given number. -/
def orders (number : String) : List Order :=
  [order "1" number "2024-06-01T12:00:00", order "2" "a" "2024-06-02T12:00:00"]

/-- One order that was created before the first moment of the calendar. -/
def early : List Order := [order "1" "b" "0001-01-01T00:00:00+01:00"]

theorem answerable : (Order.indexAll .empty 0 (orders "b")).1.Answerable := by
  have timed : ∀ d ∈ (Order.indexAll .empty 0 (orders "b")).1.documents,
      (∀ t ∈ d.createdAt, t.utc? ≠ none) ∧ ∀ t ∈ d.updatedAt, t.utc? ≠ none := by
    decide +kernel
  have free : ∀ d ∈ (Order.indexAll .empty 0 (orders "b")).1.documents,
      ∀ f ∈ Field.all, d.hasNul f = false := by
    decide +kernel
  constructor
  · intro d hd
    exact ⟨(timed d hd).1, (timed d hd).2⟩
  · intro d hd e he _
    exact Document.collates_of_hasNul (fun f => free d hd f f.mem_all)
      fun f => free e he f f.mem_all

end Parcels

namespace Engine

/-- An index into which orders have been put answers every valid query, whatever was searched
before, exactly if its documents can be looked at and compared. -/
theorem answers_all_iff (settings : Settings) (sound : settings.Sound)
    (room : settings.maxPageSize.lt (.whole 1) = false) (orders : List Order) (millis : Float) :
    (∀ (e : Engine) (elapsed : Float) (q : Query), (validate settings q).1 = .ok [] →
      ∃ r, (e.search settings (Order.indexAll .empty millis orders).1 elapsed q).result = .ok r) ↔
      (Order.indexAll .empty millis orders).1.Answerable := by
  constructor
  · intro answers
    have answer := answers (.start none) 0
    refine ⟨timed_of_answers room answer, ?_⟩
    intro d hd d' hd' ne f s s' hs hs'
    exact ⟨nul_notMem_of_answers room answer hd hd' ne hs hs',
      nul_notMem_of_answers room answer hd' hd ne.symm hs' hs⟩
  · intro answerable e elapsed q valid
    exact search_answers sound answerable valid


/-- Every valid query for two parcels without a NUL in their numbers is answered. -/
theorem answers_all_parcels : Settings.default.Sound ∧
    Settings.default.maxPageSize.lt (.whole 1) = false ∧
    ∀ (e : Engine) (elapsed : Float) (q : Query), (validate .default q).1 = .ok [] →
      ∃ r, (e.search .default (Order.indexAll .empty 0 (Parcels.orders "b")).1 elapsed q).result =
        .ok r :=
  ⟨Settings.sound_default, rfl,
    (answers_all_iff .default Settings.sound_default rfl (Parcels.orders "b") 0).2
      Parcels.answerable⟩

/-- A valid query fails over a parcel with a NUL in its number, and over one from before the first
moment of the calendar. -/
theorem not_answers_parcels :
    (validate .default Parcels.query).1 = .ok [] ∧
      ¬(∃ r, ((start none).search .default (Order.indexAll .empty 0 (Parcels.orders "b\x00")).1 0
        Parcels.query).result = .ok r) ∧
      ¬(∃ r, ((start none).search .default (Order.indexAll .empty 0 Parcels.early).1 0
        Parcels.query).result = .ok r) :=
  ⟨rfl, Except.not_exists_eq_ok (by decide +kernel), Except.not_exists_eq_ok (by decide +kernel)⟩

end Engine

end OrderRetrieval
