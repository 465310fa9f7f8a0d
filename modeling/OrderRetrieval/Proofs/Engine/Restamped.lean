import OrderRetrieval.Engine.Search
import OrderRetrieval.Proofs.Filter.Restamped

/-!
# Timestamps written in other ways

What a search answers depends on the moments for which timestamps stand, not on how they are
written: neither in documents nor in the dates of a query.  Documents written with other offsets are
filtered, sorted, counted, grouped and found alike (`Document.answers_restamped`).
-/

namespace OrderRetrieval

open List (Forall₂)

/-! ## Queries -/

/-- A range of dates and the same with its ends written in another way. -/
inductive DateRange.Restamped (r : DateRange) : DateRange → Prop
  | mk {start finish : Calendar.Timestamp} (sameStart : r.start.SameInstant start)
    (sameFinish : r.finish.SameInstant finish) : Restamped r { r with start, finish }

/-- A range of numbers and the same, or one of dates given by numbers and another with the same
moments. -/
inductive NumberRange.Restamped (r : NumberRange) : NumberRange → Prop
  | refl : Restamped r r
  | dates {f : Field} {least greatest : Float} (named : Field.ofName? r.field = some f)
    (date : f.kind = .date)
    (sameLeast : (Datum.float r.least).toMoment = (Datum.float least).toMoment)
    (sameGreatest : (Datum.float r.greatest).toMoment = (Datum.float greatest).toMoment) :
    Restamped r { r with least, greatest }

/-- A query and the same with dates written in other ways. -/
inductive Query.Restamped : Query → Query → Prop
  | simple (q : SimpleQuery) {filters : List Condition}
    (sameFilters : Forall₂ Condition.Restamped q.filters filters) :
    Restamped (.simple q) (.simple { q with filters })
  | advanced (q : AdvancedQuery) {filters : List Condition} {dateRange : Option DateRange}
    {numberRange : Option NumberRange}
    (sameFilters : Forall₂ Condition.Restamped q.filters filters)
    (sameDates : Option.Rel DateRange.Restamped q.dateRange dateRange)
    (sameNumbers : Option.Rel NumberRange.Restamped q.numberRange numberRange) :
    Restamped (.advanced q) (.advanced { q with filters, dateRange, numberRange })

/-- Whether conditions stand for the same tests one by one, or are at fault alike. -/
abbrev Condition.CompileAlike (cs cs' : List Condition) : Prop :=
  Forall₂ (fun c c' => Except.Alike Failure.Restamped Eq c.compile c'.compile) cs cs'

namespace Plan

theorem rangeConditions_restamped {q : AdvancedQuery} {filters : List Condition}
    {dateRange : Option DateRange} {numberRange : Option NumberRange}
    (sameDates : Option.Rel DateRange.Restamped q.dateRange dateRange)
    (sameNumbers : Option.Rel NumberRange.Restamped q.numberRange numberRange) :
    Condition.CompileAlike (rangeConditions q)
      (rangeConditions { q with filters, dateRange, numberRange }) := by
  unfold rangeConditions
  dsimp only
  generalize q.dateRange = dates at sameDates ⊢
  generalize q.numberRange = numbers at sameNumbers ⊢
  refine List.rel_append ?_ ?_
  · cases sameDates with
    | none => exact .nil
    | some same =>
      obtain ⟨sameStart, sameFinish⟩ := same
      exact .cons (Condition.compile_between_restamped sameStart sameFinish _) .nil
  · cases sameNumbers with
    | none => exact .nil
    | some same =>
      refine .cons ?_ .nil
      cases same with
      | refl => exact .refl _
      | dates named date sameLeast sameGreatest =>
        have bounds := Datum.Restamped.dates (.cons sameLeast (.cons sameGreatest .nil))
        exact (Condition.Restamped.value named date bounds).compile

/-- A query with dates written in other ways comes to the same plan, with the same faults. -/
theorem ofQuery_restamped (settings : Settings) {q q' : Query} (same : q.Restamped q') :
    Except.Alike Failure.Restamped
      (fun a a' => a.1 = a'.1 ∧ a.1.predicate.IgnoresStamps ∧
        Forall₂ QueryFault.Restamped a.2 a'.2)
      (ofQuery settings q) (ofQuery settings q') := by
  have unchanged (fs : List QueryFault) : Forall₂ QueryFault.Restamped fs fs :=
    List.forall₂_same.2 fun f _ => .refl f
  cases same with
  | simple q sameFilters =>
    refine (Condition.compileEach_restamped (sameFilters.imp fun _ _ h => h.compile)).map ?_
    rintro ⟨tests, faults⟩ ⟨_, faults'⟩ ⟨rfl, sameFaults⟩
    exact ⟨rfl, Predicate.ignoresStamps_combine tests .all,
      List.rel_append (unchanged _) sameFaults⟩
  | advanced q sameFilters sameDates sameNumbers =>
    refine (Condition.compileEach_restamped (sameFilters.imp fun _ _ h => h.compile)).bind ?_
    rintro ⟨tests, faults⟩ ⟨_, faults'⟩ ⟨rfl, sameFaults⟩
    refine (Condition.compileEach_restamped
      (rangeConditions_restamped sameDates sameNumbers)).bind ?_
    rintro ⟨ranges, rangeFaults⟩ ⟨_, rangeFaults'⟩ ⟨rfl, sameRangeFaults⟩
    have combined := Predicate.ignoresStamps_combine tests q.combinator
    refine .ok ⟨rfl, ?_, List.rel_append (List.rel_append (unchanged _) sameFaults)
      sameRangeFaults⟩
    dsimp only
    split
    · exact combined
    · refine Predicate.IgnoresStamps.combine (List.forall_mem_cons.2 ⟨combined, ?_⟩) .all
      exact List.forall_mem_map.2 fun t _ => Predicate.ignoresStamps_holds t

end Plan

/-! ## Searches -/

/-- A hit and the same with its document stamped anew. -/
inductive Hit.Restamped (h : Hit) : Hit → Prop
  | mk {d : Document} (same : h.document.Restamped d) : Restamped h { h with document := d }

/-- A result and the same with the documents on its page stamped anew. -/
inductive SearchResult.Restamped (r : SearchResult) : SearchResult → Prop
  | mk {items : List Hit} (same : Forall₂ Hit.Restamped r.items items) :
    Restamped r { r with items }

theorem SearchResult.restamped_mk {items items' : List Hit}
    (same : Forall₂ Hit.Restamped items items') (total pages : Nat) (paging : Paging)
    (millis : Float) (suggestions : List Suggestion) (facets : List (Field × Facet.Counts))
    (range : Option MomentRange) :
    Restamped ⟨items, total, paging, pages, millis, suggestions, facets, range⟩
      ⟨items', total, paging, pages, millis, suggestions, facets, range⟩ := .mk same

section Search

variable {settings : Settings} {index index' : Index}
  (same : Forall₂ Document.Restamped index.documents index'.documents)

include same

namespace Plan

theorem ranked_restamped {p : Plan} (ignores : p.predicate.IgnoresStamps) :
    Except.Alike Eq (Forall₂ Scored.Restamped) (p.ranked index) (p.ranked index') := by
  refine (ignores.select same).bind fun ds ds' selected => ?_
  refine Except.Alike.bind (R := Eq) (.refl _) ?_
  rintro matcher _ rfl
  refine (matcher.rank_restamped selected _).bind fun hits hits' ranked => .ok ?_
  rw [List.forall₂_map_left_iff, List.forall₂_map_right_iff]
  refine ranked.imp ?_
  rintro ⟨d, n⟩ ⟨d', _⟩ ⟨sameDocument, rfl⟩
  exact .mk sameDocument

theorem found_restamped {p : Plan} (ignores : p.predicate.IgnoresStamps) :
    Except.Alike Eq (Forall₂ Scored.Restamped) (p.found index).result (p.found index').result := by
  have ranked := ranked_restamped same ignores
  unfold found
  revert ranked
  generalize p.ranked index = items
  generalize p.ranked index' = items'
  intro ranked
  cases ranked with
  | error h => exact .error h
  | ok h => exact Sorting.sort_restamped h compare p.sort

omit same in
theorem hit_restamped {a a' : Scored Nat} (sameItem : a.Restamped a') (p : Plan) :
    (p.hit a).Restamped (p.hit a') := by
  cases sameItem with
  | mk sameDocument =>
    unfold hit
    rw [sameDocument.highlights_eq]
    exact .mk sameDocument

end Plan

omit same in
theorem Suggestion.fromOrders_eq (part : List Char) (ds : List Document) :
    fromOrders part ds = ((ds.map Document.orderNumber).filter fun number =>
      !number.isEmpty && Text.occursIn part (Text.lowerChars number.toList)).map
        (⟨·, .orderNumber, 1⟩) := by
  rw [List.filter_map, List.map_map]
  rfl

theorem Suggestion.forPartial_eq_of_restamped (h : History) (text : Option String)
    (limit : Quantity) : forPartial settings index h text limit =
      forPartial settings index' h text limit := by
  have numbers : index.documents.map Document.orderNumber =
      index'.documents.map Document.orderNumber :=
    map_eq_of_restamped same fun _ _ h => h.orderNumber_eq
  simp only [forPartial, fromOrders_eq, numbers]

omit same in
theorem Plan.overview_eq_of_restamped {ds ds' : List Document}
    (same : Forall₂ Document.Restamped ds ds') (names : List Datum) :
    overview names ds = overview names ds' := by
  simp only [overview, Facet.ofFields_eq_of_restamped same, dateRange_eq_of_restamped same]

namespace Engine

theorem consult_eq_of_restamped (e : Engine) (p : Plan) :
    e.consult settings index p = e.consult settings index' p := by
  simp only [consult, Suggestion.forPartial_eq_of_restamped same]

theorem execute_restamped (e : Engine) (millis : Float) {p : Plan}
    (ignores : p.predicate.IgnoresStamps) :
    Except.Alike Eq SearchResult.Restamped (e.execute settings index millis p).result
      (e.execute settings index' millis p).result := by
  have found : Except.Alike Eq (fun a a' => Forall₂ Scored.Restamped a.1 a'.1 ∧ a.2 = a'.2)
      (do .ok (← (p.found index).result, ← p.facetNames settings) :
        Except Failure (List (Scored Nat) × List Datum))
      (do .ok (← (p.found index').result, ← p.facetNames settings)) := by
    refine (Plan.found_restamped same ignores).bind fun items items' sameItems => ?_
    refine Except.Alike.bind (R := Eq) (.refl _) ?_
    rintro names _ rfl
    exact .ok ⟨sameItems, rfl⟩
  unfold execute
  dsimp only
  revert found
  generalize (do .ok (← (p.found index).result, ← p.facetNames settings) :
    Except Failure (List (Scored Nat) × List Datum)) = x
  generalize (do .ok (← (p.found index').result, ← p.facetNames settings) :
    Except Failure (List (Scored Nat) × List Datum)) = x'
  intro found
  cases found with
  | error h => exact .error h
  | @ok a a' h =>
    obtain ⟨items, names⟩ := a
    obtain ⟨items', _⟩ := a'
    obtain ⟨sameItems, rfl⟩ := h
    dsimp only
    rw [consult_eq_of_restamped same]
    refine Reply.alike_bind (R := Eq) (.refl _) ?_
    rintro suggestions _ rfl
    have documents :
        Forall₂ Document.Restamped (items.map Scored.document) (items'.map Scored.document) := by
      rw [List.forall₂_map_left_iff, List.forall₂_map_right_iff]
      refine sameItems.imp ?_
      rintro _ _ ⟨sameDocument⟩
      exact sameDocument
    have page :
        Forall₂ Hit.Restamped ((p.pageOf items).map p.hit) ((p.pageOf items').map p.hit) := by
      rw [List.forall₂_map_left_iff, List.forall₂_map_right_iff]
      refine List.Forall₂.imp (fun _ _ h => Plan.hit_restamped h p) ?_
      exact List.forall₂_take _ (List.forall₂_drop _ sameItems)
    rw [Plan.overview_eq_of_restamped documents, sameItems.length_eq]
    refine Except.Alike.map (R := Eq) (.refl _) ?_
    rintro ⟨facets, range⟩ _ rfl
    exact SearchResult.restamped_mk page ..

/-- A search answers alike for documents and queries whose dates are written in other ways. -/
theorem search_restamped (e : Engine) (millis : Float) {q q' : Query} (dates : q.Restamped q') :
    Except.Alike Failure.Restamped SearchResult.Restamped
      (e.search settings index millis q).result (e.search settings index' millis q').result := by
  have planned := Plan.ofQuery_restamped settings dates
  unfold search
  revert planned
  generalize Plan.ofQuery settings q = x
  generalize Plan.ofQuery settings q' = x'
  intro planned
  cases planned with
  | error h => exact .error h
  | @ok a a' h =>
    obtain ⟨plan, faults⟩ := a
    obtain ⟨_, faults'⟩ := a'
    obtain ⟨rfl, ignores, sameFaults⟩ := h
    dsimp only
    cases sameFaults with
    | nil =>
      refine (execute_restamped same e millis ignores).imp ?_ fun _ _ h => h
      rintro failure _ rfl
      exact .refl failure
    | cons head rest => exact .error (.rejected (.cons head rest))

end Engine

end Search

/-! ## Lists of documents -/

/-- The documents that pass some conditions, which are combined in the given way. -/
def Combinator.select (k : Combinator) (cs : List Condition) (ds : List Document) :
    Except Failure (List Document) := do
  let (tests, faults) ← Condition.compileEach cs
  refuse faults
  (Predicate.combine k (tests.map Test.holds)).select ds

theorem Combinator.select_restamped {ds ds' : List Document}
    (same : Forall₂ Document.Restamped ds ds') {cs cs' : List Condition}
    (dates : Forall₂ Condition.Restamped cs cs') (k : Combinator) :
    Except.Alike Failure.Restamped (Forall₂ Document.Restamped) (k.select cs ds)
      (k.select cs' ds') := by
  refine (Condition.compileEach_restamped (dates.imp fun _ _ h => h.compile)).bind ?_
  rintro ⟨tests, faults⟩ ⟨_, faults'⟩ ⟨rfl, sameFaults⟩
  refine (refuse_restamped sameFaults).bind fun _ _ _ => ?_
  refine ((Predicate.ignoresStamps_combine tests k).select same).imp ?_ fun _ _ h => h
  rintro failure _ rfl
  exact .refl failure

theorem Scored.zipWith_restamped {σ : Type} {ds ds' : List Document}
    (same : Forall₂ Document.Restamped ds ds') (scores : List σ) :
    Forall₂ Scored.Restamped (List.zipWith Scored.mk ds scores)
      (List.zipWith Scored.mk ds' scores) := by
  induction same generalizing scores with
  | nil => exact .nil
  | cons head _ ih =>
    cases scores with
    | nil => exact .nil
    | cons score scores => exact .cons (.mk head) (ih scores)

/-- Documents whose timestamps are written in another way, but stand for the same moments, give the
same answers: the same of them pass filters whose dates may be written in other ways too, they are
sorted alike by any keys and scores, have the same facets, range of dates, totals and groups, and
searches find the same of them and report the same about them. -/
theorem Document.answers_restamped {ds ds' : List Document}
    (same : Forall₂ Document.Restamped ds ds') :
    (∀ (k : Combinator) (cs cs' : List Condition), Forall₂ Condition.Restamped cs cs' →
      Except.Alike Failure.Restamped (Forall₂ Document.Restamped) (k.select cs ds)
        (k.select cs' ds')) ∧
    (∀ {σ : Type} (compareScores : σ → σ → Ordering) (specs : List SortSpec) (scores : List σ),
      Except.Alike Eq (Forall₂ Scored.Restamped)
        (Sorting.sort compareScores specs (List.zipWith Scored.mk ds scores))
        (Sorting.sort compareScores specs (List.zipWith Scored.mk ds' scores))) ∧
    (∀ fs, Facet.ofFields fs ds = Facet.ofFields fs ds') ∧
    dateRange ds = dateRange ds' ∧
    aggregate ds = aggregate ds' ∧
    (∀ name, groupBy name ds = groupBy name ds') ∧
    ∀ (settings : Settings) (e : Engine) (millis : Float) (index index' : Index) (q q' : Query),
      index.documents = ds → index'.documents = ds' → q.Restamped q' →
      Except.Alike Failure.Restamped SearchResult.Restamped
        (e.search settings index millis q).result (e.search settings index' millis q').result := by
  refine ⟨?_, ?_, Facet.ofFields_eq_of_restamped same, dateRange_eq_of_restamped same,
    aggregate_eq_of_restamped same, groupBy_eq_of_restamped same, ?_⟩
  · intro k cs cs' dates
    exact Combinator.select_restamped same dates k
  · intro σ compareScores specs scores
    exact Sorting.sort_restamped (Scored.zipWith_restamped same scores) compareScores specs
  · rintro settings e millis index index' q q' rfl rfl dates
    exact Engine.search_restamped same e millis dates

/-! ## Around midnight

Half past one at night, and the same moment on a clock two hours behind. -/

namespace Midnight

open Calendar (Timestamp day second)

/-- Half past one of universal time. -/
def after : Timestamp := ⟨⟨738001 * day + 5400 * second, by decide⟩, none⟩

/-- The same moment on a clock that still shows the day before. -/
def before : Timestamp := ⟨⟨738000 * day + 84600 * second, by decide⟩, some (-7200 * second)⟩

/-- An order of that time. -/
def order (t : Timestamp) : Document := { (default : Document) with createdAt := some t }

/-- The condition that an order was created on the day of that time. -/
def sameDay (t : Timestamp) : Condition := ⟨"createdAt", "equals", .time t, .all⟩

theorem sameInstant : before.SameInstant after := by decide

theorem restamped : Forall₂ Document.Restamped [order before] [order after] :=
  .cons (.mk (.some sameInstant) .none) .nil

theorem sameDay_restamped : Forall₂ Condition.Restamped [sameDay before] [sameDay after] :=
  .cons (.value (f := .createdAt) rfl rfl (.date sameInstant.moment_eq)) .nil

end Midnight

/-- Both clocks lead to the same group and pass the same filter. -/
theorem Document.answers_restamped_midnight :
    Midnight.before.reading.date ≠ Midnight.after.reading.date ∧
      Forall₂ Document.Restamped [Midnight.order Midnight.before]
        [Midnight.order Midnight.after] ∧
      Combinator.all.select [Midnight.sameDay Midnight.before]
        [Midnight.order Midnight.before] = .ok [Midnight.order Midnight.before] ∧
      Except.Alike Failure.Restamped (Forall₂ Document.Restamped)
        (Combinator.all.select [Midnight.sameDay Midnight.before]
          [Midnight.order Midnight.before])
        (Combinator.all.select [Midnight.sameDay Midnight.after]
          [Midnight.order Midnight.after]) ∧
      groupBy (.str "createdAt") [Midnight.order Midnight.before] =
        groupBy (.str "createdAt") [Midnight.order Midnight.after] := by
  obtain ⟨selects, -, -, -, -, groups, -⟩ := answers_restamped Midnight.restamped
  exact ⟨by decide, Midnight.restamped, rfl,
    selects .all _ _ Midnight.sameDay_restamped, groups (.str "createdAt")⟩

end OrderRetrieval
