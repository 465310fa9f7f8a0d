import OrderRetrieval.Popularity.Suggestion
import OrderRetrieval.Proofs.Popularity.Limit

/-!
# What completes a query

Suggestions are sorted by their scores, but they come in that order already: popular terms by
falling counts, none of them below one, and then the order numbers with the score one
(`Suggestion.falling_append`).  So the suggestions are the popular terms that contain the query,
followed by the order numbers, up to the limit (`Suggestion.forPartial_completes`).
-/

namespace OrderRetrieval

/-- Every term that a history holds was counted. -/
theorem History.Counts.held_pos {h : History} {recorded : List String}
    (counts : h.Counts recorded) : ∀ e ∈ h.held, 0 < e.2 := by
  obtain ⟨tally, shared⟩ := h
  intro e he
  cases shared with
  | none =>
    obtain ⟨entry, mem, rfl⟩ := List.mem_map.1 he
    exact Int.natCast_pos.2 (counts.own.pos entry mem)
  | some s =>
    obtain ⟨⟨t, x⟩, mem, rfl⟩ := List.mem_map.1 he
    obtain ⟨count, holds, -⟩ := counts.shared s rfl
    obtain ⟨pos, rfl⟩ := (holds.mem_iff t x).1 mem
    rw [SharedStore.reading_counted pos]
    exact Int.natCast_pos.2 (Double.counted_pos pos)

namespace Suggestion

variable {part : List Char} {listed : List (String × Int)} {documents : List Document}

theorem fromTerms_eq_map (part : List Char) (listed : List (String × Int)) :
    fromTerms part listed =
      (listed.filter fun (term, _) => part <:+: term.toList ∧ term.toList ≠ part).map
        fun (term, count) => ⟨term, .popularTerm, count⟩ := by
  unfold fromTerms
  congr 2
  funext e
  rw [Bool.eq_iff_iff]
  simp only [Bool.and_eq_true, Text.occursIn_iff, bne_iff_ne, decide_eq_true_eq]

theorem fromOrders_eq_map (part : List Char) (documents : List Document) :
    fromOrders part documents =
      (documents.filter fun d =>
          d.orderNumber ≠ "" ∧ part <:+: Text.lowerChars d.orderNumber.toList).map
        fun d => ⟨d.orderNumber, .orderNumber, 1⟩ := by
  unfold fromOrders
  congr 2
  funext d
  rw [Bool.eq_iff_iff]
  simp only [Bool.and_eq_true, Text.occursIn_iff, Bool.not_eq_true', String.isEmpty_eq_false_iff,
    decide_eq_true_eq, ne_eq]

theorem source_of_mem_fromTerms {s : Suggestion} (h : s ∈ fromTerms part listed) :
    s.source = .popularTerm := by
  obtain ⟨e, -, rfl⟩ := List.mem_map.1 h
  rfl

theorem score_of_mem_fromOrders {s : Suggestion} (h : s ∈ fromOrders part documents) :
    s.score = 1 := by
  obtain ⟨d, -, rfl⟩ := List.mem_map.1 h
  rfl

/-- Terms by falling counts, all of them positive, and order numbers come by falling scores. -/
theorem falling_append (falling : listed.Pairwise fun a b => b.2 ≤ a.2)
    (pos : ∀ e ∈ listed, 0 < e.2) (part : List Char) (documents : List Document) :
    (fromTerms part listed ++ fromOrders part documents).Pairwise
      fun a b => b.score ≤ a.score := by
  refine List.pairwise_append.2 ⟨?terms, ?orders, ?both⟩
  case terms => exact List.pairwise_map.2 (falling.filter _)
  case orders =>
    refine List.pairwise_map.2 (List.pairwise_of_forall fun _ _ => ?_)
    exact Int.le_refl 1
  case both =>
    intro a ha b hb
    obtain ⟨e, he, rfl⟩ := List.mem_map.1 ha
    rw [score_of_mem_fromOrders hb]
    exact pos e (List.mem_of_mem_filter he)

theorem ordered_of_falling {ss : List Suggestion}
    (falling : ss.Pairwise fun a b => b.score ≤ a.score) : ordered ss = ss :=
  List.mergeSort_of_pairwise (falling.imp decide_eq_true)

/-- A suggestion that is an order number comes after all terms. -/
theorem fromTerms_prefix {orders : List Suggestion} {limit : Nat} {s : Suggestion}
    (mem : s ∈ (fromTerms part listed ++ orders).take limit) (source : s.source = .orderNumber) :
    fromTerms part listed <+: (fromTerms part listed ++ orders).take limit := by
  rcases Nat.le_total limit (fromTerms part listed).length with cut | room
  · rw [List.take_append_of_le_length cut] at mem
    rw [source_of_mem_fromTerms (List.mem_of_mem_take mem)] at source
    cases source
  · refine List.prefix_of_prefix_length_le (List.prefix_append _ _) (List.take_prefix _ _) ?_
    rw [List.length_take, List.length_append]
    omega

/-- What is suggested before it is sorted, of what is listed as popular. -/
theorem forPartial_eq {h : History} (popular : h.popular none = (.ok listed, []))
    (settings : Settings) (index : Index) (text : String) (limit : Int) :
    forPartial settings index h (some text) (.whole limit) =
      (.ok (if text = "" ∨ limit ≤ 0 ∨
          (Quantity.whole (partialWord text).length).lt settings.suggestionMinLength = true then []
        else (ordered (fromTerms (partialWord text) listed ++
          fromOrders (partialWord text) index.documents)).take limit.toNat), []) := by
  have none : (Quantity.whole limit).le (.whole 0) = true ↔ limit ≤ 0 := by
    simp only [Quantity.le, Quantity.lt, Quantity.same, Bool.or_eq_true, decide_eq_true_eq,
      beq_iff_eq]
    omega
  simp only [forPartial, popular, Bool.or_eq_true, String.isEmpty_iff, none, or_assoc]
  split <;> rfl

/-- Whatever was recorded, and whatever the index has: a query in the making that is neither empty
nor too short is completed by the popular terms that contain it, in the order in which they are
listed, and then by the order numbers that contain it, in the order of the index.  The limit may cut
the list, whose scores never rise, and no order number is in it before all the terms are. -/
theorem forPartial_completes (settings : Settings) (shared : Option Bool)
    (events : List History.Event) (index : Index) (limit : Int) :
    let h := History.after settings (.start (shared.map .empty)) events
    (∀ s ∈ h.shared, s.fault .read = none) →
    (∀ s ∈ h.shared, s.members.length ≤ SharedStore.scanSize) →
      forPartial settings index h none (.whole limit) = (.ok [], []) ∧
      ∃ listed, h.popular none = (.ok listed, []) ∧ h.Lists listed ∧ ∀ text : String,
        let part := partialWord text
        let terms : List Suggestion :=
          (listed.filter fun (term, _) => part <:+: term.toList ∧ term.toList ≠ part).map
            fun (term, count) => ⟨term, .popularTerm, count⟩
        let orders : List Suggestion :=
          (index.documents.filter fun d =>
            d.orderNumber ≠ "" ∧ part <:+: Text.lowerChars d.orderNumber.toList).map
            fun d => ⟨d.orderNumber, .orderNumber, 1⟩
        let found := if text = "" ∨ limit ≤ 0 ∨
            (Quantity.whole part.length).lt settings.suggestionMinLength = true then []
          else (terms ++ orders).take limit.toNat
        forPartial settings index h (some text) (.whole limit) = (.ok found, []) ∧
          found.Pairwise (fun a b => b.score ≤ a.score) ∧
          ∀ s ∈ found, s.source = .orderNumber → terms <+: found := by
  intro h works scanned
  have counts : h.Counts (History.recorded settings events) := History.counts_after shared events
  obtain ⟨listed, popular, lists⟩ := History.exists_lists (counts.readable works scanned)
  refine ⟨rfl, listed, popular, lists, fun text => ?_⟩
  intro part terms orders
  have pos : ∀ e ∈ listed, 0 < e.2 := fun e he => counts.held_pos e (lists.perm.mem_iff.1 he)
  have falling := falling_append lists.falling pos part index.documents
  have answer := forPartial_eq popular settings index text limit
  rw [ordered_of_falling falling] at answer
  have first : fromTerms part listed = terms := fromTerms_eq_map part listed
  have last : fromOrders part index.documents = orders := fromOrders_eq_map part _
  rw [← first, ← last]
  refine ⟨answer, ?falling, ?terms⟩
  case falling =>
    split
    · exact .nil
    · exact falling.sublist (List.take_sublist _ _)
  case terms =>
    split
    · exact List.forall_mem_nil _
    · exact fun s mem source => fromTerms_prefix mem source

/-- A query in the making with two terms and an order number that contain it. -/
theorem forPartial_completes_ship :
    let h := History.after Settings.default (.start (some (.empty true)))
      [.record (some "shipped shipped shipping")]
    let index : Index :=
      ⟨[{ (default : Document) with orderNumber := "SHIP-001" }], List.nodup_singleton _⟩
    (∀ s ∈ h.shared, s.fault .read = none) ∧
      (∀ s ∈ h.shared, s.members.length ≤ SharedStore.scanSize) ∧
      forPartial Settings.default index h (some "ship") (.whole 10) =
        (.ok [⟨"shipped", .popularTerm, 2⟩, ⟨"shipping", .popularTerm, 1⟩,
          ⟨"SHIP-001", .orderNumber, 1⟩], []) := by
  intro h index
  have works : ∀ s ∈ h.shared, s.fault .read = none := by
    rintro s ⟨⟩
    rfl
  have scanned : ∀ s ∈ h.shared, s.members.length ≤ SharedStore.scanSize := by
    rintro s ⟨⟩
    decide
  obtain ⟨-, listed, popular, -, each⟩ := forPartial_completes Settings.default (some true)
    [.record (some "shipped shipped shipping")] index 10 works scanned
  have same : [("shipped", 2), ("shipping", 1)] = listed := by
    have known : h.popular none = (.ok [("shipped", 2), ("shipping", 1)], []) := rfl
    exact Except.ok.inj (Prod.mk.inj (known.symm.trans popular)).1
  rw [← same] at each
  exact ⟨works, scanned, (each "ship").1⟩

end Suggestion

end OrderRetrieval
