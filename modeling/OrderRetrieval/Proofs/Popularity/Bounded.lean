import OrderRetrieval.Popularity.History
import OrderRetrieval.Proofs.Outcome
import OrderRetrieval.Proofs.Popularity.Trim

/-!
# Histories stay bounded

What may happen to a history is an event: the terms of a query are recorded, the history is trimmed,
or the store begins to fail at some commands and to do others.  Whatever happened, the tally has no
more terms than it may, no term has a higher count than it was recorded, in the tally as in the
store, and a trim drops what is outranked by all that it keeps (`History.after_bounded`).
-/

namespace OrderRetrieval

/-! ## What tallies count -/

namespace Tally

variable {tally kept : Tally} {recorded : List String}

theorem map_fst_add (tally : Tally) (t : String) :
    (tally.add t).map Prod.fst =
      if t ∈ tally.map Prod.fst then tally.map Prod.fst else tally.map Prod.fst ++ [t] := by
  induction tally with
  | nil => rfl
  | cons e tally ih =>
    obtain ⟨u, n⟩ := e
    unfold add
    by_cases same : u = t
    · simp [same]
    · have different : t ≠ u := Ne.symm same
      rw [if_neg same, List.map_cons, ih]
      simp only [List.map_cons, List.mem_cons, different, false_or]
      split <;> rfl

theorem mem_of_mem_add {t : String} {e : String × Nat} (he : e ∈ tally.add t) :
    e ∈ tally ∨ e = (t, 1) ∨ ∃ n, (t, n) ∈ tally ∧ e = (t, n + 1) := by
  induction tally with
  | nil => exact .inr (.inl (List.mem_singleton.1 he))
  | cons x tally ih =>
    obtain ⟨u, n⟩ := x
    unfold add at he
    split at he
    · next same =>
      rcases List.mem_cons.1 he with rfl | he
      · exact .inr (.inr ⟨n, same ▸ List.mem_cons_self, by rw [same]⟩)
      · exact .inl (List.mem_cons_of_mem _ he)
    · rcases List.mem_cons.1 he with rfl | he
      · exact .inl List.mem_cons_self
      · rcases ih he with there | new | ⟨m, mem, more⟩
        · exact .inl (List.mem_cons_of_mem _ there)
        · exact .inr (.inl new)
        · exact .inr (.inr ⟨m, List.mem_cons_of_mem _ mem, more⟩)

/-- Whether a tally has different terms, each counted at least once and at most as often as it was
recorded. -/
structure Counts (tally : Tally) (recorded : List String) : Prop where
  nodup : (tally.map Prod.fst).Nodup
  pos : ∀ e ∈ tally, 0 < e.2
  le : ∀ e ∈ tally, e.2 ≤ recorded.count e.1

theorem counts_nil : Counts [] recorded where
  nodup := List.nodup_nil
  pos := List.forall_mem_nil _
  le := List.forall_mem_nil _

theorem Counts.add (h : tally.Counts recorded) (t : String) :
    (tally.add t).Counts (recorded ++ [t]) where
  nodup := by
    rw [map_fst_add]
    split
    · exact h.nodup
    · next new =>
      refine List.nodup_append.2 ⟨h.nodup, List.nodup_singleton t, fun u hu v hv same => new ?_⟩
      rw [← List.mem_singleton.1 hv, ← same]
      exact hu
  pos e he := by
    rcases mem_of_mem_add he with there | rfl | ⟨n, -, rfl⟩
    · exact h.pos e there
    · exact Nat.one_pos
    · exact Nat.succ_pos n
  le e he := by
    rw [List.count_append]
    rcases mem_of_mem_add he with there | rfl | ⟨n, mem, rfl⟩
    · exact Nat.le_add_right_of_le (h.le e there)
    · simp
    · have le : n ≤ recorded.count t := h.le (t, n) mem
      simpa using le

theorem Counts.addAll (h : tally.Counts recorded) (ts : List String) :
    (tally.addAll ts).Counts (recorded ++ ts) := by
  induction ts generalizing tally recorded with
  | nil => rwa [List.append_nil]
  | cons t ts ih =>
    have first := ih (h.add t)
    rwa [List.append_assoc] at first

/-- What is left of a tally counts no more. -/
theorem Counts.subperm (h : tally.Counts recorded) (sub : kept.Subperm tally) :
    kept.Counts recorded where
  nodup := nodup_map_of_subperm h.nodup sub
  pos e he := h.pos e (sub.subset he)
  le e he := h.le e (sub.subset he)

theorem subperm_of_trim {size : Quantity} (trimmed : tally.trim size = .ok kept) :
    kept.Subperm tally := by
  have first (n : Nat) : (tally.ranked.take n).Subperm tally :=
    (List.take_sublist n _).subperm.trans (List.mergeSort_perm _ _).subperm
  unfold trim mostCommon at trimmed
  split at trimmed
  · cases size with
    | whole n =>
      cases trimmed
      exact first n.toNat
    | double x =>
      dsimp only at trimmed
      split at trimmed <;> cases trimmed
      exact first 1
  · cases trimmed
    exact .refl _

end Tally

/-! ## What the store counts -/

namespace SortedSet

variable {s : SortedSet} {recorded : List String}

/-- Whether a sorted set holds counts, each at most as high as its term was recorded. -/
def Counts (s : SortedSet) (recorded : List String) : Prop :=
  ∃ count : String → Nat, s.Holds count ∧ ∀ t, count t ≤ recorded.count t

theorem counts_nil : Counts [] recorded := ⟨_, holds_nil, fun _ => Nat.zero_le _⟩

theorem Counts.mono (h : s.Counts recorded) (more : List String) :
    s.Counts (recorded ++ more) := by
  obtain ⟨count, holds, le⟩ := h
  refine ⟨count, holds, fun t => ?_⟩
  rw [List.count_append]
  exact Nat.le_add_right_of_le (le t)

theorem Counts.increase (h : s.Counts recorded) (t : String) :
    (s.increase t 1).Counts (recorded ++ [t]) := by
  obtain ⟨count, holds, le⟩ := h
  refine ⟨_, holds.increase t, fun u => ?_⟩
  have less := le u
  simp only [List.count_append, List.count_singleton, beq_iff_eq, @eq_comm _ t]
  omega

/-- A sorted set still holds the counts of the members that are left in it. -/
theorem Holds.sublist {count : String → Nat} (h : s.Holds count) {kept : SortedSet}
    (sub : kept.Sublist s) :
    kept.Holds fun t => if t ∈ kept.map Prod.fst then count t else 0 where
  nodup := h.nodup.sublist (sub.map Prod.fst)
  mem_iff t x := by
    constructor
    · intro mem
      rw [if_pos (List.mem_map.2 ⟨(t, x), mem, rfl⟩)]
      exact (h.mem_iff t x).1 (sub.mem mem)
    · split
      · next mem =>
        rintro ⟨-, rfl⟩
        obtain ⟨⟨u, y⟩, hu, rfl⟩ := List.mem_map.1 mem
        rwa [← ((h.mem_iff u y).1 (sub.mem hu)).2]
      · rintro ⟨pos, -⟩
        exact absurd pos (Nat.lt_irrefl 0)
  ordered := h.ordered.sublist sub

theorem withoutRange_sublist (s : SortedSet) (start stop : Int) :
    (s.withoutRange start stop).Sublist s := by
  unfold withoutRange
  generalize window s.length start stop = range
  obtain ⟨skipped, taken⟩ := range
  conv_rhs => rw [← List.take_append_drop skipped s]
  refine (List.Sublist.refl _).append ?_
  rw [← List.drop_drop]
  exact List.drop_sublist _ _

theorem Counts.sublist (h : s.Counts recorded) {kept : SortedSet} (sub : kept.Sublist s) :
    kept.Counts recorded := by
  obtain ⟨count, holds, le⟩ := h
  refine ⟨_, holds.sublist sub, fun t => ?_⟩
  split
  · exact le t
  · exact Nat.zero_le _

end SortedSet

namespace SharedStore

variable {s : SharedStore} {recorded : List String}

/-- A command that fails counts nothing. -/
theorem counts_addTerm (h : s.members.Counts recorded) (t : String) :
    (s.addTerm t (.int 1)).2.1.members.Counts (recorded ++ [t]) := by
  have one : (Datum.int 1).toDouble = .ok 1 := rfl
  unfold addTerm reach
  rw [one]
  cases s.fault (.count t) with
  | some reason => exact h.mono [t]
  | none => exact h.increase t

theorem counts_addTerms (h : s.members.Counts recorded) (ts : List String) :
    (s.addTerms ts).1.members.Counts (recorded ++ ts) := by
  induction ts generalizing s recorded with
  | nil => rwa [List.append_nil]
  | cons t ts ih =>
    have rest := ih (counts_addTerm h t)
    rwa [List.append_assoc] at rest

theorem members_trim (works : s.fault .trim = none) (size : Nat) :
    (s.trim (.whole size)).2.1.members = s.members.withoutRange 0 (-((size : Int) + 1)) := by
  unfold trim reach
  rw [works]
  rfl

/-- A trim of whatever size leaves some of the members. -/
theorem counts_trim (h : s.members.Counts recorded) (size : Quantity) :
    (s.trim size).2.1.members.Counts recorded := by
  unfold trim reach
  cases s.fault .trim with
  | some reason => exact h
  | none =>
    cases size with
    | double x => exact h
    | whole n => exact h.sublist (SortedSet.withoutRange_sublist _ _ _)

end SharedStore

/-! ## Events -/

namespace History

/-- What may happen to a history: the terms of a query are recorded, it is trimmed, or its store
begins to fail at some commands. -/
inductive Event where
  | record (text : Option String)
  | trim
  | faults (fault : StoreCommand → Option String)

variable (settings : Settings)

namespace Event

/-- The terms that are recorded. -/
def terms : Event → List String
  | record text => History.terms settings text
  | trim | faults _ => []

/-- Whether the history is trimmed; it is not for a query without terms. -/
def Trims : Event → Prop
  | record text => History.terms settings text ≠ []
  | trim => True
  | faults _ => False

/-- The history after an event. -/
def apply (h : History) : Event → History
  | record text => (h.record settings text).state
  | trim => (h.trim settings).state
  | faults fault => { h with shared := h.shared.map fun s => { s with fault } }

end Event

/-- The history after events, one after the other. -/
def after (h : History) (events : List Event) : History := events.foldl (Event.apply settings) h

/-- The terms that are recorded in events. -/
def recorded (events : List Event) : List String := events.flatMap (Event.terms settings)

/-- The history when terms have been counted, before it is trimmed. -/
def counting (h : History) (terms : List String) : History :=
  ⟨h.tally.addAll terms, h.shared.map fun s => (s.addTerms terms).1⟩

/-- Whether what a history holds was recorded at least as often. -/
structure Counts (h : History) (recorded : List String) : Prop where
  own : h.tally.Counts recorded
  shared : ∀ s ∈ h.shared, s.members.Counts recorded

variable {settings} {size : Nat} (sized : settings.historySize = .whole size)
variable {h : History} {recorded : List String}

theorem after_concat (h : History) (events : List Event) (e : Event) :
    after settings h (events ++ [e]) = e.apply settings (after settings h events) :=
  List.foldl_append

theorem recorded_concat (events : List Event) (e : Event) :
    History.recorded settings (events ++ [e]) =
      History.recorded settings events ++ e.terms settings := by
  rw [History.recorded, List.flatMap_append, List.flatMap_singleton]
  rfl

theorem counts_start (shared : Option Bool) : (start (shared.map .empty)).Counts recorded where
  own := Tally.counts_nil
  shared s hs := by
    obtain ⟨handsTexts, -, rfl⟩ := Option.map_eq_some_iff.1 hs
    exact SortedSet.counts_nil

theorem counting_nil (h : History) : h.counting [] = h := by
  obtain ⟨tally, shared⟩ := h
  cases shared <;> rfl

/-- An event that does not trim a history counts nothing and leaves the tally as it is. -/
theorem Event.apply_of_idle {e : Event} (idle : ¬e.Trims settings) (h : History) :
    e.terms settings = [] ∧ (e.apply settings h).tally = h.tally := by
  cases e with
  | record text =>
    have none : History.terms settings text = [] := Decidable.not_not.1 idle
    refine ⟨none, ?_⟩
    rw [Event.apply, History.record, none]
    rfl
  | trim => exact absurd trivial idle
  | faults fault => exact ⟨rfl, rfl⟩

theorem Counts.counting (counts : h.Counts recorded) (ts : List String) :
    (h.counting ts).Counts (recorded ++ ts) where
  own := counts.own.addAll ts
  shared s hs := by
    obtain ⟨s, mem, rfl⟩ := Option.map_eq_some_iff.1 hs
    exact SharedStore.counts_addTerms (counts.shared s mem) ts

theorem trim_of_ok {kept : Tally} (trimmed : h.tally.trim settings.historySize = .ok kept) :
    (h.trim settings).state =
      ⟨kept, h.shared.map fun s => (s.trim settings.historySize).2.1⟩ := by
  simp only [trim, trimTally, trimmed]
  cases h.shared <;> rfl

theorem trim_of_error {e : Failure} (failed : h.tally.trim settings.historySize = .error e) :
    (h.trim settings).state = h := by
  simp only [trim, trimTally, failed]
  rfl

/-- A query is recorded by counting its terms and trimming the history. -/
theorem record_of_ok {text : Option String} {kept : Tally} (some : terms settings text ≠ [])
    (trimmed : (h.counting (terms settings text)).tally.trim settings.historySize = .ok kept) :
    (h.record settings text).state = ((h.counting (terms settings text)).trim settings).state := by
  rw [trim_of_ok trimmed]
  simp only [counting] at trimmed ⊢
  unfold record
  split
  · next none => exact absurd none some
  · simp only [trimTally, trimmed]
    cases h.shared <;> rfl

/-- If the tally cannot be trimmed, its terms have been counted, but not those of the store. -/
theorem record_of_error {text : Option String} {e : Failure} (some : terms settings text ≠ [])
    (failed : (h.counting (terms settings text)).tally.trim settings.historySize = .error e) :
    (h.record settings text).state = { h with tally := h.tally.addAll (terms settings text) } := by
  simp only [counting] at failed
  unfold record
  split
  · next none => exact absurd none some
  · simp only [trimTally, failed]
    rfl

theorem Counts.trim (counts : h.Counts recorded) : (h.trim settings).state.Counts recorded := by
  cases trimmed : h.tally.trim settings.historySize with
  | error e =>
    rw [trim_of_error trimmed]
    exact counts
  | ok kept =>
    rw [trim_of_ok trimmed]
    refine ⟨counts.own.subperm (Tally.subperm_of_trim trimmed), fun s hs => ?_⟩
    obtain ⟨s, mem, rfl⟩ := Option.map_eq_some_iff.1 hs
    exact SharedStore.counts_trim (counts.shared s mem) _

theorem Counts.record (counts : h.Counts recorded) (text : Option String) :
    (h.record settings text).state.Counts (recorded ++ terms settings text) := by
  by_cases none : terms settings text = []
  · have idle : (h.record settings text).state = h := by
      rw [History.record, none]
      rfl
    rw [idle, none, List.append_nil]
    exact counts
  · cases trimmed : (h.counting (terms settings text)).tally.trim settings.historySize with
    | error e =>
      rw [record_of_error none trimmed]
      exact ⟨counts.own.addAll _, fun s hs => (counts.shared s hs).mono _⟩
    | ok kept =>
      rw [record_of_ok none trimmed]
      exact (counts.counting _).trim

/-- One event leaves no more counted than was recorded. -/
theorem Counts.apply (counts : h.Counts recorded) (e : Event) :
    (e.apply settings h).Counts (recorded ++ e.terms settings) := by
  cases e with
  | record text => exact counts.record text
  | trim => exact (List.append_nil recorded).symm ▸ counts.trim
  | faults fault =>
    refine (List.append_nil recorded).symm ▸ ⟨counts.own, fun s hs => ?_⟩
    obtain ⟨s, mem, rfl⟩ := Option.map_eq_some_iff.1 hs
    exact counts.shared s mem

/-- Whatever happened, no more is counted than was recorded. -/
theorem counts_after (shared : Option Bool) (events : List Event) :
    (after settings (start (shared.map .empty)) events).Counts
      (History.recorded settings events) := by
  induction events using List.reverseRecOn with
  | nil => exact counts_start shared
  | append_singleton events e ih =>
    rw [after_concat, recorded_concat]
    exact ih.apply e

include sized

/-- A trim reaches the tally and the store. -/
theorem exists_trim (nodup : (h.tally.map Prod.fst).Nodup) :
    ∃ kept, h.tally.trim settings.historySize = .ok kept ∧
      KeepsHighest size h.tally.Outranks h.tally kept ∧
      (h.trim settings).state = ⟨kept, h.shared.map fun s => (s.trim (.whole size)).2.1⟩ := by
  obtain ⟨kept, trimmed, keeps⟩ := Tally.exists_trim nodup size
  rw [← sized] at trimmed ⊢
  exact ⟨kept, trimmed, keeps, trim_of_ok trimmed⟩

/-- An event that trims a history counts its terms first. -/
theorem Counts.apply_eq (counts : h.Counts recorded) {e : Event} (trims : e.Trims settings) :
    e.apply settings h = ((h.counting (e.terms settings)).trim settings).state := by
  cases e with
  | record text =>
    obtain ⟨kept, trimmed, -⟩ := exists_trim sized (counts.counting (terms settings text)).own.nodup
    exact record_of_ok trims trimmed
  | trim =>
    rw [Event.terms, counting_nil]
    rfl
  | faults fault => cases trims

/-- Of the counted terms the tally keeps the highest. -/
theorem Counts.keeps_tally (counts : h.Counts recorded) {e : Event} (trims : e.Trims settings) :
    KeepsHighest size (h.counting (e.terms settings)).tally.Outranks
      (h.counting (e.terms settings)).tally (e.apply settings h).tally := by
  obtain ⟨kept, -, keeps, state⟩ :=
    exists_trim sized (counts.counting (e.terms settings)).own.nodup
  rw [counts.apply_eq sized trims, state]
  exact keeps

/-- Of the counted terms a store that does not fail to trim keeps the highest. -/
theorem Counts.keeps_shared (counts : h.Counts recorded) {e : Event} (trims : e.Trims settings)
    {s : SharedStore} (hs : s ∈ (h.counting (e.terms settings)).shared)
    (works : s.fault .trim = none) :
    ∃ s' ∈ (e.apply settings h).shared,
      KeepsHighest size SortedSet.Outranks s.members s'.members := by
  have counted := counts.counting (e.terms settings)
  obtain ⟨kept, -, -, state⟩ := exists_trim sized counted.own.nodup
  obtain ⟨count, holds, -⟩ := counted.shared s hs
  rw [counts.apply_eq sized trims, state]
  refine ⟨_, Option.mem_map_of_mem _ hs, ?_⟩
  rw [SharedStore.members_trim works]
  exact holds.keepsHighest size

/-- The tally has room for what is in it. -/
theorem length_after_le (shared : Option Bool) (events : List Event) :
    (after settings (start (shared.map .empty)) events).tally.length ≤ size := by
  induction events using List.reverseRecOn with
  | nil => exact Nat.zero_le size
  | append_singleton events e ih =>
    rw [after_concat]
    by_cases trims : e.Trims settings
    · exact ((counts_after shared events).keeps_tally sized trims).length_le
    · rw [(Event.apply_of_idle trims _).2]
      exact ih

/-- Whatever was recorded, whenever the history was trimmed and whatever the store failed at: the
tally has no more terms than it may, and no term is counted more often than it was recorded.  The
next event that trims drops only terms that are outranked by all that it keeps, in the tally and, if
this can be trimmed, in the store, which has no more terms than it may then. -/
theorem after_bounded (shared : Option Bool) (events : List Event) :
    let h := after settings (start (shared.map .empty)) events
    h.tally.length ≤ size ∧
      (∀ e ∈ h.tally, e.2 ≤ (History.recorded settings events).count e.1) ∧
      (∀ s ∈ h.shared, ∀ e ∈ s.members,
        (Quantity.double e.2).le (.whole ((History.recorded settings events).count e.1)) = true) ∧
      ∀ event : Event, event.Trims settings →
        let counted := h.counting (event.terms settings)
        let trimmed := event.apply settings h
        KeepsHighest size counted.tally.Outranks counted.tally trimmed.tally ∧
          ∀ s ∈ counted.shared, s.fault .trim = none →
            ∃ s' ∈ trimmed.shared, s'.members.length ≤ size ∧
              KeepsHighest size SortedSet.Outranks s.members s'.members := by
  intro h
  have counts : h.Counts (History.recorded settings events) := counts_after shared events
  refine ⟨length_after_le sized shared events, counts.own.le, fun s hs e he => ?_, ?_⟩
  · obtain ⟨count, holds, le⟩ := counts.shared s hs
    obtain ⟨pos, score⟩ := (holds.mem_iff e.1 e.2).1 he
    rw [score]
    exact Double.countUp_le pos (le e.1)
  · intro event trims
    refine ⟨counts.keeps_tally sized trims, fun s hs works => ?_⟩
    obtain ⟨s', hs', keeps⟩ := counts.keeps_shared sized trims hs works
    exact ⟨s', hs', keeps.length_le, keeps⟩

omit sized in
/-- There is room for one term, and another one that has been counted more often comes in. -/
theorem after_bounded_bravo :
    let settings := { Settings.default with historySize := .whole 1 }
    let h := after settings (start (some (.empty true))) [.record (some "alpha alpha")]
    let event := Event.record (some "bravo bravo bravo")
    settings.historySize = .whole (1 : Nat) ∧ event.Trims settings ∧
      h.tally = [("alpha", 2)] ∧
      KeepsHighest 1 (Tally.Outranks [("alpha", 2), ("bravo", 3)]) [("alpha", 2), ("bravo", 3)]
        (event.apply settings h).tally ∧
      ∃ s ∈ (event.apply settings h).shared, s.members.length ≤ 1 := by
  intro settings h event
  obtain ⟨-, -, -, next⟩ :=
    @after_bounded settings 1 rfl (some true) [.record (some "alpha alpha")]
  have trims : event.Trims settings := by
    change History.terms settings (some "bravo bravo bravo") ≠ []
    decide
  obtain ⟨tally, shared⟩ := next event trims
  have kept : h.tally = [("alpha", 2)] := by decide
  have counted : (h.counting (event.terms settings)).tally = [("alpha", 2), ("bravo", 3)] := by
    decide
  refine ⟨rfl, trims, kept, ?_, ?_⟩
  · rw [← counted]
    exact tally
  · obtain ⟨s, hs, le, -⟩ := shared _ rfl rfl
    exact ⟨s, hs, le⟩

end History

end OrderRetrieval
