import Mathlib.Logic.Function.Basic
import OrderRetrieval.Popularity.History
import OrderRetrieval.Proofs.Popularity.Shared
import OrderRetrieval.Proofs.Popularity.Tally

/-!
# Histories that share a store

Services count the terms of their queries side by side in one store.  A query is counted in the
tally of its service at once.  In the store its terms are counted one after the other, which then is
trimmed; commands of other calls may come in between.

As long as the different terms fit into the store and into the tallies, nothing is ever dropped:
every tally has the terms of its own queries, and the store has counted all terms but those that
calls in flight have still to count (`Run.exact`).
-/

namespace OrderRetrieval

/-- A service that records queries: its settings, and whether its client hands members of the store
back as texts. -/
structure Recorder where
  settings : Settings
  handsTexts : Bool

/-- A call in flight, with the terms that it has still to count in the store before it trims it. -/
structure StoreCall (ι : Type) where
  caller : ι
  terms : List String

/-- The tallies of services, the members of the store that they share and the calls in flight. -/
structure Sharing (ι : Type) where
  tallies : ι → Tally
  members : SortedSet
  calls : List (StoreCall ι)

namespace Sharing

variable {ι : Type} (recorders : ι → Recorder)

/-- Nothing counted yet. -/
def start : Sharing ι := ⟨fun _ => [], [], []⟩

/-- The store as the client of a service has it.  It does what it is asked to do. -/
def store (s : Sharing ι) (i : ι) : SharedStore :=
  { SharedStore.empty (recorders i).handsTexts with members := s.members }

/-- The history of a service. -/
def history (s : Sharing ι) (i : ι) : History := ⟨s.tallies i, some (s.store recorders i)⟩

/-- The terms of queries that count, each query with the service that records it. -/
def recorded (queries : List (ι × Option String)) : List String :=
  queries.flatMap fun (i, text) => History.terms (recorders i).settings text

/-- The number of different terms. -/
def distinct (queries : List (ι × Option String)) : Nat :=
  (recorded recorders queries).eraseDups.length

/-- Whether the different terms fit into every tally, and into the store whoever trims it. -/
def Fits (queries : List (ι × Option String)) : Prop :=
  ∀ i, (recorders i).settings.historySize.lt (.whole (distinct recorders queries)) = false

/-- The terms that calls in flight have still to count. -/
def waiting (s : Sharing ι) : List String := s.calls.flatMap StoreCall.terms

section Queries

variable {recorders}
variable {queries more : List (ι × Option String)}

theorem recorded_append (queries more : List (ι × Option String)) :
    recorded recorders (queries ++ more) = recorded recorders queries ++ recorded recorders more :=
  List.flatMap_append

theorem distinct_le_append (queries more : List (ι × Option String)) :
    distinct recorders queries ≤ distinct recorders (queries ++ more) := by
  refine length_eraseDups_le ?_
  rw [recorded_append]
  exact List.subset_append_left _ _

theorem Fits.lt_eq_false (fits : Fits recorders queries) (i : ι) {n : Nat}
    (le : n ≤ distinct recorders queries) :
    (recorders i).settings.historySize.lt (.whole n) = false :=
  Bool.eq_false_iff.2 fun less =>
    Bool.eq_false_iff.1 (fits i) (Quantity.lt_whole_mono (Int.ofNat_le.2 le) less)

theorem Fits.of_append (fits : Fits recorders (queries ++ more)) : Fits recorders queries :=
  fun i => fits.lt_eq_false i (distinct_le_append queries more)

end Queries

/-! ## Steps -/

variable [DecidableEq ι]

/-- The terms of the queries of one service. -/
def recordedBy (i : ι) (queries : List (ι × Option String)) : List String :=
  recorded recorders (queries.filter fun q => q.1 = i)

/-- A service counts a query in its tally.  If it has terms, and the tally could be trimmed, a call
is in flight then. -/
def receive (s : Sharing ι) (i : ι) (text : Option String) : Sharing ι :=
  match History.terms (recorders i).settings text with
  | [] => s
  | terms =>
    let tally := (s.tallies i).addAll terms
    match tally.trim (recorders i).settings.historySize with
    | .ok kept =>
      { s with tallies := Function.update s.tallies i kept, calls := ⟨i, terms⟩ :: s.calls }
    | .error _ => { s with tallies := Function.update s.tallies i tally }

/-- One step, with the queries that are received in it. -/
inductive Step : Sharing ι → List (ι × Option String) → Sharing ι → Prop
  /-- A query is received. -/
  | receive {s : Sharing ι} {i : ι} {text : Option String} :
      Step s [(i, text)] (s.receive recorders i text)
  /-- A call counts its next term in the store. -/
  | count {s : Sharing ι} {i : ι} {term : String} {terms : List String}
      (before after : List (StoreCall ι))
      (inFlight : s.calls = before ++ ⟨i, term :: terms⟩ :: after) :
      Step s []
        { s with
          members := ((s.store recorders i).addTerm term (.int 1)).2.1.members
          calls := before ++ ⟨i, terms⟩ :: after }
  /-- A call that has counted its terms trims the store and is over. -/
  | trim {s : Sharing ι} {i : ι} (before after : List (StoreCall ι))
      (inFlight : s.calls = before ++ ⟨i, []⟩ :: after) :
      Step s []
        { s with
          members := ((s.store recorders i).trim (recorders i).settings.historySize).2.1.members
          calls := before ++ after }

/-- Steps after each other, with all queries that are received in them. -/
inductive Run : Sharing ι → List (ι × Option String) → Sharing ι → Prop
  | nil {s : Sharing ι} : Run s [] s
  | snoc {s t u : Sharing ι} {queries more : List (ι × Option String)} (run : Run s queries t)
      (step : Step recorders t more u) : Run s (queries ++ more) u

variable {recorders}
variable {s t u : Sharing ι} {queries more : List (ι × Option String)}

theorem Run.step (step : Step recorders s queries t) : Run recorders s queries t :=
  .snoc .nil step

theorem Run.trans (first : Run recorders s queries t) (second : Run recorders t more u) :
    Run recorders s (queries ++ more) u := by
  induction second with
  | nil => rwa [List.append_nil]
  | snoc _ step ih =>
    rw [← List.append_assoc]
    exact ih.snoc step

/-! ## A call on its own -/

/-- A call that no other one interrupts counts its terms and trims the store. -/
theorem run_recordShared {i : ι} {terms : List String} {calls : List (StoreCall ι)}
    (inFlight : s.calls = ⟨i, terms⟩ :: calls) :
    Run recorders s []
      { s with
        members :=
          (History.recordShared (recorders i).settings terms (s.store recorders i)).1.members
        calls } := by
  induction terms generalizing s with
  | nil => exact .step (.trim [] calls inFlight)
  | cons term terms ih =>
    have first : Run recorders s [] _ := .step (.count [] calls inFlight)
    exact first.trans (ih rfl)

/-- A service that records a query without interruption leaves behind what steps do. -/
theorem run_record (s : Sharing ι) (i : ι) (text : Option String) :
    ∃ t, Run recorders s [(i, text)] t ∧ t.calls = s.calls ∧
      t.history recorders i =
        ((s.history recorders i).record (recorders i).settings text).state := by
  have received : Run recorders s [(i, text)] (s.receive recorders i text) := .step .receive
  cases terms : History.terms (recorders i).settings text with
  | nil =>
    refine ⟨_, received, ?_⟩
    simp only [receive, History.record, terms]
    exact ⟨trivial, rfl⟩
  | cons first rest =>
    cases kept : ((s.tallies i).addAll (first :: rest)).trim (recorders i).settings.historySize with
    | error e =>
      refine ⟨_, received, ?_⟩
      simp only [receive, terms, kept, History.record, History.trimTally, history,
        Function.update_self]
      exact ⟨trivial, rfl⟩
    | ok tally =>
      have counts : (s.receive recorders i text).calls = ⟨i, first :: rest⟩ :: s.calls := by
        simp only [receive, terms, kept]
      refine ⟨_, received.trans (run_recordShared counts), rfl, ?_⟩
      simp only [receive, terms, kept, History.record, History.trimTally, history,
        Function.update_self]
      have kin : (s.store recorders i).Kin
          (History.recordShared (recorders i).settings (first :: rest) (s.store recorders i)).1 :=
        (SharedStore.kin_addTerms _ (first :: rest)).trans
          (SharedStore.kin_trim _ (recorders i).settings.historySize)
      exact congrArg (fun store => History.mk tally (some store)) kin.symm

/-- Queries may be recorded one after the other. -/
theorem run_in_turn (queries : List (ι × Option String)) :
    ∃ s, Run recorders start queries s ∧ s.calls = [] := by
  induction queries using List.reverseRecOn with
  | nil => exact ⟨start, .nil, rfl⟩
  | append_singleton queries q ih =>
    obtain ⟨s, run, done⟩ := ih
    obtain ⟨t, more, calls, -⟩ := run_record s q.1 q.2
    exact ⟨t, run.trans more, calls.trans done⟩

/-! ## Nothing is dropped -/

theorem recordedBy_append (i : ι) (queries more : List (ι × Option String)) :
    recordedBy recorders i (queries ++ more) =
      recordedBy recorders i queries ++ recordedBy recorders i more := by
  rw [recordedBy, List.filter_append, recorded_append]
  rfl

theorem recordedBy_concat (i j : ι) (text : Option String) :
    recordedBy recorders j (queries ++ [(i, text)]) =
      recordedBy recorders j queries ++
        if i = j then History.terms (recorders i).settings text else [] := by
  rw [recordedBy_append]
  by_cases same : i = j
  · simp [recordedBy, recorded, same]
  · simp [recordedBy, recorded, same]

theorem recordedBy_subset (i : ι) (queries : List (ι × Option String)) :
    recordedBy recorders i queries ⊆ recorded recorders queries := by
  intro t ht
  obtain ⟨q, hq, ht⟩ := List.mem_flatMap.1 ht
  exact List.mem_flatMap.2 ⟨q, List.mem_of_mem_filter hq, ht⟩

/-- Whether the tallies hold the terms of their own queries, and the store all terms but those that
are waiting. -/
structure Exact (recorders : ι → Recorder) (queries : List (ι × Option String)) (s : Sharing ι) :
    Prop where
  own : ∀ i, s.tallies i = Tally.addAll [] (recordedBy recorders i queries)
  shared : ∃ count : String → Nat, s.members.Holds count ∧
    ∀ t, count t + s.waiting.count t = (recorded recorders queries).count t

/-- The members of the store are terms that were recorded. -/
theorem Exact.length_le (exact : Exact recorders queries s) :
    s.members.length ≤ distinct recorders queries := by
  obtain ⟨count, holds, total⟩ := exact.shared
  refine holds.length_le fun t pos => List.mem_eraseDups.2 ?_
  have := total t
  exact List.count_pos_iff.1 (by omega)

/-- What is received is counted in the tally and waits to be counted in the store. -/
theorem Exact.receive_eq (exact : Exact recorders queries s) {i : ι} {text : Option String}
    (fits : Fits recorders (queries ++ [(i, text)])) :
    (s.receive recorders i text).tallies = Function.update s.tallies i
        (Tally.addAll [] (recordedBy recorders i (queries ++ [(i, text)]))) ∧
      (s.receive recorders i text).members = s.members ∧
      (s.receive recorders i text).waiting =
        History.terms (recorders i).settings text ++ s.waiting := by
  have own : recordedBy recorders i (queries ++ [(i, text)]) =
      recordedBy recorders i queries ++ History.terms (recorders i).settings text := by
    rw [recordedBy_concat, if_pos rfl]
  have small : (Tally.addAll [] (recordedBy recorders i (queries ++ [(i, text)]))).length ≤
      distinct recorders (queries ++ [(i, text)]) := by
    rw [Tally.length_addAll]
    exact length_eraseDups_le (recordedBy_subset i _)
  -- The tally has no more terms than all services together have recorded, so it is not trimmed.
  have kept := Tally.trim_of_room (fits.lt_eq_false i small)
  rw [own] at kept ⊢
  cases terms : History.terms (recorders i).settings text with
  | nil =>
    simp only [Sharing.receive, terms, List.append_nil, ← exact.own, Function.update_eq_self]
    exact ⟨trivial, trivial, rfl⟩
  | cons first rest =>
    rw [terms] at kept
    simp only [Sharing.receive, terms, exact.own, Tally.addAll_addAll, kept]
    exact ⟨trivial, trivial, rfl⟩

theorem Exact.receive (exact : Exact recorders queries s) {i : ι} {text : Option String}
    (fits : Fits recorders (queries ++ [(i, text)])) :
    Exact recorders (queries ++ [(i, text)]) (s.receive recorders i text) := by
  obtain ⟨count, holds, total⟩ := exact.shared
  obtain ⟨tallies, members, waiting⟩ := exact.receive_eq fits
  constructor
  · intro j
    rw [tallies]
    by_cases same : j = i
    · rw [same, Function.update_self]
    · rw [Function.update_of_ne same, exact.own, recordedBy_concat, if_neg (Ne.symm same),
        List.append_nil]
  · refine ⟨count, members ▸ holds, fun t => ?_⟩
    have before := total t
    have new : recorded recorders [(i, text)] = History.terms (recorders i).settings text :=
      List.flatMap_singleton _ _
    rw [waiting, recorded_append, new, List.count_append, List.count_append]
    omega

/-- A term that is counted waits no longer. -/
theorem Exact.count (exact : Exact recorders queries s) {i : ι} {term : String}
    {terms : List String} {before after : List (StoreCall ι)}
    (inFlight : s.calls = before ++ ⟨i, term :: terms⟩ :: after) :
    Exact recorders queries
      { s with
        members := ((s.store recorders i).addTerm term (.int 1)).2.1.members
        calls := before ++ ⟨i, terms⟩ :: after } := by
  obtain ⟨count, holds, total⟩ := exact.shared
  have one : ((s.store recorders i).addTerm term (.int 1)).2.1.members =
      s.members.increase term 1 := by
    rw [SharedStore.addTerm_one rfl]
    rfl
  refine ⟨exact.own, _, one ▸ holds.increase term, fun t => ?_⟩
  have before := total t
  simp only [waiting, inFlight, List.flatMap_append, List.flatMap_cons, List.count_append,
    List.count_cons, beq_iff_eq, @eq_comm _ term] at before ⊢
  omega

/-- No term is trimmed away. -/
theorem Exact.trim (exact : Exact recorders queries s) (fits : Fits recorders queries) {i : ι}
    {before after : List (StoreCall ι)} (inFlight : s.calls = before ++ ⟨i, []⟩ :: after) :
    Exact recorders queries
      { s with
        members := ((s.store recorders i).trim (recorders i).settings.historySize).2.1.members
        calls := before ++ after } := by
  obtain ⟨count, holds, total⟩ := exact.shared
  have kept : ((s.store recorders i).trim (recorders i).settings.historySize).2.1.members =
      s.members := by
    rw [SharedStore.trim_of_room (fits.lt_eq_false i exact.length_le)]
    rfl
  have same : waiting { s with calls := before ++ after } = s.waiting := by
    simp only [waiting, inFlight, List.flatMap_append, List.flatMap_cons, List.nil_append]
  exact ⟨exact.own, count, kept ▸ holds, fun t => same ▸ total t⟩

/-- One step keeps what is held exact. -/
theorem Step.exact (step : Step recorders s more t) (fits : Fits recorders (queries ++ more))
    (exact : Exact recorders queries s) : Exact recorders (queries ++ more) t := by
  cases step with
  | receive => exact exact.receive fits
  | count before after inFlight => exact (List.append_nil queries).symm ▸ exact.count inFlight
  | trim before after inFlight =>
    exact (List.append_nil queries).symm ▸ exact.trim fits.of_append inFlight

/-- Nothing was recorded at the start. -/
theorem exact_start : Exact recorders [] (start : Sharing ι) where
  own _ := rfl
  shared := ⟨_, SortedSet.holds_nil, fun _ => rfl⟩

/-- As long as the different terms fit, what is held is exact. -/
theorem Run.exact (run : Run recorders start queries s) (fits : Fits recorders queries) :
    Exact recorders queries s := by
  induction run with
  | nil => exact exact_start
  | snoc _ step ih => exact step.exact fits (ih fits.of_append)

end Sharing

end OrderRetrieval
