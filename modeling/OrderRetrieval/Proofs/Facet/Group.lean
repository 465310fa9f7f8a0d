import OrderRetrieval.Facet.Aggregate
import OrderRetrieval.Facet.Group
import OrderRetrieval.Proofs.Different
import OrderRetrieval.Proofs.Number.Sum
import OrderRetrieval.Proofs.Outcome

/-!
# What groups hold

There is one bucket for each value that was met, in the order in which the values were first met,
and it has received the amounts of the entries with its value in their order (`bucketsOf_eq`).  So
its count is the number of these entries (`Bucket.count_of_mem`), and its sum is that of their
amounts (`Bucket.amountSum_gathered`).
-/

namespace OrderRetrieval

attribute [ext] Bucket

/-- What documents contribute to their groups: a value and an amount each. -/
abbrev GroupEntries := List (Option String × Float)

namespace Bucket

/-- The bucket with one more document of that amount. -/
def receive (b : Bucket) (amount : Float) : Bucket :=
  { b with count := b.count + 1, amountSum := b.amountSum + contribution amount }

/-- The bucket that the entries with a value fill, one after the other. -/
def gathered (entries : GroupEntries) (value : Option String) : Bucket :=
  (entries.filter (·.1 = value)).foldl (fun b entry => b.receive entry.2) ⟨value, 0, 0⟩

/-! ## One bucket -/

section Gathered

variable {entries : GroupEntries} {value : Option String}

theorem gathered_concat (entries : GroupEntries) (entry : Option String × Float)
    (value : Option String) :
    gathered (entries ++ [entry]) value =
      if entry.1 = value then (gathered entries value).receive entry.2
      else gathered entries value := by
  unfold gathered
  rw [List.filter_append, List.foldl_append]
  split
  · next same => simp [same]
  · next other => simp [other]

@[simp] theorem value_gathered (entries : GroupEntries) (value : Option String) :
    (gathered entries value).value = value := by
  induction entries using List.reverseRecOn with
  | nil => rfl
  | append_singleton entries entry ih =>
    rw [gathered_concat]
    split
    · exact ih
    · exact ih

/-- A bucket counts the entries with its value. -/
theorem count_gathered (entries : GroupEntries) (value : Option String) :
    (gathered entries value).count = entries.countP (·.1 = value) := by
  induction entries using List.reverseRecOn with
  | nil => rfl
  | append_singleton entries entry ih =>
    rw [gathered_concat, List.countP_append, List.countP_singleton, ← ih]
    split
    · next same => simp [receive, same]
    · next other => simp [other]

/-- A zero is taken for the positive one, which makes no difference to a sum. -/
theorem add_contribution {sum : Float} (h : ¬Double.IsMinusZero sum) (x : Float) :
    sum + contribution x = sum + x := by
  unfold contribution
  split
  · next zero => exact (Double.add_zero_eq h zero).symm
  · rfl

theorem amountSum_foldl_receive {b : Bucket} (h : ¬Double.IsMinusZero b.amountSum)
    (entries : GroupEntries) :
    (entries.foldl (fun b entry => b.receive entry.2) b).amountSum =
      (entries.map Prod.snd).foldl (· + ·) b.amountSum := by
  induction entries generalizing b with
  | nil => rfl
  | cons entry entries ih =>
    have received : (b.receive entry.2).amountSum = b.amountSum + entry.2 :=
      add_contribution h entry.2
    have next : ¬Double.IsMinusZero (b.receive entry.2).amountSum := by
      rw [received]
      exact Double.add_ne_minusZero h entry.2
    rw [List.foldl_cons, ih next, received, List.map_cons, List.foldl_cons]

/-- A bucket sums up the amounts of the entries with its value, in their order. -/
theorem amountSum_gathered (entries : GroupEntries) (value : Option String) :
    (gathered entries value).amountSum =
      sumAmounts ((entries.filter (·.1 = value)).map Prod.snd) :=
  amountSum_foldl_receive (b := ⟨value, 0, 0⟩) Double.zero_ne_minusZero _

/-- The bucket of a value that was not met is empty. -/
theorem gathered_of_notMem (new : value ∉ entries.map Prod.fst) :
    gathered entries value = ⟨value, 0, 0⟩ := by
  have none : entries.filter (·.1 = value) = [] := by
    rw [List.filter_eq_nil_iff]
    intro entry mem same
    exact new (List.mem_map.2 ⟨entry, mem, of_decide_eq_true same⟩)
  rw [gathered, none]
  rfl

end Gathered

/-! ## All buckets -/

/-- A document goes into the bucket with its value, or into a new one at the end. -/
theorem add_map {values : List (Option String)} (nodup : values.Nodup)
    {bucket : Option String → Bucket} (own : ∀ v, (bucket v).value = v) (value : Option String)
    (amount : Float) :
    add value amount (values.map bucket) =
      if value ∈ values then
        values.map fun v => if value = v then (bucket v).receive amount else bucket v
      else values.map bucket ++ [receive ⟨value, 0, 0⟩ amount] := by
  induction values with
  | nil => simp [add, receive]
  | cons v values ih =>
    obtain ⟨fresh, nodup⟩ := List.nodup_cons.1 nodup
    rw [List.map_cons, add]
    by_cases same : v = value
    · subst same
      have others : ∀ w ∈ values,
          (if v = w then (bucket w).receive amount else bucket w) = bucket w := by
        intro w hw
        rw [if_neg]
        rintro rfl
        exact fresh hw
      rw [if_pos (own v), if_pos List.mem_cons_self, List.map_cons, if_pos rfl,
        List.map_congr_left others]
      rfl
    · have different : value ≠ v := Ne.symm same
      rw [own, if_neg same, ih nodup]
      by_cases mem : value ∈ values
      · simp [mem, different]
      · simp [mem, different]

end Bucket

open Bucket

/-- There is one bucket for each value, in the order in which the values were first met. -/
theorem bucketsOf_eq (entries : GroupEntries) :
    bucketsOf entries = (entries.map Prod.fst).eraseDups.map (gathered entries) := by
  induction entries using List.reverseRecOn with
  | nil => rfl
  | append_singleton entries entry ih =>
    obtain ⟨value, amount⟩ := entry
    have last : bucketsOf (entries ++ [(value, amount)]) = add value amount (bucketsOf entries) :=
      List.foldl_append
    have step : gathered (entries ++ [(value, amount)]) = fun v =>
        if value = v then (gathered entries v).receive amount else gathered entries v :=
      funext (gathered_concat entries (value, amount))
    rw [last, ih, add_map (nodup_eraseDups (entries.map Prod.fst)) (value_gathered entries),
      List.map_append, List.map_singleton, eraseDups_concat, step]
    simp only [List.mem_eraseDups]
    split
    · rfl
    · next new =>
      have others : ∀ v ∈ (entries.map Prod.fst).eraseDups,
          (if value = v then (gathered entries v).receive amount else gathered entries v) =
            gathered entries v := by
        intro v hv
        rw [if_neg]
        rintro rfl
        exact new (List.mem_eraseDups.1 hv)
      rw [List.map_append, List.map_congr_left others, List.map_singleton, if_pos rfl,
        gathered_of_notMem new]

/-- Buckets stand in the order in which their values were first met. -/
theorem map_value_bucketsOf (entries : GroupEntries) :
    (bucketsOf entries).map Bucket.value = (entries.map Prod.fst).eraseDups := by
  rw [bucketsOf_eq, List.map_map]
  exact (List.map_congr_left fun v _ => value_gathered entries v).trans (List.map_id _)

/-- A bucket counts the entries with its value. -/
theorem Bucket.count_of_mem {entries : GroupEntries} {b : Bucket} (mem : b ∈ bucketsOf entries) :
    b.count = entries.countP (·.1 = b.value) := by
  rw [bucketsOf_eq] at mem
  obtain ⟨value, -, rfl⟩ := List.mem_map.1 mem
  rw [count_gathered, value_gathered]

/-- A bucket has the value of an entry. -/
theorem Bucket.value_of_mem {entries : GroupEntries} {b : Bucket} (mem : b ∈ bucketsOf entries) :
    b.value ∈ entries.map Prod.fst := by
  rw [bucketsOf_eq] at mem
  obtain ⟨value, met, rfl⟩ := List.mem_map.1 mem
  rw [value_gathered]
  exact List.mem_eraseDups.1 met

/-! ## Documents in groups -/

/-- Whether a document is grouped under a value of a field. -/
def Document.groupsUnder (d : Document) (f : Field) (value : Option String) : Bool :=
  match d.value f with
  | .ok v => v.groupText? = value
  | .error _ => false

theorem Document.groupsUnder_iff {d : Document} {f : Field} {value : Option String} :
    d.groupsUnder f value = true ↔ ∃ v, d.value f = .ok v ∧ v.groupText? = value := by
  unfold groupsUnder
  cases d.value f <;> simp

section Documents

variable {f : Field} {ds : List Document} {entries : GroupEntries} {buckets : List Bucket}

theorem groupEntry_eq_ok {d : Document} {entry : Option String × Float} :
    groupEntry f d = .ok entry ↔ ∃ v, d.value f = .ok v ∧ (v.groupText?, d.totalAmount) = entry :=
  Except.map_eq_ok

/-- Fields of statuses and dates are grouped by what the documents contribute. -/
theorem groupBy_eq_ok (groupable : f.kind.isGroupable = true) :
    groupBy (.str f.name) ds = .ok buckets ↔
      ∃ entries, ds.mapM (groupEntry f) = .ok entries ∧ bucketsOf entries = buckets := by
  rw [groupBy, Field.resolve_name]
  simp only [groupable, if_true]
  exact Except.map_eq_ok

/-- By other fields documents are not grouped. -/
theorem groupBy_eq_error (other : f.kind.isGroupable = false) :
    groupBy (.str f.name) ds = .error (.ofFault (.unsupportedField f.name)) := by
  rw [groupBy, Field.resolve_name]
  simp only [other, Bool.false_eq_true, if_false]

/-- Documents that all have a value are grouped. -/
theorem exists_groupBy_iff (groupable : f.kind.isGroupable = true) :
    (∃ buckets, groupBy (.str f.name) ds = .ok buckets) ↔ ∀ d ∈ ds, ∃ v, d.value f = .ok v := by
  simp only [groupBy_eq_ok groupable]
  constructor
  · rintro ⟨-, entries, contribute, rfl⟩ d mem
    obtain ⟨entry, one⟩ := Except.exists_of_mapM_eq_ok contribute d mem
    obtain ⟨v, hv, -⟩ := groupEntry_eq_ok.1 one
    exact ⟨v, hv⟩
  · intro valued
    have each : ∀ d ∈ ds, ∃ entry, groupEntry f d = .ok entry := by
      intro d mem
      obtain ⟨v, hv⟩ := valued d mem
      exact ⟨_, groupEntry_eq_ok.2 ⟨v, hv, rfl⟩⟩
    obtain ⟨entries, contribute⟩ := Except.exists_mapM_eq_ok each
    exact ⟨_, entries, contribute, rfl⟩

theorem countP_entries (h : ds.mapM (groupEntry f) = .ok entries) (value : Option String) :
    entries.countP (·.1 = value) = ds.countP (·.groupsUnder f value) := by
  have each : List.Forall₂ (fun d entry => groupEntry f d = .ok entry) ds entries :=
    Except.mapM_eq_ok_iff.1 h
  clear h
  induction each with
  | nil => rfl
  | cons head _ ih =>
    obtain ⟨v, hv, rfl⟩ := groupEntry_eq_ok.1 head
    simp [List.countP_cons, ih, Document.groupsUnder, hv]

/-- A bucket counts the documents under its value, and there is one. -/
theorem bucket_of_groupBy (groupable : f.kind.isGroupable = true)
    (h : groupBy (.str f.name) ds = .ok buckets) {b : Bucket} (mem : b ∈ buckets) :
    (∃ d ∈ ds, d.groupsUnder f b.value = true) ∧
      b.count = ds.countP (·.groupsUnder f b.value) := by
  obtain ⟨entries, contribute, rfl⟩ := (groupBy_eq_ok groupable).1 h
  have count : b.count = ds.countP (·.groupsUnder f b.value) :=
    (Bucket.count_of_mem mem).trans (countP_entries contribute b.value)
  refine ⟨List.countP_pos_iff.1 ?_, count⟩
  obtain ⟨entry, met, value⟩ := List.mem_map.1 (Bucket.value_of_mem mem)
  rw [← countP_entries contribute, List.countP_pos_iff]
  exact ⟨entry, met, decide_eq_true value⟩

end Documents

end OrderRetrieval
