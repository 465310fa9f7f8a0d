import OrderRetrieval.Proofs.Engine.Meaning
import OrderRetrieval.Proofs.Filter.SameDay

/-!
# Groups part the documents

Documents are grouped by their statuses, or by the days of universal time on which their dates fall,
and those without a value make a group of their own (`GroupKey`).  Each document is in one group,
and the bucket of a group counts its documents and sums up their amounts (`groupBy_partitions`).
-/

namespace OrderRetrieval

open Calendar (Date Moment)

/-- What the documents of a group have in common. -/
inductive GroupKey where
  | missing
  | status (s : String)
  | day (d : Date)
deriving DecidableEq, Inhabited

namespace GroupKey

/-- The text of a group; that of missing values has none. -/
def text? : GroupKey → Option String
  | missing => none
  | status s => some s
  | day d => some d.isoText

/-- Whether a group may be one of a field of some kind. -/
def IsOfKind : FieldKind → GroupKey → Prop
  | .enumeration, k => k = missing ∨ ∃ s, k = status s
  | .date, k => k = missing ∨ ∃ m : Moment, k = day m.date
  | _, _ => False

/-- The groups of one field are told apart by their texts. -/
theorem text?_inj {kind : FieldKind} {k l : GroupKey} (hk : k.IsOfKind kind)
    (hl : l.IsOfKind kind) : k.text? = l.text? ↔ k = l := by
  refine ⟨fun same => ?_, congrArg text?⟩
  cases kind with
  | enumeration =>
    rcases hk with rfl | ⟨s, rfl⟩ <;> rcases hl with rfl | ⟨t, rfl⟩
    · rfl
    · cases same
    · cases same
    · exact congrArg status (Option.some.inj same)
  | date =>
    rcases hk with rfl | ⟨m, rfl⟩ <;> rcases hl with rfl | ⟨n, rfl⟩
    · rfl
    · cases same
    · cases same
    · exact congrArg day ((Date.isoText_inj m.isValid_date n.isValid_date).1 (Option.some.inj same))
  | string | nestedPath | numeric | json => exact hk.elim

end GroupKey

/-- The group of a value, if values like it are grouped. -/
def Value.groupKey? : Value → Option GroupKey
  | missing => some .missing
  | text s => some (.status s)
  | moment m => some (.day m.date)
  | _ => none

/-- The group of a document by a field, if it has a value there. -/
def Document.groupKey? (f : Field) (d : Document) : Option GroupKey :=
  match d.value f with
  | .ok v => v.groupKey?
  | .error _ => none

/-- The documents of a group, in their order. -/
def inGroup (f : Field) (k : GroupKey) (ds : List Document) : List Document :=
  ds.filter (·.groupKey? f = some k)

/-- The bucket of a group has its text, counts its documents and sums up their amounts. -/
def groupBucket (f : Field) (ds : List Document) (k : GroupKey) : Bucket where
  value := k.text?
  count := (inGroup f k ds).length
  amountSum := sumAmounts ((inGroup f k ds).map Document.totalAmount)

/-- Whether buckets are those of the groups with some keys, into which a field parts documents. -/
structure Partition (f : Field) (ds : List Document) (keys : List GroupKey)
    (buckets : List Bucket) : Prop where
  /-- There are the groups of the documents and no others. -/
  met : ∀ k, k ∈ keys ↔ ∃ d ∈ ds, d.groupKey? f = some k
  /-- Groups stand in the order in which they were first met. -/
  ordered : keys.Pairwise fun k l =>
    (ds.map (·.groupKey? f)).idxOf (some k) < (ds.map (·.groupKey? f)).idxOf (some l)
  /-- Each document is in one group. -/
  parted : ∀ d ∈ ds, ∃! k, k ∈ keys ∧ d ∈ inGroup f k ds
  /-- Each group has its bucket. -/
  filled : buckets = keys.map (groupBucket f ds)
  /-- Buckets are told apart by their texts. -/
  labelled : (buckets.map Bucket.value).Nodup

/-! ## What a document contributes -/

/-- Whether a document is in a group and contributes to it. -/
structure Document.JoinsGroup (f : Field) (d : Document) (k : GroupKey) : Prop where
  key : d.groupKey? f = some k
  kind : k.IsOfKind f.kind
  entry : groupEntry f d = .ok (k.text?, d.totalAmount)

section Joins

variable {f : Field} {d : Document} {v : Value}

theorem Document.joinsGroup_of_value {k : GroupKey} (shown : d.value f = .ok v)
    (grouped : v.groupKey? = some k) (text : v.groupText? = k.text?) (kind : k.IsOfKind f.kind) :
    d.JoinsGroup f k where
  key := by
    rw [groupKey?, shown]
    exact grouped
  kind := kind
  entry := groupEntry_eq_ok.2 ⟨v, shown, by rw [text]⟩

theorem Document.exists_joinsGroup (kind : f.kind = .enumeration ∨ f.kind = .date)
    (timed : d.Timed) : ∃ k, d.JoinsGroup f k := by
  obtain ⟨v, shown⟩ := timed.value f
  rcases kind with kind | kind
  · rcases value_of_enumeration kind shown with rfl | ⟨s, rfl⟩
    · exact ⟨.missing, joinsGroup_of_value shown rfl rfl (kind ▸ .inl rfl)⟩
    · exact ⟨.status s, joinsGroup_of_value shown rfl rfl (kind ▸ .inr ⟨s, rfl⟩)⟩
  · rcases value_of_date kind shown with rfl | ⟨m, rfl⟩
    · exact ⟨.missing, joinsGroup_of_value shown rfl rfl (kind ▸ .inl rfl)⟩
    · exact ⟨.day m.date, joinsGroup_of_value shown rfl rfl (kind ▸ .inr ⟨m, rfl⟩)⟩

end Joins

/-! ## All documents -/

/-- How often a list has each of its different items makes its length. -/
theorem sum_count_eraseDups {α : Type} [DecidableEq α] (xs : List α) :
    (xs.eraseDups.map xs.count).sum = xs.length := by
  have perm : xs.eraseDups.Perm xs.dedup := by
    refine (List.perm_ext_iff_of_nodup (nodup_eraseDups xs) xs.nodup_dedup).2 fun x => ?_
    rw [List.mem_eraseDups, List.mem_dedup]
  rw [(perm.map xs.count).sum_nat]
  exact List.sum_map_count_dedup_eq_length xs

/-- The keys of documents, each where it was first met. -/
def metKeys (key : Document → GroupKey) (ds : List Document) : List GroupKey :=
  (ds.map key).eraseDups

/-- What documents with these keys contribute to their groups. -/
def entriesOf (key : Document → GroupKey) (ds : List Document) : GroupEntries :=
  ds.map fun d => ((key d).text?, d.totalAmount)

theorem map_fst_entriesOf (key : Document → GroupKey) (ds : List Document) :
    (entriesOf key ds).map Prod.fst = (ds.map key).map GroupKey.text? := by
  rw [entriesOf, List.map_map, List.map_map]
  rfl

theorem map_snd_entriesOf (key : Document → GroupKey) (ds : List Document) :
    (entriesOf key ds).map Prod.snd = ds.map Document.totalAmount := by
  rw [entriesOf, List.map_map]
  rfl

section Groups

variable {f : Field} {ds : List Document} {key : Document → GroupKey}
  (joins : ∀ d ∈ ds, d.JoinsGroup f (key d))

theorem mem_metKeys {k : GroupKey} : k ∈ metKeys key ds ↔ ∃ d ∈ ds, key d = k := by
  rw [metKeys, List.mem_eraseDups, List.mem_map]

include joins

theorem inGroup_eq (k : GroupKey) : inGroup f k ds = ds.filter (key · = k) := by
  refine List.filter_congr fun d hd => ?_
  rw [(joins d hd).key]
  simp only [Option.some.injEq]

theorem idxOf_groupKey? (k : GroupKey) :
    (ds.map (·.groupKey? f)).idxOf (some k) = (ds.map key).idxOf k := by
  have keys : ds.map (·.groupKey? f) = (ds.map key).map some := by
    rw [List.map_map]
    exact List.map_congr_left fun d hd => (joins d hd).key
  rw [keys, List.idxOf, List.findIdx_map]
  rfl

/-- The entries of a group are those of its documents. -/
theorem filter_entriesOf {k : GroupKey} (met : k ∈ metKeys key ds) :
    (entriesOf key ds).filter (·.1 = k.text?) = entriesOf key (inGroup f k ds) := by
  obtain ⟨e, he, rfl⟩ := mem_metKeys.1 met
  rw [entriesOf, List.filter_map, inGroup_eq joins]
  refine congrArg (entriesOf key) (List.filter_congr fun d hd => ?_)
  simp only [Function.comp, GroupKey.text?_inj (joins d hd).kind (joins e he).kind]

/-- The bucket of a group holds what its documents contribute. -/
theorem gathered_of_mem_metKeys {k : GroupKey} (met : k ∈ metKeys key ds) :
    Bucket.gathered (entriesOf key ds) k.text? = groupBucket f ds k := by
  have entries := filter_entriesOf joins met
  have count : (Bucket.gathered (entriesOf key ds) k.text?).count = (inGroup f k ds).length := by
    rw [Bucket.count_gathered, List.countP_eq_length_filter, entries]
    exact List.length_map _
  have sum := Bucket.amountSum_gathered (entriesOf key ds) k.text?
  rw [entries, map_snd_entriesOf] at sum
  exact Bucket.ext (Bucket.value_gathered (entriesOf key ds) k.text?) count sum

/-- The buckets of documents that join groups are those of their groups. -/
theorem bucketsOf_entriesOf :
    bucketsOf (entriesOf key ds) = (metKeys key ds).map (groupBucket f ds) := by
  have inj : ∀ k ∈ ds.map key, ∀ l ∈ ds.map key, k.text? = l.text? → k = l := by
    simp only [List.forall_mem_map]
    exact fun d hd e he => (GroupKey.text?_inj (joins d hd).kind (joins e he).kind).1
  rw [bucketsOf_eq, map_fst_entriesOf, eraseDups_map inj, List.map_map]
  exact List.map_congr_left fun k met => gathered_of_mem_metKeys joins met

theorem partition_metKeys :
    Partition f ds (metKeys key ds) (bucketsOf (entriesOf key ds)) where
  met k := by
    rw [mem_metKeys]
    refine exists_congr fun d => and_congr_right fun hd => ?_
    rw [(joins d hd).key, Option.some.injEq]
  ordered := by
    simp only [idxOf_groupKey? joins]
    exact pairwise_eraseDups (ds.map key)
  parted d hd := by
    simp only [inGroup_eq joins, List.mem_filter, decide_eq_true_eq]
    refine ⟨key d, ⟨mem_metKeys.2 ⟨d, hd, rfl⟩, hd, rfl⟩, ?_⟩
    rintro k ⟨-, -, rfl⟩
    rfl
  filled := bucketsOf_entriesOf joins
  labelled := by
    rw [map_value_bucketsOf]
    exact nodup_eraseDups _

/-- The groups count each document once. -/
theorem sum_count_bucketsOf :
    ((bucketsOf (entriesOf key ds)).map Bucket.count).sum = ds.length := by
  have counts : Bucket.count ∘ groupBucket f ds = (ds.map key).count := by
    funext k
    rw [List.count_eq_countP, List.countP_map, List.countP_eq_length_filter]
    exact congrArg List.length (inGroup_eq joins k)
  rw [bucketsOf_entriesOf joins, List.map_map, counts, ← List.length_map key]
  exact sum_count_eraseDups (ds.map key)

end Groups

/-- **Grouping parts the documents.**  Over documents whose timestamps are moments of the calendar,
grouping by a field of statuses or dates makes one bucket for each different status, or for each
different day of universal time, and one for missing values, in the order in which they were first
met.  Each document is in one group, so the counts are exact and add up to the number of documents
that the totals give; the sum of a bucket is that of the amounts of its own documents, from the
left.  By any other field documents are not grouped. -/
theorem groupBy_partitions (f : Field) (ds : List Document) :
    (f.kind = .enumeration ∨ f.kind = .date → (∀ d ∈ ds, d.Timed) →
      ∃ keys buckets totals, groupBy (.str f.name) ds = .ok buckets ∧ aggregate ds = .ok totals ∧
        Partition f ds keys buckets ∧ (buckets.map Bucket.count).sum = totals.count) ∧
    (¬(f.kind = .enumeration ∨ f.kind = .date) →
      groupBy (.str f.name) ds = .error (.ofFault (.unsupportedField f.name))) := by
  constructor
  · intro kind timed
    have groupable : f.kind.isGroupable = true := by
      rcases kind with kind | kind <;> rw [kind] <;> rfl
    choose! key joins using fun d hd => Document.exists_joinsGroup kind (timed d hd)
    obtain ⟨range, hrange⟩ := dateRange_eq_ok timed
    refine ⟨metKeys key ds, _, _, (groupBy_eq_ok groupable).2 ⟨_, ?_, rfl⟩,
      Except.map_eq_ok.2 ⟨range, hrange, rfl⟩, partition_metKeys joins, sum_count_bucketsOf joins⟩
    exact Except.mapM_eq_ok fun d hd => (joins d hd).entry
  · intro other
    refine groupBy_eq_error ?_
    cases kind : f.kind with
    | enumeration => exact absurd (.inl kind) other
    | date => exact absurd (.inr kind) other
    | _ => rfl

namespace LeapDay

/-- Two orders of the leap day, and between them one without a time. -/
def takings : List Document :=
  [{ order (some finish) with totalAmount := 20 }, order none,
    { order (some finish) with totalAmount := 5 }]

theorem timed_takings : ∀ d ∈ takings, d.Timed := by
  have timed : ∀ t x, (∀ s ∈ t, s.utc? ≠ none) → { order t with totalAmount := x }.Timed :=
    fun t x h => ⟨h, nofun⟩
  have converts : ∀ s ∈ some finish, s.utc? ≠ none := by
    rintro s ⟨⟩
    decide
  simp only [takings, List.forall_mem_cons]
  exact ⟨timed _ 20 converts, timed none _ nofun, timed _ 5 converts, List.forall_mem_nil _⟩

end LeapDay

/-- The orders of the leap day share a bucket, which is met first; by notes they are not grouped. -/
theorem groupBy_partitions_leapDay :
    Field.createdAt.kind = .date ∧ (∀ d ∈ LeapDay.takings, d.Timed) ∧
      (∃ keys buckets totals, groupBy (.str "createdAt") LeapDay.takings = .ok buckets ∧
        aggregate LeapDay.takings = .ok totals ∧
        Partition .createdAt LeapDay.takings keys buckets ∧
        (buckets.map Bucket.count).sum = totals.count ∧
        buckets.map Bucket.value = [some "2024-02-29", none] ∧
        buckets.map Bucket.count = [2, 1]) ∧
      ¬(Field.notes.kind = .enumeration ∨ Field.notes.kind = .date) ∧
      groupBy (.str "notes") LeapDay.takings =
        .error (.ofFault (.unsupportedField Field.notes.name)) := by
  have other : ¬(Field.notes.kind = .enumeration ∨ Field.notes.kind = .date) := by decide
  obtain ⟨keys, buckets, totals, grouped, summed, parts, counts⟩ :=
    (groupBy_partitions .createdAt LeapDay.takings).1 (.inr rfl) LeapDay.timed_takings
  obtain ⟨day, none, evaluated⟩ : ∃ day none,
      groupBy (.str Field.createdAt.name) LeapDay.takings =
        .ok [⟨some "2024-02-29", 2, day⟩, ⟨.none, 1, none⟩] :=
    ⟨_, _, rfl⟩
  cases grouped.symm.trans evaluated
  exact ⟨rfl, LeapDay.timed_takings, ⟨keys, _, totals, grouped, summed, parts, counts, rfl, rfl⟩,
    other, (groupBy_partitions .notes LeapDay.takings).2 other⟩

end OrderRetrieval
