import Mathlib.Data.List.Induction
import OrderRetrieval.Index.Operation
import OrderRetrieval.Proofs.Index.Lookup

/-!
# What a log of writes says

Every operation on the index amounts to some events: a document is written, an id is removed, or
everything is cleared.  The log of these events says by itself what is held under an id
(`Log.LastWritten`), whether anything is (`Log.Holds`) and which of two ids came in first
(`Log.Precedes`).  An operation that is refused, since a text cannot be written, has no events.  An
index follows a log if it says the same (`Index.Follows`); every event keeps that up
(`Follows.step`), and so do operations, whose answers agree with the log as well
(`Follows.performAll`).
-/

namespace OrderRetrieval.Index

/-- What happens to single documents. -/
inductive Event where
  | written (d : Document)
  | removed (id : String)
  | cleared

namespace Event

/-- Whether an event writes a document under an id. -/
def Writes (id : String) : Event → Prop
  | written d => d.id = id
  | removed _ | cleared => False

/-- Whether an event takes out whatever is held under an id. -/
def Removes (id : String) : Event → Prop
  | written _ => False
  | removed gone => gone = id
  | cleared => True

/-- What an event does to an index. -/
def apply (i : Index) : Event → Index
  | written d => i.upsert d
  | removed id => i.delete id
  | cleared => empty

theorem not_removes_written (id : String) (d : Document) : ¬(written d).Removes id := not_false

theorem not_removes_of_writes {id : String} {e : Event} (h : e.Writes id) : ¬e.Removes id := by
  cases e with
  | written d => exact not_removes_written id d
  | removed gone | cleared => exact h.elim

end Event

/-- Events, oldest first. -/
abbrev Log := List Event

/-- The events that an operation amounts to. -/
def Operation.events : Operation → Log
  | .upsert d => if d.isWritable then [.written d] else []
  | .delete id => [.removed id]
  | .replace ds => if ds.all Document.isWritable then .cleared :: ds.map .written else []
  | .compact => []

namespace Log

/-- Whether an event of one kind is in a log and none of another kind after it. -/
def Stands (P Q : Event → Prop) (log : Log) : Prop :=
  ∃ before e after, log = before ++ e :: after ∧ P e ∧ ∀ x ∈ after, ¬Q x

/-- Whether a document is the last that was written under an id, which was not removed since. -/
def LastWritten (log : Log) (id : String) (d : Document) : Prop :=
  d.id = id ∧ Stands (fun e => e = .written d) (fun e => e.Writes id ∨ e.Removes id) log

/-- Whether something was written under an id, which was not removed since. -/
def Holds (log : Log) (id : String) : Prop :=
  Stands (fun e => e.Writes id) (fun e => e.Removes id) log

/-- Whether an id came in with the event at some place: it was not held before that event, and was
not removed since. -/
def CameIn (log : Log) (id : String) (place : Nat) : Prop :=
  ∃ before e after, log = before ++ e :: after ∧ before.length = place ∧ e.Writes id ∧
    ¬Holds before id ∧ ∀ x ∈ after, ¬x.Removes id

/-- Whether an id came in before another. -/
def Precedes (log : Log) (a b : String) : Prop :=
  ∃ m n, CameIn log a m ∧ CameIn log b n ∧ m < n

/-- Whether there are so many ids under which something is held. -/
def Counts (log : Log) (n : Nat) : Prop :=
  ∃ ids : List String, ids.Nodup ∧ (∀ id, id ∈ ids ↔ Holds log id) ∧ ids.length = n

section Concat

variable {P Q : Event → Prop} {log : Log} {e : Event} {id : String} {place : Nat}

theorem not_stands_nil : ¬Stands P Q [] := by
  rintro ⟨before, e, after, eq, -, -⟩
  simp at eq

/-- With one more event. -/
theorem stands_concat : Stands P Q (log ++ [e]) ↔ P e ∨ (Stands P Q log ∧ ¬Q e) := by
  constructor
  · rintro ⟨before, x, after, eq, hx, none⟩
    rcases List.eq_nil_or_concat after with rfl | ⟨after, y, rfl⟩
    · obtain ⟨-, eq⟩ := List.append_inj' eq rfl
      cases eq
      exact .inl hx
    · have eq : log ++ [e] = (before ++ x :: after) ++ [y] := by simpa using eq
      obtain ⟨rfl, last⟩ := List.append_inj' eq rfl
      cases last
      refine .inr ⟨⟨before, x, after, rfl, hx, ?_⟩, none e (by simp)⟩
      intro z hz
      exact none z (by simp [hz])
  · rintro (he | ⟨⟨before, x, after, rfl, hx, none⟩, he⟩)
    · exact ⟨log, e, [], rfl, he, by simp⟩
    · refine ⟨before, x, after ++ [e], by simp, hx, ?_⟩
      intro z hz
      rcases List.mem_append.1 hz with hz | hz
      · exact none z hz
      · rw [List.mem_singleton.1 hz]
        exact he

theorem lastWritten_concat {d : Document} :
    LastWritten (log ++ [e]) id d ↔
      (d.id = id ∧ e = .written d) ∨ (LastWritten log id d ∧ ¬(e.Writes id ∨ e.Removes id)) := by
  rw [LastWritten, stands_concat, and_or_left, ← and_assoc]
  rfl

theorem holds_concat :
    Holds (log ++ [e]) id ↔ e.Writes id ∨ (Holds log id ∧ ¬e.Removes id) :=
  stands_concat

/-- An id is held if some document is the last that was written under it. -/
theorem holds_iff : Holds log id ↔ ∃ d, LastWritten log id d := by
  induction log using List.reverseRecOn with
  | nil =>
    refine iff_of_false not_stands_nil ?_
    rintro ⟨d, -, stands⟩
    exact not_stands_nil stands
  | append_singleton log e ih =>
    rw [holds_concat, ih]
    simp only [lastWritten_concat]
    constructor
    · rintro (writes | ⟨⟨d, last⟩, keeps⟩)
      · cases e with
        | written d => exact ⟨d, .inl ⟨writes, rfl⟩⟩
        | removed gone | cleared => exact writes.elim
      · by_cases writes : e.Writes id
        · cases e with
          | written d => exact ⟨d, .inl ⟨writes, rfl⟩⟩
          | removed gone | cleared => exact writes.elim
        · exact ⟨d, .inr ⟨last, not_or.2 ⟨writes, keeps⟩⟩⟩
    · rintro ⟨d, ⟨hd, rfl⟩ | ⟨last, other⟩⟩
      · exact .inl hd
      · exact .inr ⟨⟨d, last⟩, fun removes => other (.inr removes)⟩

theorem CameIn.lt_length (h : CameIn log id place) : place < log.length := by
  obtain ⟨before, x, after, rfl, rfl, -⟩ := h
  simp

/-- The place at which an id came in stays until the id is removed. -/
theorem CameIn.concat (h : CameIn log id place) (he : ¬e.Removes id) :
    CameIn (log ++ [e]) id place := by
  obtain ⟨before, x, after, rfl, rfl, writes, fresh, none⟩ := h
  refine ⟨before, x, after ++ [e], by simp, rfl, writes, fresh, ?_⟩
  intro z hz
  rcases List.mem_append.1 hz with hz | hz
  · exact none z hz
  · rw [List.mem_singleton.1 hz]
    exact he

theorem cameIn_concat_self (fresh : ¬Holds log id) (he : e.Writes id) :
    CameIn (log ++ [e]) id log.length :=
  ⟨log, e, [], rfl, rfl, he, fresh, by simp⟩

/-- An id that is held came in at some place. -/
theorem Holds.cameIn (h : Holds log id) : ∃ place, CameIn log id place := by
  induction log using List.reverseRecOn with
  | nil => exact absurd h not_stands_nil
  | append_singleton log e ih =>
    by_cases held : Holds log id
    · obtain ⟨place, came⟩ := ih held
      refine ⟨place, came.concat ?_⟩
      rcases holds_concat.1 h with writes | ⟨-, keeps⟩
      · exact e.not_removes_of_writes writes
      · exact keeps
    · rcases holds_concat.1 h with writes | ⟨held', -⟩
      · exact ⟨log.length, cameIn_concat_self held writes⟩
      · exact absurd held' held

theorem Precedes.concat {a b : String} (h : Precedes log a b) (ha : ¬e.Removes a)
    (hb : ¬e.Removes b) : Precedes (log ++ [e]) a b := by
  obtain ⟨m, n, came, came', less⟩ := h
  exact ⟨m, n, came.concat ha, came'.concat hb, less⟩

/-- An id that is held precedes one that comes in. -/
theorem Holds.precedes {a b : String} (held : Holds log a) (fresh : ¬Holds log b)
    (he : e.Writes b) (keeps : ¬e.Removes a) : Precedes (log ++ [e]) a b := by
  obtain ⟨m, came⟩ := held.cameIn
  exact ⟨m, log.length, came.concat keeps, cameIn_concat_self fresh he, came.lt_length⟩

end Concat

end Log

open Log

/-- Whether an answer is what a log says that led up to the operation. -/
def Operation.Answered (log : Log) : Operation → Answer → Prop
  | .upsert d, .stored e => d.isWritable = true ∧ e = d.prepared
  | .upsert d, .refused e => d.isWritable = false ∧ e = .tooManyDigits
  | .delete id, .removed wasThere => wasThere = true ↔ Holds log id
  | .replace ds, .count n =>
    ds.all Document.isWritable = true ∧ Counts (log ++ (replace ds).events) n
  | .replace ds, .refused e => ds.all Document.isWritable = false ∧ e = .tooManyDigits
  | .compact, .count n => Counts log n
  | _, _ => False

/-- Whether the answers of several operations are what the log says that led up to each. -/
inductive Answers : Log → List Operation → List Answer → Prop
  | nil {log : Log} : Answers log [] []
  | cons {log : Log} {op : Operation} {ops : List Operation} {answer : Answer}
      {answers : List Answer} (head : op.Answered log answer)
      (tail : Answers (log ++ op.events) ops answers) : Answers log (op :: ops) (answer :: answers)

/-- Whether an index holds what a log says, in the order in which the ids came in. -/
structure Follows (i : Index) (log : Log) : Prop where
  lookup : ∀ id d, i.get? id = some d ↔ ∃ w, LastWritten log id w ∧ d = w.prepared
  ordered : i.ids.Pairwise (Precedes log)

/-! ### The index and its log -/

namespace Follows

variable {i : Index} {log : Log}

theorem mem_ids (h : i.Follows log) {id : String} : id ∈ i.ids ↔ Holds log id := by
  rw [← contains_iff, contains, Option.isSome_iff_exists, holds_iff]
  simp only [h.lookup]
  constructor
  · rintro ⟨_, w, last, -⟩
    exact ⟨w, last⟩
  · rintro ⟨w, last⟩
    exact ⟨w.prepared, w, last, rfl⟩

theorem counts (h : i.Follows log) : Counts log i.size :=
  ⟨i.ids, i.ids_nodup, fun _ => h.mem_ids, List.length_map _⟩

theorem empty_nil : empty.Follows [] where
  lookup id d := by
    refine iff_of_false (fun h => nomatch h) ?_
    rintro ⟨w, ⟨-, stands⟩, -⟩
    exact not_stands_nil stands
  ordered := .nil

theorem written (h : i.Follows log) (d : Document) :
    (i.upsert d).Follows (log ++ [.written d]) where
  lookup id e := by
    rw [get?_upsert]
    simp only [lastWritten_concat]
    by_cases hd : d.id = id
    · rw [if_pos hd, Option.some.injEq]
      constructor
      · rintro rfl
        exact ⟨d, .inl ⟨hd, rfl⟩, rfl⟩
      · rintro ⟨w, ⟨-, eq⟩ | ⟨-, other⟩, rfl⟩
        · cases eq
          rfl
        · exact absurd (.inl hd) other
    · rw [if_neg hd, h.lookup]
      refine exists_congr fun w => and_congr_left' ?_
      constructor
      · intro last
        exact .inr ⟨last, not_or.2 ⟨hd, Event.not_removes_written id d⟩⟩
      · rintro (⟨hw, eq⟩ | ⟨last, -⟩)
        · cases eq
          exact absurd hw hd
        · exact last
  ordered := by
    have kept : i.ids.Pairwise (Precedes (log ++ [.written d])) :=
      h.ordered.imp fun before => before.concat not_false not_false
    rw [ids_upsert]
    split
    · exact kept
    · next fresh =>
      rw [h.mem_ids] at fresh
      refine List.pairwise_append.2 ⟨kept, List.pairwise_singleton _ _, ?_⟩
      intro a ha b hb
      rw [List.mem_singleton.1 hb]
      exact (h.mem_ids.1 ha).precedes fresh rfl not_false

theorem removed (h : i.Follows log) (gone : String) :
    (i.delete gone).Follows (log ++ [.removed gone]) where
  lookup id e := by
    rw [get?_delete]
    simp only [lastWritten_concat]
    by_cases hid : id = gone
    · rw [if_pos hid]
      refine iff_of_false (fun h => nomatch h) ?_
      rintro ⟨w, ⟨-, eq⟩ | ⟨-, other⟩, -⟩
      · cases eq
      · exact other (.inr hid.symm)
    · rw [if_neg hid, h.lookup]
      refine exists_congr fun w => and_congr_left' ?_
      constructor
      · intro last
        exact .inr ⟨last, not_or.2 ⟨not_false, fun eq => hid eq.symm⟩⟩
      · rintro (⟨-, eq⟩ | ⟨last, -⟩)
        · cases eq
        · exact last
  ordered := by
    rw [ids_delete]
    refine (h.ordered.filter _).imp_of_mem ?_
    intro a b ha hb before
    have ne_of_mem : ∀ id ∈ i.ids.filter fun id => id != gone, gone ≠ id := by
      intro id hid eq
      simpa [eq] using (List.mem_filter.1 hid).2
    exact before.concat (ne_of_mem a ha) (ne_of_mem b hb)

theorem cleared : empty.Follows (log ++ [.cleared]) where
  lookup id d := by
    refine iff_of_false (fun h => nomatch h) ?_
    rintro ⟨w, ⟨-, last⟩, -⟩
    rcases stands_concat.1 last with eq | ⟨-, keeps⟩
    · cases eq
    · exact keeps (.inr trivial)
  ordered := .nil

/-- Every event keeps an index in step with its log. -/
theorem step (h : i.Follows log) (e : Event) : (e.apply i).Follows (log ++ [e]) := by
  cases e with
  | written d => exact h.written d
  | removed gone => exact h.removed gone
  | cleared => exact cleared

theorem foldl (h : i.Follows log) (es : List Event) :
    (es.foldl Event.apply i).Follows (log ++ es) := by
  induction es generalizing i log with
  | nil => simpa using h
  | cons e es ih => simpa using ih (h.step e)

end Follows

theorem perform_upsert (i : Index) (d : Document) :
    i.perform (.upsert d) =
      if d.isWritable then (.stored d.prepared, i.upsert d) else (.refused .tooManyDigits, i) := by
  rw [perform, store]
  cases d.isWritable <;> rfl

theorem perform_replace (i : Index) (ds : List Document) :
    i.perform (.replace ds) =
      if ds.all Document.isWritable then (.count (ofDocuments ds).size, ofDocuments ds)
      else (.refused .tooManyDigits, i) := by
  rw [perform, snapshot_eq]
  cases ds.all Document.isWritable <;> rfl

/-- An operation does what its events do. -/
theorem perform_snd (i : Index) (op : Operation) :
    (i.perform op).2 = op.events.foldl Event.apply i := by
  cases op with
  | upsert d =>
    rw [perform_upsert, Operation.events]
    cases d.isWritable <;> rfl
  | delete id => rfl
  | replace ds =>
    rw [perform_replace, Operation.events]
    cases ds.all Document.isWritable with
    | true =>
      rw [if_pos rfl, if_pos rfl, List.foldl_cons, List.foldl_map]
      rfl
    | false => rfl
  | compact => exact i.compact_eq

namespace Follows

variable {i : Index} {log : Log}

theorem perform (h : i.Follows log) (op : Operation) :
    (i.perform op).2.Follows (log ++ op.events) := by
  rw [perform_snd]
  exact h.foldl op.events

/-- The answer of an operation is what the log says. -/
theorem answered (h : i.Follows log) (op : Operation) : op.Answered log (i.perform op).1 := by
  cases op with
  | upsert d =>
    rw [perform_upsert]
    cases writable : d.isWritable with
    | true => exact ⟨writable, rfl⟩
    | false => exact ⟨writable, rfl⟩
  | delete id => exact contains_iff.trans h.mem_ids
  | replace ds =>
    have counts := (h.perform (.replace ds)).counts
    rw [perform_replace] at counts ⊢
    cases writable : ds.all Document.isWritable with
    | true =>
      rw [writable] at counts
      exact ⟨writable, counts⟩
    | false => exact ⟨writable, rfl⟩
  | compact =>
    show Counts log i.compact.size
    rw [compact_eq]
    exact h.counts

/-- Operations keep an index in step with its log, and their answers are what the log says. -/
theorem performAll (h : i.Follows log) (ops : List Operation) :
    (i.performAll ops).2.Follows (log ++ ops.flatMap Operation.events) ∧
      Answers log ops (i.performAll ops).1 := by
  induction ops generalizing i log with
  | nil => exact ⟨by simpa [Index.performAll] using h, .nil⟩
  | cons op ops ih =>
    obtain ⟨follows, answers⟩ := ih (h.perform op)
    rw [List.append_assoc] at follows
    exact ⟨follows, .cons (h.answered op) answers⟩

end Follows

/-- Whatever operations an empty index has gone through, it is the map that their log tells of:
under each id the document last written there, with its searchable text built anew, in the order in
which the ids came in.  The operations have answered accordingly. -/
theorem follows_log (ops : List Operation) :
    let log := ops.flatMap Operation.events
    let index := (empty.performAll ops).2
    index.ids.Nodup ∧
      (∀ id, id ∈ index.ids ↔ Holds log id) ∧
      (∀ id d, d ∈ index.documents ∧ d.id = id ↔
        ∃ w, LastWritten log id w ∧ d = { w with searchableText := w.buildSearchableText }) ∧
      (∀ id d, index.get? id = some d ↔ d ∈ index.documents ∧ d.id = id) ∧
      (index.documents.Pairwise fun d e => Precedes log d.id e.id) ∧
      Answers [] ops (empty.performAll ops).1 ∧
      (index.perform .compact).2 = index ∧
      ∀ d text, index.perform (.upsert { d with searchableText := text }) =
          index.perform (.upsert d) ∧
        (index.perform (.upsert d)).2.perform (.upsert d) = index.perform (.upsert d) := by
  intro log index
  obtain ⟨follows, answers⟩ := Follows.empty_nil.performAll ops
  refine ⟨index.ids_nodup, fun _ => follows.mem_ids, ?_, fun _ _ => get?_eq_some_iff,
    List.pairwise_map.1 follows.ordered, answers, index.compact_eq, ?_⟩
  · intro id d
    rw [← get?_eq_some_iff]
    exact follows.lookup id d
  · intro d text
    refine ⟨rfl, ?_⟩
    rw [perform_upsert, perform_upsert]
    cases d.isWritable with
    | true => exact congrArg (Answer.stored d.prepared, ·) (index.upsert_upsert d)
    | false => rfl

end OrderRetrieval.Index
