import Mathlib.Data.List.Forall2
import OrderRetrieval.Matching.Highlight
import OrderRetrieval.Matching.Rank
import OrderRetrieval.Proofs.Text.Letter

/-!
# Highlighting

A text is read from the left.  Where a word matches, the longest stretch that a word matches is
marked and reading goes on behind it, elsewhere a character is left as it is (`Marking`).  There is
one such marking of a text, and highlighting writes it (`Document.highlights_mark_longest`).

A text is reported if it contains a word in lower case, and marks are set letter by letter.  The two
differ on the capital I with a dot alone, so a reported text without a mark has one
(`Document.highlights_mark_iff`).
-/

namespace OrderRetrieval.Matching

/-! ## Where words match -/

/-- A stretch has the letters of a word, without regard to case. -/
def Spells (w m : List Char) : Prop :=
  List.Forall₂ (fun x c => Text.sameLetter x c = true) w m

theorem matchesHere_iff {w cs : List Char} :
    matchesHere w cs = true ↔ ∃ m, m <+: cs ∧ Spells w m := by
  induction w generalizing cs with
  | nil => exact iff_of_true (by rw [matchesHere]) ⟨[], List.nil_prefix, .nil⟩
  | cons x w ih =>
    cases cs with
    | nil =>
      rw [matchesHere]
      refine iff_of_false Bool.false_ne_true ?_
      rintro ⟨m, here, spells⟩
      rw [List.prefix_nil.1 here] at spells
      cases spells
    | cons c cs =>
      rw [matchesHere, Bool.and_eq_true, ih]
      constructor
      · rintro ⟨same, m, here, spells⟩
        exact ⟨c :: m, (List.prefix_cons_inj c).2 here, .cons same spells⟩
      · rintro ⟨m, here, spells⟩
        cases spells with
        | cons same spells =>
          obtain ⟨rfl, inner⟩ := List.cons_prefix_cons.1 here
          exact ⟨same, _, inner, spells⟩

/-- What begins a lower-case text begins the text letter by letter.  The dotted capital I is two
characters in lower case, of which only the first stands for it. -/
theorem matchesHere_of_isPrefix {w cs : List Char} {afterCased : Bool}
    (plain : 'İ' ∉ cs ∨ '\u0307' ∉ w) (h : w <+: Text.lowerAfter afterCased cs) :
    matchesHere w cs = true := by
  induction cs generalizing w afterCased with
  | nil => rw [List.prefix_nil.1 h, matchesHere]
  | cons c cs ih =>
    cases w with
    | nil => rw [matchesHere]
    | cons x w =>
      rw [Text.lowerAfter] at h
      by_cases dotted : c = 'İ'
      · subst dotted
        obtain ⟨rfl, inner⟩ := List.cons_prefix_cons.1 h
        have noDot := plain.resolve_left fun out => out List.mem_cons_self
        cases w with
        | nil =>
          have same : Text.sameLetter 'i' 'İ' = true := by decide
          rw [matchesHere, same, matchesHere, Bool.true_and]
        | cons y w =>
          obtain ⟨rfl, -⟩ := List.cons_prefix_cons.1 inner
          exact absurd (List.mem_cons_of_mem _ List.mem_cons_self) noDot
      · obtain ⟨y, lowered, same⟩ := Text.exists_lowerChar_eq dotted afterCased cs
        rw [lowered] at h
        obtain ⟨rfl, inner⟩ := List.cons_prefix_cons.1 h
        rw [matchesHere, same, Bool.true_and]
        exact ih (plain.imp (fun out mem => out (List.mem_cons_of_mem c mem))
          fun out mem => out (List.mem_cons_of_mem x mem)) inner

/-- What occurs in a lower-case text occurs in the text letter by letter, unless it has to do with
the dot of a dotted capital I. -/
theorem exists_spells_of_isInfix {w cs : List Char} {afterCased : Bool}
    (plain : 'İ' ∉ cs ∨ '\u0307' ∉ w) (h : w <:+: Text.lowerAfter afterCased cs) :
    ∃ m, m <:+: cs ∧ Spells w m := by
  have here {cs : List Char} (matched : matchesHere w cs = true) : ∃ m, m <:+: cs ∧ Spells w m := by
    obtain ⟨m, begins, spells⟩ := matchesHere_iff.1 matched
    exact ⟨m, begins.isInfix, spells⟩
  induction cs generalizing afterCased with
  | nil =>
    obtain rfl : w = [] := List.infix_nil.1 h
    exact ⟨[], List.nil_infix, .nil⟩
  | cons c cs ih =>
    have later {q : Bool} (h : w <:+: Text.lowerAfter q cs) : ∃ m, m <:+: c :: cs ∧ Spells w m := by
      obtain ⟨m, inside, spells⟩ := ih (plain.imp_left fun out mem =>
        out (List.mem_cons_of_mem c mem)) h
      exact ⟨m, inside.trans (List.suffix_cons c cs).isInfix, spells⟩
    by_cases dotted : c = 'İ'
    · subst dotted
      rcases List.infix_cons_iff.1 h with begins | inner
      · exact here (matchesHere_of_isPrefix plain begins)
      · rcases List.infix_cons_iff.1 inner with begins | inner
        · have noDot := plain.resolve_left fun out => out List.mem_cons_self
          cases w with
          | nil => exact ⟨[], List.nil_infix, .nil⟩
          | cons x w =>
            obtain ⟨rfl, -⟩ := List.cons_prefix_cons.1 begins
            exact absurd List.mem_cons_self noDot
        · exact later inner
    · have begins := @matchesHere_of_isPrefix w (c :: cs) afterCased plain
      obtain ⟨y, lowered, -⟩ := Text.exists_lowerChar_eq dotted afterCased cs
      rw [Text.lowerAfter, lowered] at h begins
      rcases List.infix_cons_iff.1 h with first | inner
      · exact here (begins first)
      · exact later inner

theorem Spells.length_eq {w m : List Char} (h : Spells w m) : w.length = m.length :=
  List.Forall₂.length_eq h

section Stretch

variable {words : List (List Char)} {cs : List Char}

theorem stretch?_eq_none_iff (solid : [] ∉ words) :
    stretch? words cs = none ↔ ∀ w ∈ words, matchesHere w cs = false := by
  rw [stretch?, List.max?_eq_none_iff, List.map_eq_nil_iff, List.filter_eq_nil_iff]
  refine forall₂_congr fun w hw => ?_
  have ne : w ≠ [] := fun eq => solid (eq ▸ hw)
  simp [ne]

theorem stretch?_eq_some_iff (solid : [] ∉ words) {n : Nat} :
    stretch? words cs = some n ↔
      (∃ w ∈ words, matchesHere w cs = true ∧ w.length = n) ∧
        ∀ w ∈ words, matchesHere w cs = true → w.length ≤ n := by
  have mem (k : Nat) :
      k ∈ (words.filter fun w => !w.isEmpty && matchesHere w cs).map List.length ↔
        ∃ w ∈ words, matchesHere w cs = true ∧ w.length = k := by
    simp only [List.mem_map, List.mem_filter, Bool.and_eq_true, Bool.not_eq_true',
      List.isEmpty_eq_false_iff]
    constructor
    · rintro ⟨w, ⟨hw, -, here⟩, rfl⟩
      exact ⟨w, hw, here, rfl⟩
    · rintro ⟨w, hw, here, rfl⟩
      exact ⟨w, ⟨hw, fun eq => solid (eq ▸ hw), here⟩, rfl⟩
  rw [stretch?, List.max?_eq_some_iff, mem]
  refine and_congr_right fun _ => ?_
  constructor
  · intro most w hw here
    exact most _ ((mem _).2 ⟨w, hw, here, rfl⟩)
  · intro most k hk
    obtain ⟨w, hw, here, rfl⟩ := (mem k).1 hk
    exact most w hw here

/-- Trying the words in turn, the longer before the shorter, finds the longest stretch, whatever the
order of words of one length. -/
theorem find?_matchesHere {terms : List (List Char)} (solid : [] ∉ words)
    (same : ∀ w, w ∈ terms ↔ w ∈ words)
    (falling : terms.Pairwise fun v w => w.length ≤ v.length) (cs : List Char) :
    (terms.find? fun w => matchesHere w cs).map List.length = stretch? words cs := by
  cases found : terms.find? fun w => matchesHere w cs with
  | none =>
    refine ((stretch?_eq_none_iff solid).2 fun w hw => ?_).symm
    simpa using List.find?_eq_none.1 found w ((same w).2 hw)
  | some w =>
    obtain ⟨here, before, after, rfl, fails⟩ := List.find?_eq_some_iff_append.1 found
    refine ((stretch?_eq_some_iff solid).2 ⟨⟨w, (same w).1 ?_, here, rfl⟩, ?_⟩).symm
    · exact List.mem_append_right before List.mem_cons_self
    · intro v hv matched
      rcases List.mem_append.1 ((same v).2 hv) with early | late
      · simpa [matched] using fails v early
      · rcases List.mem_cons.1 late with rfl | late
        · exact Nat.le_refl _
        · exact List.rel_of_pairwise_cons (List.pairwise_append.1 falling).2.1 late

end Stretch

/-! ## Marked texts -/

/-- A piece of a text with marks. -/
inductive Piece where
  | plain (c : Char)
  | marked (stretch : List Char)

namespace Piece

/-- What a piece holds of the text. -/
def text : Piece → List Char
  | plain c => [c]
  | marked m => m

/-- How a piece is written. -/
def render : Piece → List Char
  | plain c => [c]
  | marked m => openTag ++ (m ++ closeTag)

end Piece

/-- Leftmost-longest marking: where words match, the longest stretch that one matches is a piece,
and a character where none does. -/
inductive Marking (words : List (List Char)) : List Char → List Piece → Prop
  | nil : Marking words [] []
  | copy {c : Char} {cs : List Char} {ps : List Piece}
    (unmatched : ∀ w ∈ words, ∀ m, m <+: c :: cs → ¬Spells w m) (rest : Marking words cs ps) :
    Marking words (c :: cs) (.plain c :: ps)
  | wrap {w m cs : List Char} {ps : List Piece} (mem : w ∈ words) (spells : Spells w m)
    (longest : ∀ v ∈ words, ∀ m', m' <+: m ++ cs → Spells v m' → m'.length ≤ m.length)
    (rest : Marking words cs ps) : Marking words (m ++ cs) (.marked m :: ps)

namespace Marking

variable {words : List (List Char)} {cs : List Char} {ps qs : List Piece}

theorem congr {terms : List (List Char)} (same : ∀ w, w ∈ terms ↔ w ∈ words)
    (h : Marking words cs ps) : Marking terms cs ps := by
  induction h with
  | nil => exact .nil
  | copy unmatched _ ih => exact .copy (fun w hw => unmatched w ((same w).1 hw)) ih
  | wrap mem spells longest _ ih =>
    exact .wrap ((same _).2 mem) spells (fun v hv => longest v ((same v).1 hv)) ih

/-- Without the tags the pieces are the text. -/
theorem flatMap_text (h : Marking words cs ps) : ps.flatMap Piece.text = cs := by
  induction h with
  | nil => rfl
  | copy _ _ ih => rw [List.flatMap_cons, ih]; rfl
  | wrap _ _ _ _ ih => rw [List.flatMap_cons, ih]; rfl

theorem ne_nil_of_spells (solid : [] ∉ words) {w m : List Char} (hw : w ∈ words)
    (h : Spells w m) : m ≠ [] := by
  rintro rfl
  cases h
  exact solid hw

theorem ne_nil_of_mem (solid : [] ∉ words) (h : Marking words cs ps) {m : List Char}
    (mem : .marked m ∈ ps) : m ≠ [] := by
  induction h with
  | nil => cases mem
  | copy _ _ ih =>
    cases mem with
    | tail _ mem => exact ih mem
  | wrap hw spells _ _ ih =>
    cases mem with
    | head => exact ne_nil_of_spells solid hw spells
    | tail _ mem => exact ih mem

/-- A text has one marking. -/
theorem unique (solid : [] ∉ words) (h : Marking words cs ps) (h' : Marking words cs qs) :
    qs = ps := by
  induction h generalizing qs with
  | nil =>
    generalize eq : ([] : List Char) = t at h'
    cases h' with
    | nil => rfl
    | copy => cases eq
    | wrap mem spells =>
      exact absurd (List.append_eq_nil_iff.1 eq.symm).1 (ne_nil_of_spells solid mem spells)
  | @copy c cs ps unmatched _ ih =>
    generalize eq : c :: cs = t at h'
    cases h' with
    | nil => cases eq
    | copy _ rest =>
      cases eq
      rw [ih rest]
    | wrap mem spells =>
      exact absurd spells (unmatched _ mem _ (eq ▸ List.prefix_append _ _))
  | @wrap w m cs ps mem spells longest _ ih =>
    generalize eq : m ++ cs = t at h'
    cases h' with
    | nil =>
      exact absurd (List.append_eq_nil_iff.1 eq).1 (ne_nil_of_spells solid mem spells)
    | copy unmatched =>
      exact absurd spells (unmatched w mem m (eq ▸ List.prefix_append _ _))
    | @wrap w' m' cs' _ mem' spells' longest' rest =>
      -- Either stretch is at least as long as the other.
      have length : m.length = m'.length :=
        Nat.le_antisymm (longest' w mem m (eq ▸ List.prefix_append _ _) spells)
          (longest w' mem' m' (eq ▸ List.prefix_append _ _) spells')
      obtain ⟨rfl, rfl⟩ := List.append_inj eq length
      rw [ih rest]

/-- A mark is set exactly if a word occurs in the text letter by letter. -/
theorem exists_marked_iff (solid : [] ∉ words) (h : Marking words cs ps) :
    (∃ m, .marked m ∈ ps) ↔ ∃ w ∈ words, ∃ m, m <:+: cs ∧ Spells w m := by
  induction h with
  | nil =>
    refine iff_of_false (fun ⟨m, mem⟩ => List.not_mem_nil mem) ?_
    rintro ⟨w, hw, m, inside, spells⟩
    exact ne_nil_of_spells solid hw spells (List.infix_nil.1 inside)
  | copy unmatched _ ih =>
    constructor
    · rintro ⟨m, mem⟩
      cases mem with
      | tail _ mem =>
        obtain ⟨w, hw, m', inside, spells⟩ := ih.1 ⟨m, mem⟩
        exact ⟨w, hw, m', inside.trans (List.suffix_cons _ _).isInfix, spells⟩
    · rintro ⟨w, hw, m, inside, spells⟩
      rcases List.infix_cons_iff.1 inside with begins | inside
      · exact absurd spells (unmatched w hw m begins)
      · obtain ⟨m', mem⟩ := ih.2 ⟨w, hw, m, inside, spells⟩
        exact ⟨m', List.mem_cons_of_mem _ mem⟩
  | @wrap w m cs ps mem spells _ _ _ =>
    exact iff_of_true ⟨m, List.mem_cons_self⟩
      ⟨w, mem, m, (List.prefix_append m cs).isInfix, spells⟩

end Marking

section Mark

variable {words : List (List Char)}

/-- Inside a stretch its characters are copied, and the tag is closed behind them. -/
theorem markFrom_length (m cs : List Char) (ne : m ≠ []) :
    markFrom words m.length (m ++ cs) = m ++ (closeTag ++ markFrom words 0 cs) := by
  induction m with
  | nil => exact absurd rfl ne
  | cons c m ih =>
    rw [List.length_cons, List.cons_append, markFrom]
    by_cases last : m = []
    · subst last
      simp
    · rw [ih last, if_neg (by simpa using last)]
      simp

theorem markFrom_of_none {c : Char} {cs : List Char} (h : stretch? words (c :: cs) = none) :
    markFrom words 0 (c :: cs) = c :: markFrom words 0 cs := by
  rw [markFrom]
  simp only [h]

theorem markFrom_of_some {m cs : List Char} (ne : m ≠ [])
    (h : stretch? words (m ++ cs) = some m.length) :
    markFrom words 0 (m ++ cs) = openTag ++ (m ++ closeTag) ++ markFrom words 0 cs := by
  have inside : markFrom words m.length (m ++ cs) = m ++ (closeTag ++ markFrom words 0 cs) :=
    markFrom_length m cs ne
  cases m with
  | nil => exact absurd rfl ne
  | cons c m =>
    rw [List.cons_append] at h inside
    rw [List.length_cons, markFrom] at inside
    rw [List.cons_append, markFrom]
    simp only [h, List.length_cons, Nat.add_sub_cancel, List.append_assoc]
    simpa using inside

/-- Marking from the left writes the marking of the text. -/
theorem exists_marking (solid : [] ∉ words) (cs : List Char) :
    ∃ ps, Marking words cs ps ∧ mark words cs = ps.flatMap Piece.render := by
  -- A stretch takes several characters, so the induction is on the length.
  induction h : cs.length using Nat.strongRecOn generalizing cs with
  | ind n ih =>
    subst h
    cases cs with
    | nil => exact ⟨[], .nil, rfl⟩
    | cons c cs =>
      cases found : stretch? words (c :: cs) with
      | none =>
        obtain ⟨ps, marking, written⟩ := ih cs.length (Nat.lt_succ_self _) cs rfl
        refine ⟨.plain c :: ps, .copy ?_ marking, ?_⟩
        · intro w hw m here spells
          have matched := matchesHere_iff.2 ⟨m, here, spells⟩
          rw [(stretch?_eq_none_iff solid).1 found w hw] at matched
          cases matched
        · rw [mark, markFrom_of_none found, List.flatMap_cons, ← written]
          rfl
      | some n =>
        obtain ⟨⟨w, hw, here, rfl⟩, longest⟩ := (stretch?_eq_some_iff solid).1 found
        obtain ⟨m, ⟨rest, split⟩, spells⟩ := matchesHere_iff.1 here
        have ne := Marking.ne_nil_of_spells solid hw spells
        rw [← split] at found longest ih ⊢
        obtain ⟨ps, marking, written⟩ := ih rest.length (by
          have := List.length_pos_of_ne_nil ne
          rw [List.length_append]
          omega) rest rfl
        refine ⟨.marked m :: ps, .wrap hw spells ?_ marking, ?_⟩
        · intro v hv m' here' spells'
          rw [← spells.length_eq, ← spells'.length_eq]
          exact longest v hv (matchesHere_iff.2 ⟨m', here', spells'⟩)
        · rw [spells.length_eq] at found
          rw [mark, markFrom_of_some ne found, List.flatMap_cons, ← written]
          rfl

/-- A text is marked alike by the same words in any order. -/
theorem mark_congr {terms : List (List Char)} (solid : [] ∉ words)
    (same : ∀ w, w ∈ terms ↔ w ∈ words) (cs : List Char) : mark terms cs = mark words cs := by
  obtain ⟨ps, marking, written⟩ := exists_marking solid cs
  have solid' : [] ∉ terms := fun h => solid ((same []).1 h)
  obtain ⟨qs, marking', written'⟩ := exists_marking solid' cs
  rw [written, written', (marking.congr same).unique solid' marking']

end Mark

/-- A text as it is written with marks: its one marking, of which the pieces are the text and no
stretch is empty.  Where it is read, the longest stretch is found by trying the words in turn, the
longer before the shorter, in whatever order those of one length are. -/
structure Highlighted (words : List (List Char)) (cs written : List Char) (ps : List Piece) :
    Prop where
  marking : Marking words cs ps
  unique : ∀ qs, Marking words cs qs → qs = ps
  written_eq : written = ps.flatMap Piece.render
  text_eq : ps.flatMap Piece.text = cs
  solid : ∀ m, .marked m ∈ ps → m ≠ []
  tried : ∀ terms : List (List Char), (∀ w, w ∈ terms ↔ w ∈ words) →
    (terms.Pairwise fun v w => w.length ≤ v.length) →
    ∀ rest, (terms.find? fun w => matchesHere w rest).map List.length = stretch? words rest

theorem exists_highlighted {words : List (List Char)} (solid : [] ∉ words) (cs : List Char) :
    ∃ ps, Highlighted words cs (mark words cs) ps := by
  obtain ⟨ps, marking, written⟩ := exists_marking solid cs
  exact ⟨ps, {
    marking
    unique := fun _ => marking.unique solid
    written_eq := written
    text_eq := marking.flatMap_text
    solid := fun _ => marking.ne_nil_of_mem solid
    tried := fun _ => find?_matchesHere solid }⟩

end OrderRetrieval.Matching

namespace OrderRetrieval

open Matching

theorem nil_notMem_queryWords? (query : Option String) : [] ∉ queryWords? query := by
  intro h
  cases query with
  | none => cases h
  | some s => exact Text.ne_nil_of_mem_words h rfl

namespace Document

/-- The fields whose texts are highlighted, with the names under which they are reported. -/
def highlightFields : List (String × Field) :=
  [("order_number", .orderNumber), ("customer_name", .customerName), ("notes", .notes)]

variable {d : Document} {words : List (List Char)} {name s v : String}

theorem mem_highlightTexts_iff :
    (name, s) ∈ d.highlightTexts ↔ ∃ f, (name, f) ∈ highlightFields ∧ d.textValue f = .ok s := by
  constructor
  · intro h
    simp only [highlightTexts, List.mem_cons, Prod.mk.injEq, List.not_mem_nil, or_false] at h
    obtain ⟨rfl, rfl⟩ | ⟨rfl, rfl⟩ | ⟨rfl, rfl⟩ := h
    · exact ⟨.orderNumber, by simp [highlightFields], rfl⟩
    · exact ⟨.customerName, by simp [highlightFields], rfl⟩
    · exact ⟨.notes, by simp [highlightFields], rfl⟩
  · rintro ⟨f, mem, shown⟩
    simp only [highlightFields, List.mem_cons, Prod.mk.injEq, List.not_mem_nil, or_false] at mem
    obtain ⟨rfl, rfl⟩ | ⟨rfl, rfl⟩ | ⟨rfl, rfl⟩ := mem <;> cases shown <;>
      simp [highlightTexts, Value.searchText]

/-- A name stands for one field. -/
theorem highlightFields_unique {f g : Field} (hf : (name, f) ∈ highlightFields)
    (hg : (name, g) ∈ highlightFields) : f = g := by
  simp only [highlightFields, List.mem_cons, Prod.mk.injEq, List.not_mem_nil, or_false] at hf hg
  obtain ⟨rfl, rfl⟩ | ⟨rfl, rfl⟩ | ⟨rfl, rfl⟩ := hf <;> simpa [eq_comm] using hg

theorem mem_wordsIn_iff {w : List Char} :
    w ∈ wordsIn words s ↔ w ∈ words ∧ w <:+: Text.lowerChars s.toList := by
  rw [wordsIn, List.mem_filter, Text.occursIn_iff]

theorem wordsIn_ne_nil_iff :
    wordsIn words s ≠ [] ↔ ∃ w ∈ words, w <:+: Text.lowerChars s.toList := by
  constructor
  · intro present
    obtain ⟨w, hw⟩ := List.exists_mem_of_ne_nil _ present
    exact ⟨w, mem_wordsIn_iff.1 hw⟩
  · rintro ⟨w, hw⟩
    exact List.ne_nil_of_mem (mem_wordsIn_iff.2 hw)

theorem nil_notMem_wordsIn (solid : [] ∉ words) : [] ∉ wordsIn words s :=
  fun h => solid (mem_wordsIn_iff.1 h).1

/-- The empty text contains no word. -/
theorem wordsIn_empty (solid : [] ∉ words) : wordsIn words "" = [] := by
  by_contra present
  obtain ⟨w, hw, inside⟩ := wordsIn_ne_nil_iff.1 present
  exact solid (List.infix_nil.1 inside ▸ hw)

/-- The texts are reported that contain a word, marked with the words that they contain. -/
theorem mem_highlights_iff (solid : [] ∉ words) :
    (name, v) ∈ d.highlights words ↔
      ∃ f s, (name, f) ∈ highlightFields ∧ d.textValue f = .ok s ∧ wordsIn words s ≠ [] ∧
        mark (wordsIn words s) s.toList = v.toList := by
  rw [highlights, List.mem_filterMap]
  constructor
  · rintro ⟨⟨title, s⟩, mem, reported⟩
    obtain ⟨f, hf, shown⟩ := mem_highlightTexts_iff.1 mem
    dsimp only at reported
    split at reported
    · cases reported
    · next present =>
      cases reported
      rw [Bool.or_eq_true, not_or, List.isEmpty_iff] at present
      exact ⟨f, s, hf, shown, present.2, String.toList_ofList.symm⟩
  · rintro ⟨f, s, hf, shown, present, marked⟩
    refine ⟨(name, s), mem_highlightTexts_iff.2 ⟨f, hf, shown⟩, ?_⟩
    have given : ¬(s.isEmpty || (wordsIn words s).isEmpty) = true := by
      rw [Bool.or_eq_true, not_or, List.isEmpty_iff, String.isEmpty_iff]
      exact ⟨fun empty => present (empty ▸ wordsIn_empty solid), present⟩
    simp only [given, marked, String.ofList_toList]
    rfl

variable {others : List (List Char)}

theorem wordsIn_congr (same : ∀ w, w ∈ others ↔ w ∈ words) (w : List Char) :
    w ∈ wordsIn others s ↔ w ∈ wordsIn words s := by
  rw [mem_wordsIn_iff, mem_wordsIn_iff, same]

/-- Only the set of the words counts. -/
theorem highlights_congr (solid : [] ∉ words) (same : ∀ w, w ∈ others ↔ w ∈ words) :
    d.highlights others = d.highlights words := by
  refine List.filterMap_congr fun ⟨name, s⟩ _ => ?_
  have empty : wordsIn others s = [] ↔ wordsIn words s = [] := by
    simp only [List.eq_nil_iff_forall_not_mem, wordsIn_congr same]
  simp only [mark_congr (nil_notMem_wordsIn solid) (wordsIn_congr same), Bool.or_eq_true,
    List.isEmpty_iff, empty]

/-- **Highlighting is leftmost-longest marking.**  What is reported for a field is its text with the
longest stretches marked, from the left, that match a word of the query which the text contains.
Only the set of the words counts. -/
theorem highlights_mark_longest (d : Document) (query : Option String) :
    (∀ name v, (name, v) ∈ d.highlights (queryWords? query) →
      ∃ f s ps, (name, f) ∈ highlightFields ∧ d.textValue f = .ok s ∧
        Highlighted (wordsIn (queryWords? query) s) s.toList v.toList ps) ∧
    ∀ other, (∀ w, w ∈ queryWords? other ↔ w ∈ queryWords? query) →
      d.highlights (queryWords? other) = d.highlights (queryWords? query) := by
  have solid := nil_notMem_queryWords? query
  refine ⟨fun name v h => ?_, fun other same => highlights_congr solid same⟩
  obtain ⟨f, s, hf, shown, -, marked⟩ := (mem_highlights_iff solid).1 h
  obtain ⟨ps, highlighted⟩ := exists_highlighted (nil_notMem_wordsIn solid) s.toList
  rw [marked] at highlighted
  exact ⟨f, s, ps, hf, shown, highlighted⟩

/-- **When a reported text has a mark.**  A field is reported exactly if its text contains a word of
the query in lower case.  A mark is set in it exactly if such a word occurs letter by letter, and
one does unless the text has a capital I with a dot and each such word has the dot. -/
theorem highlights_mark_iff (d : Document) (query : Option String) :
    (∀ name f s, (name, f) ∈ highlightFields → d.textValue f = .ok s →
      ((∃ v, (name, v) ∈ d.highlights (queryWords? query)) ↔
        ∃ w ∈ queryWords? query, w <:+: Text.lowerChars s.toList)) ∧
    ∀ name v, (name, v) ∈ d.highlights (queryWords? query) →
      ∃ f s ps, (name, f) ∈ highlightFields ∧ d.textValue f = .ok s ∧
        Highlighted (wordsIn (queryWords? query) s) s.toList v.toList ps ∧
        ((∃ m, .marked m ∈ ps) ↔ ∃ w ∈ queryWords? query, w <:+: Text.lowerChars s.toList ∧
          ∃ m, m <:+: s.toList ∧ Spells w m) ∧
        ((∃ w ∈ queryWords? query, w <:+: Text.lowerChars s.toList ∧
          ('İ' ∉ s.toList ∨ '\u0307' ∉ w)) → ∃ m, .marked m ∈ ps) := by
  have solid := nil_notMem_queryWords? query
  constructor
  · intro name f s hf shown
    rw [← wordsIn_ne_nil_iff]
    constructor
    · rintro ⟨v, h⟩
      obtain ⟨g, t, hg, shown', present, -⟩ := (mem_highlights_iff solid).1 h
      obtain rfl := highlightFields_unique hf hg
      obtain rfl : s = t := Except.ok.inj (shown.symm.trans shown')
      exact present
    · intro present
      exact ⟨_, (mem_highlights_iff solid).2
        ⟨f, s, hf, shown, present, String.toList_ofList.symm⟩⟩
  · intro name v h
    obtain ⟨f, s, hf, shown, -, marked⟩ := (mem_highlights_iff solid).1 h
    obtain ⟨ps, highlighted⟩ := exists_highlighted (nil_notMem_wordsIn solid) s.toList
    rw [marked] at highlighted
    have marks := highlighted.marking.exists_marked_iff (nil_notMem_wordsIn solid)
    simp only [mem_wordsIn_iff, and_assoc] at marks
    refine ⟨f, s, ps, hf, shown, highlighted, marks, ?_⟩
    rintro ⟨w, hw, contained, plain⟩
    exact marks.2 ⟨w, hw, contained, exists_spells_of_isInfix plain contained⟩

end Document

namespace Izmir

/-- A document with a note that begins with a capital I with a dot. -/
def document : Document := { (default : Document) with notes := "İzmir" }

end Izmir

/-- A note that is its own search text is reported without a mark. -/
theorem not_highlights_mark_izmir :
    Izmir.document.highlights (queryWords? (some "İzmir")) = [("notes", "İzmir")] ∧
      ¬openTag <:+: "İzmir".toList := by
  decide +kernel

end OrderRetrieval
