import Mathlib
import OrderRetrieval.Proofs.Datum.Canonical
import OrderRetrieval.Proofs.Sorting.Stable

/-!
# Canonical texts tell values apart

Plain data are one value if they are of one kind and hold the same, where the items of a list stand
in order and the fields of an object do not.  Their canonical texts are equal exactly then
(`Plain.canonicalChars_eq_iff`).  Equal values have one text because fields are written in the order
of their names.  Conversely the text of a value, with anything behind it that does not go on with a
number, can be read in one way only (`Plain.tells`): its first character says of which kind the
value is, a quoted text ends at the first quote that is not escaped, and behind an item stands a
comma or the end of the list.
-/

namespace OrderRetrieval.Datum

/-- Data of texts, whole numbers and truth values in lists and objects, where no two fields of an
object have one name. -/
inductive Plain : Datum → Prop
  | null : Plain .null
  | bool (b : Bool) : Plain (.bool b)
  | int (n : Int) : Plain (.int n)
  | str (s : String) : Plain (.str s)
  | arr {items : List Datum} (each : ∀ x ∈ items, Plain x) : Plain (.arr items)
  | obj {fields : List (String × Datum)} (names : (fields.map Prod.fst).Nodup)
      (each : ∀ f ∈ fields, Plain f.2) : Plain (.obj fields)

/-- Whether plain data are one value.  Lists agree item by item and objects name by name. -/
inductive SameValue : Datum → Datum → Prop
  | null : SameValue .null .null
  | bool (b : Bool) : SameValue (.bool b) (.bool b)
  | int (n : Int) : SameValue (.int n) (.int n)
  | str (s : String) : SameValue (.str s) (.str s)
  | arr {xs ys : List Datum} (items : List.Forall₂ SameValue xs ys) : SameValue (.arr xs) (.arr ys)
  | obj {xs ys : List (String × Datum)}
      (fields : ∀ name, Option.Rel SameValue (field? xs name) (field? ys name)) :
      SameValue (.obj xs) (.obj ys)

/-! ## Fields in the order of their names -/

section Fields

variable {α β : Type} {fields fields' : List (String × α)} {name : String} {x : α}

/-- Where each name stands once, a name has the value that stands with it. -/
theorem lookup_eq_some_iff_mem (names : (fields.map Prod.fst).Nodup) :
    fields.lookup name = some x ↔ (name, x) ∈ fields := by
  induction fields with
  | nil => simp
  | cons f fields ih =>
    obtain ⟨key, value⟩ := f
    obtain ⟨fresh, names⟩ := List.nodup_cons.1 names
    by_cases eq : name = key
    · subst eq
      have other : (name, x) ∉ fields := fun mem => fresh (List.mem_map.2 ⟨_, mem, rfl⟩)
      simp [other, eq_comm]
    · have named : (name == key) = false := beq_false_of_ne eq
      rw [List.lookup_cons, named, List.mem_cons, ih names]
      simp [eq]

/-- The order of fields does not count where each name stands once. -/
theorem lookup_eq_of_perm (names : (fields.map Prod.fst).Nodup) (perm : fields.Perm fields')
    (name : String) : fields.lookup name = fields'.lookup name := by
  have names' : (fields'.map Prod.fst).Nodup := (perm.map Prod.fst).nodup_iff.1 names
  refine Option.ext fun x => ?_
  rw [lookup_eq_some_iff_mem names, lookup_eq_some_iff_mem names', perm.mem_iff]

/-- Fields that agree one by one agree name by name. -/
theorem rel_lookup {R : α → α → Prop}
    (h : List.Forall₂ (fun f g => f.1 = g.1 ∧ R f.2 g.2) fields fields') (name : String) :
    Option.Rel R (fields.lookup name) (fields'.lookup name) := by
  induction h with
  | nil => exact .none
  | @cons f g _ _ head _ ih =>
    obtain ⟨names, values⟩ := head
    rw [List.lookup_cons, List.lookup_cons, ← names]
    split
    · exact .some values
    · exact ih

/-- Whether one field may stand before another. -/
def nameLE (f g : String × α) : Bool := !(g.1 < f.1)

theorem nameLE_iff {f g : String × α} : nameLE f g = true ↔ f.1 ≤ g.1 := by
  rw [nameLE, Bool.not_eq_true', decide_eq_false_iff_not, String.not_lt]

/-- Fields in the order of their names. -/
def sortFields (fields : List (String × α)) : List (String × α) := fields.mergeSort nameLE

theorem sortFields_perm (fields : List (String × α)) : (sortFields fields).Perm fields :=
  List.mergeSort_perm fields nameLE

theorem sortFields_map (g : α → β) (fields : List (String × α)) :
    sortFields (fields.map fun f => (f.1, g f.2)) =
      (sortFields fields).map fun f => (f.1, g f.2) := by
  symm
  refine List.map_mergeSort ?_
  intro _ _ _ _
  rfl

/-- Where each name stands once, the sorted fields rise strictly. -/
theorem pairwise_sortFields (names : (fields.map Prod.fst).Nodup) :
    (sortFields fields).Pairwise fun f g => f.1 < g.1 := by
  have sorted : (sortFields fields).Pairwise fun f g => nameLE f g = true := by
    refine List.pairwise_mergeSort ?_ ?_ fields
    · intro f g h
      simp only [nameLE_iff]
      exact String.le_trans
    · intro f g
      rw [Bool.or_eq_true, nameLE_iff, nameLE_iff]
      exact String.le_total f.1 g.1
  have distinct : (sortFields fields).Pairwise fun f g => f.1 ≠ g.1 :=
    List.pairwise_map.1 (((sortFields_perm fields).map Prod.fst).nodup_iff.2 names)
  refine (sorted.and distinct).imp ?_
  rintro f g ⟨le, ne⟩
  exact String.not_le.1 fun ge => ne (String.le_antisymm (nameLE_iff.1 le) ge)

/-- The same fields in another order are sorted alike. -/
theorem sortFields_eq_of_perm (names : (fields.map Prod.fst).Nodup) (perm : fields.Perm fields') :
    sortFields fields = sortFields fields' := by
  have names' : (fields'.map Prod.fst).Nodup := (perm.map Prod.fst).nodup_iff.1 names
  refine List.Perm.eq_of_pairwise ?_ (pairwise_sortFields names) (pairwise_sortFields names') ?_
  · intro f g _ _ lt gt
    exact absurd gt (String.lt_asymm lt)
  · exact (sortFields_perm fields).trans (perm.trans (sortFields_perm fields').symm)

end Fields

/-! ## The pieces of a canonical text -/

theorem canonicalItems_eq (xs : List Datum) : canonicalItems xs = xs.map canonicalChars := by
  induction xs with
  | nil => rfl
  | cons x xs ih => rw [canonicalItems, ih, List.map_cons]

theorem canonicalFields_eq (fields : List (String × Datum)) :
    canonicalFields fields = fields.map fun f => (f.1, f.2.canonicalChars) := by
  induction fields with
  | nil => rfl
  | cons f fields ih => rw [canonicalFields, ih, List.map_cons]

/-- A field as it stands in an object. -/
def canonicalField (f : String × Datum) : List Char :=
  quotedText f.1 ++ ':' :: ' ' :: f.2.canonicalChars

theorem canonicalChars_arr (xs : List Datum) :
    (arr xs).canonicalChars = '[' :: commaSeparated (xs.map canonicalChars) ++ [']'] := by
  rw [canonicalChars, canonicalItems_eq]

theorem canonicalChars_obj (fields : List (String × Datum)) :
    (obj fields).canonicalChars =
      '\x7b' :: commaSeparated ((sortFields fields).map canonicalField) ++ ['\x7d'] := by
  have sorted : byName (canonicalFields fields) =
      (sortFields fields).map fun f => (f.1, f.2.canonicalChars) := by
    rw [canonicalFields_eq]
    exact sortFields_map canonicalChars fields
  rw [canonicalChars, writeFields, sorted, List.map_map]
  rfl

/-! ## Equal values have one text -/

section Agree

variable {α β : Type} {R : α → α → Prop} {f : α → β}

theorem map_eq_of_forall₂ {xs ys : List α} (h : List.Forall₂ R xs ys)
    (same : ∀ x ∈ xs, ∀ y ∈ ys, R x y → f x = f y) : xs.map f = ys.map f := by
  induction h with
  | nil => rfl
  | cons head _ ih =>
    rw [List.map_cons, List.map_cons,
      same _ List.mem_cons_self _ List.mem_cons_self head,
      ih fun x hx y hy => same x (List.mem_cons_of_mem _ hx) y (List.mem_cons_of_mem _ hy)]

theorem map_eq_of_rel {a b : Option α} (h : Option.Rel R a b)
    (same : ∀ x, a = some x → ∀ y, b = some y → R x y → f x = f y) : a.map f = b.map f := by
  cases h with
  | none => rfl
  | some rel => rw [Option.map_some, Option.map_some, same _ rfl _ rfl rel]

end Agree

theorem map_fst_canonicalFields (fields : List (String × Datum)) :
    (canonicalFields fields).map Prod.fst = fields.map Prod.fst := by
  rw [canonicalFields_eq, List.map_map]
  rfl

theorem mem_canonicalFields_iff {fields : List (String × Datum)}
    (names : (fields.map Prod.fst).Nodup) {name : String} {t : List Char} :
    (name, t) ∈ canonicalFields fields ↔ (field? fields name).map canonicalChars = some t := by
  simp [canonicalFields_eq, field?, Option.map_eq_some_iff, lookup_eq_some_iff_mem names]

/-- Objects that have the same text under each name are written alike. -/
theorem byName_canonicalFields_eq {xs ys : List (String × Datum)}
    (hxs : (xs.map Prod.fst).Nodup) (hys : (ys.map Prod.fst).Nodup)
    (h : ∀ name, (field? xs name).map canonicalChars = (field? ys name).map canonicalChars) :
    byName (canonicalFields xs) = byName (canonicalFields ys) := by
  rw [← map_fst_canonicalFields] at hxs hys
  refine sortFields_eq_of_perm hxs ?_
  rw [List.perm_ext_iff_of_nodup (hxs.of_map _) (hys.of_map _)]
  rw [map_fst_canonicalFields] at hxs hys
  rintro ⟨name, t⟩
  rw [mem_canonicalFields_iff hxs, mem_canonicalFields_iff hys, h]

/-- Plain data that are one value have one text. -/
theorem SameValue.canonicalChars_eq {x y : Datum} (same : SameValue x y) (hx : Plain x)
    (hy : Plain y) : x.canonicalChars = y.canonicalChars := by
  induction hx generalizing y with
  | null | bool | int | str =>
    cases same
    rfl
  | arr _ ih =>
    cases same with | arr items =>
    cases hy with | arr each =>
    have texts := map_eq_of_forall₂ items fun x hx y hy same => ih x hx same (each y hy)
    rw [canonicalChars_arr, canonicalChars_arr, texts]
  | obj names _ ih =>
    cases same with | obj fields =>
    cases hy with | obj names' each =>
    rw [canonicalChars, canonicalChars, writeFields, writeFields,
      byName_canonicalFields_eq names names']
    refine fun name => map_eq_of_rel (fields name) fun x hx y hy same => ?_
    have value : (name, x) ∈ _ := (lookup_eq_some_iff_mem names).1 hx
    have value' : (name, y) ∈ _ := (lookup_eq_some_iff_mem names').1 hy
    exact ih _ value same (each _ value')

/-! ## A text is read in one way only -/

section Quoted

/-- The value of a hexadecimal digit. -/
def hexDigit (c : Char) : Nat := if c.isDigit then c.toNat - 0x30 else c.toNat - 0x57

/-- The character that a letter behind a backslash stands for. -/
def unescape (c : Char) : Char :=
  if c = 'n' then '\n'
  else if c = 'r' then '\r'
  else if c = 't' then '\t'
  else if c = 'b' then '\x08'
  else if c = 'f' then '\x0c'
  else c

/-- Read one character of an escaped text. -/
def readEscaped : List Char → Option (Char × List Char)
  | [] => none
  | '\\' :: 'u' :: rest =>
    some (Char.ofNat ((rest.take 4).foldl (fun n c => 16 * n + hexDigit c) 0), rest.drop 4)
  | '\\' :: c :: rest => some (unescape c, rest)
  | c :: rest => some (c, rest)

theorem readEscaped_escapeChar (c : Char) (rest : List Char) :
    readEscaped (escapeChar c ++ rest) = some (c, rest) := by
  have controls : ∀ n < 0x20, (Text.hexDigits 4 n).length = 4 ∧
      (Text.hexDigits 4 n).foldl (fun n c => 16 * n + hexDigit c) 0 = n := by decide
  unfold escapeChar
  iterate 7
    split
    · next eq =>
      rw [eq]
      rfl
  split
  · next control =>
    obtain ⟨length, value⟩ := controls c.toNat control
    simp only [List.cons_append, readEscaped]
    rw [List.take_left' length, List.drop_left' length, value, Char.ofNat_toNat]
  · unfold readEscaped
    split <;> simp_all

/-- An escaped text ends at the first quote that is not escaped. -/
theorem escaped_append_inj {s t r r' : List Char}
    (h : s.flatMap escapeChar ++ '"' :: r = t.flatMap escapeChar ++ '"' :: r') :
    s = t ∧ r = r' := by
  have no_quote (c : Char) (u v : List Char) : escapeChar c ++ u ≠ '"' :: v := by
    intro eq
    have read : readEscaped ('"' :: v) = some (c, u) := eq ▸ readEscaped_escapeChar c u
    cases read
    cases eq
  induction s generalizing t with
  | nil =>
    cases t with
    | nil => exact ⟨rfl, (List.cons.inj h).2⟩
    | cons d t =>
      rw [List.flatMap_cons, List.append_assoc] at h
      exact absurd h.symm (no_quote d _ r)
  | cons c s ih =>
    rw [List.flatMap_cons, List.append_assoc] at h
    cases t with
    | nil => exact absurd h (no_quote c _ r')
    | cons d t =>
      rw [List.flatMap_cons, List.append_assoc] at h
      have read := congrArg readEscaped h
      rw [readEscaped_escapeChar, readEscaped_escapeChar, Option.some.injEq, Prod.mk.injEq] at read
      obtain ⟨rfl, rest⟩ := read
      obtain ⟨rfl, rfl⟩ := ih rest
      exact ⟨rfl, rfl⟩

theorem quotedText_append_inj {s t : String} {r r' : List Char}
    (h : quotedText s ++ r = quotedText t ++ r') : s = t ∧ r = r' := by
  simp only [quotedText, List.cons_append, List.append_assoc, List.nil_append] at h
  obtain ⟨text, rest⟩ := escaped_append_inj (List.cons.inj h).2
  exact ⟨String.toList_inj.1 text, rest⟩

end Quoted

section Ends

/-- The characters of whole numbers. -/
def isNumeral (c : Char) : Bool := c.isDigit || c = '-'

/-- Whether a text does not go on with a number. -/
def EndsNumber (r : List Char) : Prop := ∀ c ∈ r.head?, isNumeral c = false

theorem isNumeral_of_mem_toString {n : Int} {c : Char} (mem : c ∈ (toString n).toList) :
    isNumeral c = true := by
  have natural {m : Nat} (mem : c ∈ m.repr.toList) : isNumeral c = true := by
    rw [Nat.toList_repr] at mem
    rw [isNumeral, Nat.isDigit_of_mem_toDigits (by decide) (by decide) mem, Bool.true_or]
  cases n with
  | ofNat m => exact natural mem
  | negSucc m =>
    have split : c = '-' ∨ c ∈ (m + 1).repr.toList := by
      have mem : c ∈ ("-" ++ (m + 1).repr).toList := mem
      simpa using mem
    rcases split with rfl | mem
    · rfl
    · exact natural mem

theorem toList_toString_ne_nil (n : Int) : (toString n).toList ≠ [] := by
  cases n with
  | ofNat m =>
    show m.repr.toList ≠ []
    rw [Nat.toList_repr]
    exact Nat.toDigits_ne_nil
  | negSucc m =>
    show ("-" ++ (m + 1).repr).toList ≠ []
    simp

theorem takeWhile_isNumeral {n : Int} {r : List Char} (ends : EndsNumber r) :
    ((toString n).toList ++ r).takeWhile isNumeral = (toString n).toList := by
  have behind : r.takeWhile isNumeral = [] := by
    cases r with
    | nil => rfl
    | cons c r => rw [List.takeWhile_cons_of_neg (by simp [ends c rfl])]
  rw [List.takeWhile_append_of_pos fun c mem => isNumeral_of_mem_toString mem, behind,
    List.append_nil]

theorem toString_append_inj {m n : Int} {r s : List Char} (hr : EndsNumber r) (hs : EndsNumber s)
    (h : (toString m).toList ++ r = (toString n).toList ++ s) : m = n ∧ r = s := by
  have number := congrArg (List.takeWhile isNumeral) h
  rw [takeWhile_isNumeral hr, takeWhile_isNumeral hs] at number
  rw [number] at h
  exact ⟨Int.repr_inj.1 (String.toList_inj.1 number), List.append_cancel_left h⟩

end Ends

section Lists

variable {α : Type} {R : α → α → Prop} {f : α → List Char} {xs ys : List α} {r s : List Char}

/-- Items that follow another one, and what stands behind them. -/
def following (f : α → List Char) (rest : List Char) : List α → List Char
  | [] => rest
  | x :: xs => ',' :: ' ' :: f x ++ following f rest xs

theorem commaSeparated_append (f : α → List Char) (x : α) (xs : List α) (rest : List Char) :
    commaSeparated ((x :: xs).map f) ++ rest = f x ++ following f rest xs := by
  unfold commaSeparated
  induction xs generalizing x with
  | nil => simp [following]
  | cons y ys ih =>
    rw [List.map_cons, List.map_cons, List.intercalate_cons_cons, List.append_assoc,
      ← List.map_cons, ih]
    simp [following]

/-- What stands behind an item of a list ends a number, for it is a comma or the end of the list. -/
theorem endsNumber_following (ends : EndsNumber r) (xs : List α) :
    EndsNumber (following f r xs) := by
  cases xs with
  | nil => exact ends
  | cons x xs =>
    rintro _ ⟨⟩
    rfl

/-- Whether the texts of items can be told apart where no number goes on behind them. -/
def TellsApart (R : α → α → Prop) (f : α → List Char) (x : α) (ys : List α) : Prop :=
  ∀ y ∈ ys, ∀ r s, EndsNumber r → EndsNumber s → f x ++ r = f y ++ s → R x y ∧ r = s

theorem forall₂_of_following {close : Char} (comma : close ≠ ',') (ends : isNumeral close = false)
    (tells : ∀ x ∈ xs, TellsApart R f x ys)
    (h : following f (close :: r) xs = following f (close :: s) ys) :
    List.Forall₂ R xs ys ∧ r = s := by
  have closed (r : List Char) : EndsNumber (close :: r) := by
    rintro _ ⟨⟩
    exact ends
  induction xs generalizing ys with
  | nil =>
    cases ys with
    | nil => exact ⟨.nil, (List.cons.inj h).2⟩
    | cons y ys => exact absurd (List.cons.inj h).1 comma
  | cons x xs ih =>
    cases ys with
    | nil => exact absurd (List.cons.inj h).1.symm comma
    | cons y ys =>
      have texts : f x ++ following f (close :: r) xs = f y ++ following f (close :: s) ys :=
        (List.cons.inj (List.cons.inj h).2).2
      obtain ⟨head, rest⟩ := tells x List.mem_cons_self y List.mem_cons_self _ _
        (endsNumber_following (closed r) xs) (endsNumber_following (closed s) ys) texts
      obtain ⟨tail, rfl⟩ := ih
        (fun x' hx y' hy => tells x' (List.mem_cons_of_mem x hx) y' (List.mem_cons_of_mem y hy))
        rest
      exact ⟨.cons head tail, rfl⟩

/-- Lists of items that can be told apart can be told apart themselves, if no item begins with what
closes a list. -/
theorem forall₂_of_commaSeparated {close : Char} (comma : close ≠ ',')
    (ends : isNumeral close = false) (tells : ∀ x ∈ xs, TellsApart R f x ys)
    (opens : ∀ x ∈ xs ++ ys, ∀ u v, f x ++ u ≠ close :: v)
    (h : commaSeparated (xs.map f) ++ close :: r = commaSeparated (ys.map f) ++ close :: s) :
    List.Forall₂ R xs ys ∧ r = s := by
  cases xs with
  | nil =>
    cases ys with
    | nil => exact ⟨.nil, (List.cons.inj h).2⟩
    | cons y ys =>
      rw [commaSeparated_append] at h
      exact absurd h.symm (opens y (by simp) _ r)
  | cons x xs =>
    rw [commaSeparated_append] at h
    cases ys with
    | nil => exact absurd h (opens x (by simp) _ s)
    | cons y ys =>
      rw [commaSeparated_append] at h
      refine forall₂_of_following comma ends tells ?_
      rw [following, following, List.cons_append, List.cons_append, List.cons_append,
        List.cons_append, h]

end Lists

/-! ### Kinds of values -/

/-- What the first character of a canonical text tells. -/
inductive Shape where
  | constant
  | number
  | text
  | list
  | object
deriving DecidableEq

/-- The shape of a value whose canonical text begins with the character. -/
def Shape.ofChar? (c : Char) : Option Shape :=
  if c = '"' then some .text
  else if c = '[' then some .list
  else if c = '\x7b' then some .object
  else if isNumeral c then some .number
  else if c = 'n' || c = 't' || c = 'f' then some .constant
  else none

/-- The shape of plain data. -/
def shape : Datum → Shape
  | .int _ => .number
  | .str _ => .text
  | .arr _ => .list
  | .obj _ => .object
  | _ => .constant

theorem Shape.ofChar?_of_isNumeral {c : Char} (h : isNumeral c = true) :
    ofChar? c = some .number := by
  have other (d : Char) (not : isNumeral d = false) : c ≠ d := by
    rintro rfl
    rw [h] at not
    cases not
  rw [ofChar?, if_neg (other _ (by decide)), if_neg (other _ (by decide)),
    if_neg (other _ (by decide)), if_pos h]

variable {x y : Datum} {r s : List Char}

/-- The first character of a canonical text tells the shape of the value. -/
theorem Plain.exists_head (h : Plain x) :
    ∃ c cs, x.canonicalChars = c :: cs ∧ Shape.ofChar? c = some x.shape := by
  cases h with
  | null => exact ⟨'n', _, by rw [canonicalChars]; rfl, rfl⟩
  | bool b => cases b <;> exact ⟨_, _, by rw [canonicalChars]; rfl, by decide⟩
  | int n =>
    obtain ⟨c, cs, split⟩ := List.exists_cons_of_ne_nil (toList_toString_ne_nil n)
    have numeral : isNumeral c = true := isNumeral_of_mem_toString (split ▸ List.mem_cons_self)
    exact ⟨c, cs, by rw [canonicalChars, split], Shape.ofChar?_of_isNumeral numeral⟩
  | str s => exact ⟨'"', _, by rw [canonicalChars]; rfl, rfl⟩
  | arr _ => exact ⟨'[', _, by rw [canonicalChars]; rfl, rfl⟩
  | obj _ _ => exact ⟨'\x7b', _, by rw [canonicalChars]; rfl, rfl⟩

theorem Plain.shape_eq (hx : Plain x) (hy : Plain y)
    (h : x.canonicalChars ++ r = y.canonicalChars ++ s) : x.shape = y.shape := by
  obtain ⟨c, cs, hc, shape⟩ := hx.exists_head
  obtain ⟨d, ds, hd, shape'⟩ := hy.exists_head
  rw [hc, hd] at h
  obtain rfl := (List.cons.inj h).1
  exact Option.some.inj (shape.symm.trans shape')

/-- No canonical text begins with what closes a list. -/
theorem Plain.append_ne (h : Plain x) : x.canonicalChars ++ r ≠ ']' :: s := by
  obtain ⟨c, cs, hc, shape⟩ := h.exists_head
  rw [hc]
  intro eq
  obtain rfl := (List.cons.inj eq).1
  exact Option.some_ne_none _ shape.symm

theorem canonicalChars_arr_append (xs : List Datum) (r : List Char) :
    (arr xs).canonicalChars ++ r =
      '[' :: (commaSeparated (xs.map canonicalChars) ++ ']' :: r) := by
  rw [canonicalChars_arr, List.append_assoc]
  rfl

theorem canonicalChars_obj_append (fields : List (String × Datum)) (r : List Char) :
    (obj fields).canonicalChars ++ r =
      '\x7b' :: (commaSeparated ((sortFields fields).map canonicalField) ++ '\x7d' :: r) := by
  rw [canonicalChars_obj, List.append_assoc]
  rfl

/-- Lists whose items can be told apart can be told apart. -/
theorem sameValue_arr {xs ys : List Datum} (hxs : ∀ x ∈ xs, Plain x) (hys : ∀ y ∈ ys, Plain y)
    (tells : ∀ x ∈ xs, TellsApart SameValue canonicalChars x ys)
    (h : (arr xs).canonicalChars ++ r = (arr ys).canonicalChars ++ s) :
    SameValue (.arr xs) (.arr ys) ∧ r = s := by
  rw [canonicalChars_arr_append, canonicalChars_arr_append] at h
  have opens : ∀ x ∈ xs ++ ys, ∀ u v, x.canonicalChars ++ u ≠ ']' :: v := by
    intro x mem u v
    exact Plain.append_ne ((List.mem_append.1 mem).elim (hxs x) (hys x))
  obtain ⟨items, rest⟩ :=
    forall₂_of_commaSeparated (by decide) (by decide) tells opens (List.cons.inj h).2
  exact ⟨.arr items, rest⟩

/-- Fields whose values can be told apart can be told apart, since a name ends with its quote. -/
theorem tellsApart_canonicalField {f : String × Datum} {fields : List (String × Datum)}
    (tells : TellsApart SameValue canonicalChars f.2 (fields.map Prod.snd)) :
    TellsApart (fun f g => f.1 = g.1 ∧ SameValue f.2 g.2) canonicalField f fields := by
  intro g hg r s hr hs eq
  rw [canonicalField, canonicalField, List.append_assoc, List.append_assoc] at eq
  obtain ⟨name, behind⟩ := quotedText_append_inj eq
  have values : f.2.canonicalChars ++ r = g.2.canonicalChars ++ s :=
    (List.cons.inj (List.cons.inj behind).2).2
  obtain ⟨same, rest⟩ := tells g.2 (List.mem_map_of_mem hg) r s hr hs values
  exact ⟨⟨name, same⟩, rest⟩

/-- Objects whose values can be told apart can be told apart, for both are written in the order of
their names. -/
theorem sameValue_obj {xs ys : List (String × Datum)} (names : (xs.map Prod.fst).Nodup)
    (names' : (ys.map Prod.fst).Nodup)
    (tells : ∀ f ∈ xs, TellsApart SameValue canonicalChars f.2 (ys.map Prod.snd))
    (h : (obj xs).canonicalChars ++ r = (obj ys).canonicalChars ++ s) :
    SameValue (.obj xs) (.obj ys) ∧ r = s := by
  rw [canonicalChars_obj_append, canonicalChars_obj_append] at h
  have opens : ∀ f ∈ sortFields xs ++ sortFields ys, ∀ u v,
      canonicalField f ++ u ≠ '\x7d' :: v := by
    rintro f - u v ⟨⟩
  have sorted : ∀ f ∈ sortFields xs, TellsApart
      (fun f g => f.1 = g.1 ∧ SameValue f.2 g.2) canonicalField f (sortFields ys) := by
    intro f hf
    refine tellsApart_canonicalField fun y hy => ?_
    exact tells f ((sortFields_perm xs).mem_iff.1 hf) y
      (((sortFields_perm ys).map Prod.snd).mem_iff.1 hy)
  obtain ⟨fields, rest⟩ :=
    forall₂_of_commaSeparated (by decide) (by decide) sorted opens (List.cons.inj h).2
  refine ⟨.obj fun name => ?_, rest⟩
  have rel := rel_lookup fields name
  rwa [← lookup_eq_of_perm names (sortFields_perm xs).symm,
    ← lookup_eq_of_perm names' (sortFields_perm ys).symm] at rel

/-- If two plain data, each with something behind it that no number goes on with, have the same text
together, the data are one value and what is behind is the same. -/
theorem Plain.tells (hx : Plain x) (hy : Plain y) (hr : EndsNumber r) (hs : EndsNumber s)
    (h : x.canonicalChars ++ r = y.canonicalChars ++ s) : SameValue x y ∧ r = s := by
  -- By the shape, both are of one kind, so that only the cases on the diagonal are left.
  induction hx generalizing y r s with
  | null =>
    have shape := Plain.null.shape_eq hy h
    cases hy with
    | null => exact ⟨.null, List.append_cancel_left h⟩
    | bool b => cases b <;> cases h
    | _ => cases shape
  | bool a =>
    have shape := (Plain.bool a).shape_eq hy h
    cases hy with
    | null => cases a <;> cases h
    | bool b =>
      cases a <;> cases b
      · exact ⟨.bool false, List.append_cancel_left h⟩
      · cases h
      · cases h
      · exact ⟨.bool true, List.append_cancel_left h⟩
    | _ => cases shape
  | int m =>
    have shape := (Plain.int m).shape_eq hy h
    cases hy with
    | int n =>
      rw [canonicalChars, canonicalChars] at h
      obtain ⟨rfl, rfl⟩ := toString_append_inj hr hs h
      exact ⟨.int m, rfl⟩
    | _ => cases shape
  | str a =>
    have shape := (Plain.str a).shape_eq hy h
    cases hy with
    | str b =>
      rw [canonicalChars, canonicalChars] at h
      obtain ⟨rfl, rfl⟩ := quotedText_append_inj h
      exact ⟨.str a, rfl⟩
    | _ => cases shape
  | arr each ih =>
    have shape := (Plain.arr each).shape_eq hy h
    cases hy with
    | arr each' =>
      refine sameValue_arr each each' ?_ h
      intro x hx y hy r s hr hs eq
      exact ih x hx (each' y hy) hr hs eq
    | _ => cases shape
  | obj names each ih =>
    have shape := (Plain.obj names each).shape_eq hy h
    cases hy with
    | obj names' each' =>
      refine sameValue_obj names names' ?_ h
      intro f hf y hy r s hr hs eq
      obtain ⟨g, hg, rfl⟩ := List.mem_map.1 hy
      exact ih f hf (each' g hg) hr hs eq
    | _ => cases shape

/-- Plain data have one text if and only if they are one value. -/
theorem Plain.canonicalChars_eq_iff (hx : Plain x) (hy : Plain y) :
    x.canonicalChars = y.canonicalChars ↔ SameValue x y := by
  have ends : EndsNumber [] := by
    rintro _ ⟨⟩
  constructor
  · intro h
    exact (hx.tells hy ends ends (congrArg (· ++ []) h)).1
  · intro same
    exact same.canonicalChars_eq hx hy

theorem Plain.sameValue_self (h : Plain x) : SameValue x x := (h.canonicalChars_eq_iff h).1 rfl

/-- The same fields in another order are one value. -/
theorem Plain.sameValue_of_perm {fields fields' : List (String × Datum)}
    (h : Plain (.obj fields)) (perm : fields.Perm fields') :
    SameValue (.obj fields) (.obj fields') := by
  cases h with | obj names each =>
  refine .obj fun name => ?_
  have lookup : field? fields name = field? fields' name := lookup_eq_of_perm names perm name
  rw [← lookup]
  cases value : field? fields name with
  | none => exact .none
  | some x =>
    have mem : (name, x) ∈ fields := (lookup_eq_some_iff_mem names).1 value
    exact .some (each _ mem).sameValue_self

end OrderRetrieval.Datum
