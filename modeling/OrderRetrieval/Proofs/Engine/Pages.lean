import OrderRetrieval.Proofs.Engine.Answer

/-!
# The pages of a result

What a search reports on one page does not depend on what the engine remembers, so the pages of a
query belong together whatever is searched between the requests for them.  They partition the list
of all hits (`SearchResult.Paged`, `Engine.search_pages`): put together they are the list, each page
before the last is full and none is needless.
-/

namespace OrderRetrieval

/-- The pages of a list, put together, are the beginning of the list. -/
theorem flatMap_pages {α : Type} (xs : List α) (limit pages : Nat) :
    ((List.range pages).flatMap fun i => (xs.drop (i * limit)).take limit) =
      xs.take (pages * limit) := by
  induction pages with
  | zero => simp
  | succ pages ih =>
    rw [List.range_succ, List.flatMap_append, ih, Nat.succ_mul, List.take_add]
    simp

/-- A whole number that a quantity does not exceed is less than one that it falls below. -/
theorem Quantity.lt_of_not_lt {q : Quantity} {m n : Int} (le : q.lt (.whole m) = false)
    (less : q.lt (.whole n) = true) : m < n := by
  cases q with
  | whole k =>
    simp only [lt, decide_eq_false_iff_not, decide_eq_true_eq] at le less
    omega
  | double x =>
    simp only [lt] at le less
    split at le
    · next floor =>
      simp only [floor, decide_eq_false_iff_not, decide_eq_true_eq] at le less
      omega
    · next floor =>
      simp only [floor] at less
      rw [le] at less
      cases less

/-- Whether some results are the pages, from the first on, of a list of hits of which a page has
room for so many. -/
structure SearchResult.Paged (hits : List Hit) (limit pages : Nat) (results : Nat → SearchResult) :
    Prop where
  joined : ((List.range pages).flatMap fun i => (results (i + 1)).items) = hits
  full : ∀ n, 1 ≤ n → n < pages → (results n).items.length = limit
  last : 1 ≤ pages → (results pages).items ≠ []
  beyond : ∀ n, pages < n → (results n).items = []
  least : ∀ n, pages ≤ n ↔ hits.length ≤ n * limit
  total : ∀ n, 1 ≤ n → (results n).total = hits.length
  totalPages : ∀ n, 1 ≤ n → (results n).totalPages = pages
  facets : ∀ m n, 1 ≤ m → 1 ≤ n → (results m).facets = (results n).facets
  dateRange : ∀ m n, 1 ≤ m → 1 ≤ n → (results m).dateRange = (results n).dateRange

/-- Slices of a list are its pages if there are just enough of them. -/
theorem SearchResult.paged_of_slices {hits : List Hit} {limit pages : Nat}
    {results : Nat → SearchResult} (facets : List (Field × Facet.Counts))
    (range : Option MomentRange) (least : ∀ n, pages ≤ n ↔ hits.length ≤ n * limit)
    (slices : ∀ n, 1 ≤ n → (results n).items = (hits.drop ((n - 1) * limit)).take limit ∧
      (results n).total = hits.length ∧ (results n).totalPages = pages ∧
      (results n).facets = facets ∧ (results n).dateRange = range) :
    Paged hits limit pages results where
  joined := by
    have items : ∀ i, (results (i + 1)).items = (hits.drop (i * limit)).take limit :=
      fun i => (slices (i + 1) (Nat.succ_pos i)).1
    simp only [items, flatMap_pages]
    exact List.take_of_length_le ((least pages).1 (Nat.le_refl pages))
  full := by
    intro n hn before
    -- Page `n` is full, since `n` pages are not enough for what lies beyond it.
    have more : ¬hits.length ≤ n * limit := (least n).not.1 (Nat.not_le.2 before)
    have split : n * limit = (n - 1) * limit + limit := by
      rw [← Nat.succ_mul, Nat.succ_eq_add_one, Nat.sub_add_cancel hn]
    rw [(slices n hn).1, List.length_take, List.length_drop]
    omega
  last := by
    intro some empty
    have more : ¬hits.length ≤ (pages - 1) * limit := (least (pages - 1)).not.1 (by omega)
    have room : 0 < limit := by
      have enough := (least pages).1 (Nat.le_refl pages)
      rcases Nat.eq_zero_or_pos limit with rfl | room
      · omega
      · exact room
    rw [(slices pages some).1, List.take_eq_nil_iff, List.drop_eq_nil_iff] at empty
    omega
  beyond := by
    intro n after
    have enough : hits.length ≤ (n - 1) * limit := (least (n - 1)).1 (by omega)
    rw [(slices n (by omega)).1, List.drop_of_length_le enough, List.take_nil]
  least := least
  total := fun n hn => (slices n hn).2.1
  totalPages := fun n hn => (slices n hn).2.2.1
  facets := fun m n hm hn => (slices m hm).2.2.2.1.trans (slices n hn).2.2.2.1.symm
  dateRange := fun m n hm hn => (slices m hm).2.2.2.2.trans (slices n hn).2.2.2.2.symm

/-- The query for some page of what a query finds. -/
def Query.atPage (n : Nat) : Query → Query
  | simple q => simple { q with paging := { q.paging with page := n } }
  | advanced q => advanced { q with paging := { q.paging with page := n } }

namespace Plan

variable {settings : Settings} {p : Plan} {q : Query} {n : Nat}

/-- The plan for some page of what a plan finds. -/
def atPage (n : Nat) (p : Plan) : Plan := { p with paging := { p.paging with page := n } }

/-- A page and options without faults. -/
theorem boundFaults_eq_nil_iff {paging : Paging} {o : Options} :
    boundFaults settings paging o = [] ↔ 1 ≤ paging.page ∧
      (1 ≤ paging.limit ∧ settings.maxPageSize.lt (.whole paging.limit) = false) ∧
      Double.le 0 o.fuzzyThreshold = true ∧ Double.le o.fuzzyThreshold 1 = true := by
  simp [boundFaults]

/-- The page and the options of a query without faults are within their bounds. -/
theorem boundFaults_of_ofQuery (h : ofQuery settings q = .ok (p, [])) :
    boundFaults settings q.paging q.options = [] := by
  obtain ⟨faults, -, none⟩ := exists_ofQuery_iff.1 ⟨p, h⟩
  simp only [List.nil_eq, List.append_eq_nil_iff, Query.ownFaults] at none
  exact none.1.1.1

/-- The plan for some page of what a query asks for. -/
theorem map_fst_ofQuery_atPage (settings : Settings) (n : Nat) (q : Query) :
    (ofQuery settings (q.atPage n)).map Prod.fst =
      (ofQuery settings q).map fun planned => planned.1.atPage n := by
  cases q with
  | simple q =>
    simp only [Query.atPage, ofQuery, ofSimple]
    cases Condition.compileEach q.filters <;> rfl
  | advanced q =>
    simp only [Query.atPage, ofQuery, ofAdvanced]
    cases Condition.compileEach q.filters with
    | error e => rfl
    | ok compiled =>
      simp only [bind, Except.bind]
      have ranges (paging : Paging) : rangeConditions { q with paging } = rangeConditions q := rfl
      rw [ranges]
      cases Condition.compileEach (rangeConditions q) <;> rfl

/-- What a query without faults finds has a page of every number. -/
theorem ofQuery_atPage (hn : 1 ≤ n) (h : ofQuery settings q = .ok (p, [])) :
    ofQuery settings (q.atPage n) = .ok (p.atPage n, []) := by
  obtain ⟨faults, reported, none⟩ := exists_ofQuery_iff.1 ⟨p, h⟩
  have page : (q.atPage n).ownFaults settings ++ faults = [] := by
    simp only [List.nil_eq, List.append_eq_nil_iff, Query.ownFaults] at none ⊢
    obtain ⟨⟨⟨bounds, fields⟩, facets⟩, rfl⟩ := none
    have hn : (1 : Int) ≤ n := by exact_mod_cast hn
    rw [boundFaults_eq_nil_iff] at bounds ⊢
    cases q <;> exact ⟨⟨⟨⟨hn, bounds.2⟩, fields⟩, facets⟩, rfl⟩
  have conditions : (q.atPage n).conditions = q.conditions := by
    cases q <;> rfl
  rw [← conditions] at reported
  obtain ⟨p', hp'⟩ := exists_ofQuery_iff.2 ⟨faults, reported, page.symm⟩
  have plan := map_fst_ofQuery_atPage settings n q
  rw [hp', h] at plan
  obtain rfl : p' = p.atPage n := Except.ok.inj plan
  exact hp'

theorem pageCount_congr {p' : Plan} (h : p.paging.limit = p'.paging.limit) (total : Nat) :
    p.pageCount total = p'.pageCount total := by
  unfold pageCount
  rw [h]

/-- The number of pages is the least with room for all items. -/
theorem pageCount_le_iff {total : Nat} (some : 1 ≤ p.paging.limit)
    (small : p.paging.limit < (Number.twoTo 1075 : Nat)) :
    p.pageCount total ≤ n ↔ total ≤ n * p.paging.limit.toNat := by
  obtain ⟨limit, hlimit⟩ := Int.eq_ofNat_of_zero_le (Int.le_trans (by decide) some)
  simp only [pageCount, hlimit, Int.toNat_natCast] at *
  generalize Number.twoTo 1075 = bound at *
  have some : 1 ≤ limit := by exact_mod_cast some
  have small : limit < bound := by exact_mod_cast small
  split
  · next vanishes =>
    have none : total = 0 := by
      by_contra ne
      have := Nat.le_mul_of_pos_left bound (Nat.pos_of_ne_zero ne)
      omega
    simp [none]
  · rw [Nat.div_le_iff_le_mul_add_pred some, Nat.mul_comm n]
    omega

theorem pageOf_atPage {α : Type} (items : List α) (hn : 1 ≤ n) (some : 1 ≤ p.paging.limit) :
    (p.atPage n).pageOf items =
      (items.drop ((n - 1) * p.paging.limit.toNat)).take p.paging.limit.toNat := by
  obtain ⟨limit, hlimit⟩ := Int.eq_ofNat_of_zero_le (Int.le_trans (by decide) some)
  have offset : (p.atPage n).offset = ((n - 1) * limit : Nat) := by
    simp only [Plan.offset, atPage, hlimit]
    push_cast [hn]
    rfl
  have same : (p.atPage n).paging.limit = limit := hlimit
  simp only [pageOf, offset, same, hlimit, Int.toNat_natCast]

end Plan

/-! ## A page for each parcel -/

namespace Parcels

/-- The index of the two parcels. -/
def index : Index := (Order.indexAll .empty 0 (orders "b")).1

/-- The parcels by number, one to a page. -/
def single : Query := .simple {
  text := none
  searchFields := []
  filters := []
  sort := [⟨"orderNumber", .ascending⟩]
  paging := ⟨1, 1⟩
  options := .default
  facetFields := none }

end Parcels

namespace Engine

variable {settings : Settings} {e : Engine} {index : Index} {millis : Float} {q : Query}

/-- A search that succeeds has carried out the plan of a query without faults. -/
theorem plan_of_search {r : SearchResult} (h : (e.search settings index millis q).result = .ok r) :
    ∃ p, Plan.ofQuery settings q = .ok (p, []) ∧
      (e.execute settings index millis p).result = .ok r := by
  unfold search at h
  split at h
  · cases h
  · next p faults planned =>
    split at h
    · cases h
    · next none =>
      cases faults with
      | nil => exact ⟨p, planned, h⟩
      | cons fault faults => cases none

/-- Whatever the engine remembers, an answered page is a slice of what the plan finds, and its
totals, facets and range of dates are those of the whole. -/
theorem page_of_search {p : Plan} {items : List (Scored Nat)} {names : List Datum}
    {facets : List (Field × Facet.Counts)} {range : Option MomentRange} {n : Nat} {r : SearchResult}
    (hp : Plan.ofQuery settings q = .ok (p, [])) (found : (p.found index).result = .ok items)
    (hnames : p.facetNames settings = .ok names)
    (overview : Plan.overview names (items.map Scored.document) = .ok (facets, range))
    (some : 1 ≤ p.paging.limit) (hn : 1 ≤ n)
    (h : (e.search settings index millis (q.atPage n)).result = .ok r) :
    r.items = ((items.map p.hit).drop ((n - 1) * p.paging.limit.toNat)).take p.paging.limit.toNat ∧
      r.total = (items.map p.hit).length ∧ r.totalPages = p.pageCount items.length ∧
      r.facets = facets ∧ r.dateRange = range := by
  rw [search_eq_execute (Plan.ofQuery_atPage hn hp)] at h
  obtain ⟨_, _, suggestions, _, _, found', hnames', -, overview', eq⟩ := execute_eq_ok.1 h
  cases found.symm.trans found'
  cases hnames.symm.trans hnames'
  cases overview.symm.trans overview'
  rw [eq]
  dsimp only
  refine ⟨?_, (List.length_map _).symm, Plan.pageCount_congr rfl _, rfl, rfl⟩
  rw [Plan.pageOf_atPage items hn some, List.map_take, List.map_drop]
  rfl

/-- **The pages of a query partition its result.**  If a query is answered, there is one list of
items such that whatever else is searched between the requests for its pages, each page that is
answered is the slice of that list, and all pages report the same totals, facets and range of dates.
With sound settings every page is answered.  The page size is bounded because a share of a page that
lies nearer to zero than to any double counts as no page. -/
theorem search_pages (settings : Settings) (index : Index) (q : Query)
    (small : settings.maxPageSize.lt (.whole (Number.twoTo 1075 : Nat)) = true)
    (answered : ∃ (e : Engine) (millis : Float) (r : SearchResult),
      (e.search settings index millis q).result = .ok r) :
    ∃ (p : Plan) (items : List (Scored Nat)) (pages : Nat),
      Plan.ofQuery settings q = .ok (p, []) ∧ (p.found index).result = .ok items ∧
      ((∀ d ∈ index.documents, d.SortableBy (Sorting.keys q.sort)) →
        q.Finds index.documents items) ∧
      (settings.Sound → ∀ (e : Engine) (millis : Float) (n : Nat), 1 ≤ n →
        ∃ r, (e.search settings index millis (q.atPage n)).result = .ok r) ∧
      ∀ results : Nat → SearchResult,
        (∀ n, 1 ≤ n → ∃ (e : Engine) (millis : Float),
          (e.search settings index millis (q.atPage n)).result = .ok (results n)) →
        SearchResult.Paged (items.map p.hit) q.paging.limit.toNat pages results := by
  obtain ⟨e, millis, r, hr⟩ := answered
  obtain ⟨p, hp, hr⟩ := plan_of_search hr
  obtain ⟨items, names, suggestions, facets, range, found, hnames, -, overview, -⟩ :=
    execute_eq_ok.1 hr
  have does : p.Does q := Plan.does_of_ofQuery hp
  obtain ⟨some, within⟩ := (Plan.boundFaults_eq_nil_iff.1 (Plan.boundFaults_of_ofQuery hp)).2.1
  have fits : q.paging.limit < (Number.twoTo 1075 : Nat) := Quantity.lt_of_not_lt within small
  rw [← does.paging] at some fits ⊢
  refine ⟨p, items, p.pageCount items.length, hp, found, ?_, ?_, ?_⟩
  · intro sortable
    obtain ⟨others, found', finds⟩ := Plan.found_finds does sortable
    cases found.symm.trans found'
    exact finds
  · intro sound e millis n hn
    rw [search_eq_execute (Plan.ofQuery_atPage hn hp)]
    obtain ⟨suggestions, consulted⟩ := consult_eq_ok sound e index (p.atPage n)
    exact ⟨_, execute_eq_ok.2 ⟨items, names, suggestions, facets, range, found, hnames, consulted,
      overview, rfl⟩⟩
  · intro results answers
    refine SearchResult.paged_of_slices facets range ?_ ?_
    · intro n
      rw [List.length_map]
      exact Plan.pageCount_le_iff some fits
    · intro n hn
      obtain ⟨e, millis, h⟩ := answers n hn
      exact page_of_search hp found hnames overview some hn h

/-- The pages with one parcel each partition the parcels. -/
theorem search_pages_parcels :
    Settings.default.maxPageSize.lt (.whole (Number.twoTo 1075 : Nat)) = true ∧
      (∃ r, ((start none).search .default Parcels.index 0 Parcels.single).result = .ok r) ∧
      ∃ (hits : List Hit) (pages : Nat) (results : Nat → SearchResult),
        (∀ n, 1 ≤ n → ((start none).search .default Parcels.index 0
          (Parcels.single.atPage n)).result = .ok (results n)) ∧
        SearchResult.Paged hits 1 pages results := by
  have small : Settings.default.maxPageSize.lt (.whole (Number.twoTo 1075 : Nat)) = true := by
    decide +kernel
  have answered :
      ∃ r, ((start none).search .default Parcels.index 0 Parcels.single).result = .ok r :=
    search_answers Settings.sound_default Parcels.answerable rfl
  refine ⟨small, answered, ?_⟩
  obtain ⟨p, items, pages, -, -, -, answers, paged⟩ :=
    search_pages .default Parcels.index Parcels.single small ⟨_, _, answered⟩
  have page : ∀ n, ∃ r, 1 ≤ n → ((start none).search .default Parcels.index 0
      (Parcels.single.atPage n)).result = .ok r := by
    intro n
    by_cases hn : 1 ≤ n
    · obtain ⟨r, hr⟩ := answers Settings.sound_default (start none) 0 n hn
      exact ⟨r, fun _ => hr⟩
    · obtain ⟨r, -⟩ := answered
      exact ⟨r, fun h => absurd h hn⟩
  choose results found using page
  exact ⟨items.map p.hit, pages, results, found, paged results fun n hn => ⟨_, _, found n hn⟩⟩

end Engine

end OrderRetrieval
