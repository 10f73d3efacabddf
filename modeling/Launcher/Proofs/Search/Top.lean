import Launcher.Proofs.Decimal.Order
import Launcher.Proofs.Search.Rank
import Launcher.Proofs.Text.Lowercase

/-!
# A search gives the top of the catalog

The order of the matches of a query is total: higher scores come first, what is not a number comes
after every number, and among equals the position in the catalog decides. A search sorts by the
score alone. As the rows are taken in the order of the catalog and sorting keeps the order of what
is tied, the sorted matches are in the order of the matches, so cutting them off leaves the top:

> `pairwise_mergeSort_ties` sorting keeps the order of ties
> `isTop_take_sorted`, `IsTop.eq_take_sorted` the top of the catalog is one list
> **`Index.search_isTop`** a search gives the top of its catalog
-/

namespace Launcher

open Launcher.Text Decimal

/-! ## Sorting and ties -/

section MergeSort

variable {β : Type} {le : β → β → Bool} {l : List β}
  (htrans : ∀ a b c, le a b = true → le b c = true → le a c = true)
  (htotal : ∀ a b, (le a b || le b a) = true)
include htrans htotal

/-- What is tied with an element stands in the sorted list as it stood before. -/
theorem filter_ties_mergeSort (a : β) :
    (l.mergeSort le).filter (fun b => le a b && le b a) = l.filter fun b => le a b && le b a := by
  have hsorted : (l.filter fun b => le a b && le b a).Pairwise fun b c => le b c = true := by
    refine List.pairwise_of_forall_mem_list ?_
    intro b hb c hc
    simp only [List.mem_filter, Bool.and_eq_true] at hb hc
    exact htrans b a c hb.2.2 hc.2.1
  have hsub := List.sublist_mergeSort htrans htotal hsorted List.filter_sublist
  have hkept := hsub.filter fun b => le a b && le b a
  rw [List.filter_filter] at hkept
  simp only [Bool.and_self] at hkept
  refine (hkept.eq_of_length ?_).symm
  exact ((List.mergeSort_perm l le).filter _).length_eq.symm

/-- Where sorting decides nothing, the order from before does. -/
theorem pairwise_mergeSort_ties {R : β → β → Prop} (hl : l.Pairwise R) :
    (l.mergeSort le).Pairwise fun a b => le a b = true ∧ (le b a = true → R a b) := by
  rw [List.pairwise_iff_forall_sublist]
  intro a b hab
  have hle : le a b = true :=
    List.pairwise_iff_forall_sublist.mp (List.pairwise_mergeSort htrans htotal l) hab
  refine ⟨hle, ?_⟩
  intro hle'
  have hself : le a a = true := by simpa using htotal a a
  have htied := hab.filter fun c => le a c && le c a
  rw [filter_ties_mergeSort htrans htotal a] at htied
  simp only [List.filter_cons, hself, hle, hle', Bool.and_self, if_true, List.filter_nil] at htied
  exact List.pairwise_iff_forall_sublist.mp hl (htied.trans List.filter_sublist)

end MergeSort

/-! ## The order of matches -/

/-- The first score is the higher one; what is not a number is below every number. -/
def IsAbove (x y : Float) : Prop := y < x ∨ x.isNaN = false ∧ y.isNaN = true

/-- The first match comes before the second: its score is higher, or neither score is and it stands
earlier in the catalog. -/
def Match.Precedes (first second : Match Float) : Prop :=
  IsAbove first.score second.score ∨
    ¬IsAbove second.score first.score ∧ first.position < second.position

variable {x y : Float}

/-- One score is above another if it is a number and the other is not a larger one or the same. -/
theorem isAbove_iff :
    IsAbove x y ↔ ∃ k, rankKey x = some k ∧ ∀ l, rankKey y = some l → l < k := by
  have hx : x.isNaN = true ↔ rankKey x = none := isNaN_iff_rankKey
  have hy : y.isNaN = true ↔ rankKey y = none := isNaN_iff_rankKey
  unfold IsAbove
  rw [lt_iff_rankKey, ← Bool.not_eq_true x.isNaN, hx, hy]
  cases rankKey x with
  | none => simp
  | some k => cases rankKey y <;> simp

theorem IsAbove.asymm (h : IsAbove x y) : ¬IsAbove y x := by
  rw [isAbove_iff] at h ⊢
  intro h'
  obtain ⟨k, hk, hbelow⟩ := h
  obtain ⟨l, hl, hbelow'⟩ := h'
  exact absurd (hbelow l hl) (Int.not_lt.mpr (Int.le_of_lt (hbelow' k hk)))

/-- A score is ranked at least as high as another exactly if the other is not above it. -/
theorem atLeast_iff : Graded.atLeast x y = true ↔ ¬IsAbove y x := by
  rw [isAbove_iff]
  simp only [Graded.atLeast]
  cases rankKey x with
  | none => cases rankKey y <;> simp
  | some k => cases rankKey y <;> simp

/-- A match stands before another unless its score is below. -/
theorem before_iff {first second : Match Float} :
    first.before second = true ↔ ¬IsAbove second.score first.score := atLeast_iff

/-- Of two matches one may stand before the other. -/
theorem before_total (first second : Match Float) :
    (first.before second || second.before first) = true := by
  rw [Bool.or_eq_true, before_iff, before_iff]
  by_cases h : IsAbove second.score first.score
  · exact Or.inr h.asymm
  · exact Or.inl h

/-- Standing before is transitive, also where scores are not numbers. -/
theorem before_trans (first second third : Match Float) (h : first.before second = true)
    (h' : second.before third = true) : first.before third = true := by
  rw [before_iff, isAbove_iff] at *
  intro habove
  obtain ⟨k, hk, hbelow⟩ := habove
  -- the second score is a number that is at least the third, so it is above the first
  have hsecond : ∃ l, rankKey second.score = some l ∧ k ≤ l := by
    by_contra hnot
    refine h' ⟨k, hk, ?_⟩
    intro l hl
    by_contra hle
    exact hnot ⟨l, hl, Int.not_lt.mp hle⟩
  obtain ⟨l, hl, hle⟩ := hsecond
  refine h ⟨l, hl, ?_⟩
  intro j hj
  exact Int.lt_of_lt_of_le (hbelow j hj) hle

namespace Match

variable {first second : Match Float}

/-- Two matches do not precede each other. -/
theorem Precedes.asymm (h : first.Precedes second) : ¬second.Precedes first := by
  intro h'
  unfold Precedes at h h'
  obtain habove | ⟨hnot, hlt⟩ := h
  · obtain habove' | ⟨hnot', -⟩ := h'
    · exact habove.asymm habove'
    · exact hnot' habove
  · obtain habove' | ⟨-, hlt'⟩ := h'
    · exact hnot habove'
    · omega

/-- Of two matches at different positions one precedes the other. -/
theorem precedes_of_not (hne : first.position ≠ second.position)
    (h : ¬second.Precedes first) : first.Precedes second := by
  unfold Precedes at h ⊢
  obtain ⟨hnot, hlater⟩ := not_or.mp h
  by_cases habove : IsAbove first.score second.score
  · exact Or.inl habove
  · refine Or.inr ⟨hnot, ?_⟩
    by_contra hle
    exact hlater ⟨habove, by omega⟩

end Match

/-! ## Matches of entries -/

/-- The score of an entry for a query as it is typed, and the rule that gave it; none if the entry
does not fit. The empty query fits every entry at its base weight, by no rule. -/
def Entry.scored? (weights : Weights Float) (query : Text) (entry : Entry) :
    Option (Float × Option Rule) :=
  if query = "" then some (entry.baseWeight, none)
  else
    (hit? weights entry.baseWeight (lower query) (lower entry.title)
      (entry.keywords.map lower)).map fun hit => (hit.score, some hit.rule)

variable {weights : Weights Float} {query : Text} {limit : Nat} {entries : List Entry}
  {found : List (Match Float)} {m : Match Float}

/-- The match is that of the entry at its position. -/
def Match.Fits (weights : Weights Float) (query : Text) (entries : List Entry)
    (m : Match Float) : Prop :=
  ∃ entry, entries[m.position]? = some entry ∧ entry.scored? weights query = some (m.score, m.rule)

/-- The matches are the best ones that a query has among the entries, at most `limit` of them, in
their order. -/
structure IsTop (weights : Weights Float) (query : Text) (limit : Nat) (entries : List Entry)
    (found : List (Match Float)) : Prop where
  /-- Each of them is the match of the entry at its position. -/
  fits : ∀ m ∈ found, m.Fits weights query entries
  /-- No entry is found twice. -/
  distinct : (found.map Match.position).Nodup
  /-- The higher score comes first, and of equal ones the earlier entry. -/
  ordered : found.Pairwise Match.Precedes
  /-- There are as many as fit, but not more than the limit. -/
  length : found.length
    = min limit (entries.countP fun entry => (entry.scored? weights query).isSome)
  /-- No match that is left out precedes one of them. -/
  best : ∀ m : Match Float, m.Fits weights query entries → m.position ∉ found.map Match.position →
    ∀ m' ∈ found, ¬m.Precedes m'

/-- The match of an entry at a position. -/
def matchOf? (weights : Weights Float) (query : Text) (place : Entry × Nat) :
    Option (Match Float) :=
  (place.1.scored? weights query).map fun scored => ⟨place.2, scored.1, scored.2⟩

/-- The candidates are the matches of the entries, in the order of the catalog. -/
theorem candidates_eq (weights : Weights Float) (query : Text) (entries : List Entry) :
    candidates weights (lower query) (entries.map Row.ofEntry)
      = entries.zipIdx.filterMap (matchOf? weights query) := by
  unfold candidates
  rw [List.zipIdx_map]
  by_cases hquery : query = ""
  · have hneedle : lower query = [] := by rw [hquery]; rfl
    rw [hneedle, if_pos (List.isEmpty_iff.mpr rfl), List.map_map, ← List.filterMap_eq_map]
    congr 1
    funext place
    show _ = Option.map _ (if query = "" then _ else _)
    rw [if_pos hquery]
    rfl
  · have hneedle : lower query ≠ [] := lower_ne_nil hquery
    rw [if_neg (by rwa [List.isEmpty_iff]), List.filterMap_map]
    congr 1
    funext place
    show _ = Option.map _ (if query = "" then _ else _)
    rw [if_neg hquery, Option.map_map]
    rfl

/-- The candidates are the entries that fit, each with its score. -/
theorem mem_candidates_iff :
    m ∈ candidates weights (lower query) (entries.map Row.ofEntry) ↔
      m.Fits weights query entries := by
  rw [candidates_eq, List.mem_filterMap]
  unfold matchOf? Match.Fits
  constructor
  · intro h
    obtain ⟨⟨entry, i⟩, hmem, hmatch⟩ := h
    obtain ⟨scored, hscored, rfl⟩ := Option.map_eq_some_iff.mp hmatch
    exact ⟨entry, List.mem_zipIdx_iff_getElem?.mp hmem, hscored⟩
  · intro h
    obtain ⟨entry, hentry, hscored⟩ := h
    refine ⟨(entry, m.position), List.mem_zipIdx_iff_getElem?.mpr hentry, ?_⟩
    rw [hscored]
    rfl

/-- There is one candidate for each entry that has a score. -/
theorem length_candidates (weights : Weights Float) (query : Text) (entries : List Entry) :
    (candidates weights (lower query) (entries.map Row.ofEntry)).length
      = entries.countP fun entry => (entry.scored? weights query).isSome := by
  rw [candidates_eq, List.length_filterMap_eq_countP]
  have hfirst : entries.countP (fun entry => (entry.scored? weights query).isSome)
      = (entries.zipIdx.map Prod.fst).countP fun entry =>
        (entry.scored? weights query).isSome := by
    rw [List.zipIdx_map_fst]
  rw [hfirst, List.countP_map]
  congr 1
  funext place
  unfold matchOf?
  rw [Option.isSome_map]
  rfl

/-- The candidates stand in the order of the catalog. -/
theorem pairwise_candidates (weights : Weights Float) (query : Text) (entries : List Entry) :
    (candidates weights (lower query) (entries.map Row.ofEntry)).Pairwise
      fun first second => first.position < second.position := by
  have hplaces : entries.zipIdx.Pairwise fun place place' => place.2 < place'.2 := by
    rw [← List.pairwise_map, List.zipIdx_map_snd]
    exact List.pairwise_lt_range' 1
  rw [candidates_eq]
  refine hplaces.filterMap _ ?_
  intro place place' hlt first hfirst second hsecond
  obtain ⟨scored, -, rfl⟩ := Option.map_eq_some_iff.mp hfirst
  obtain ⟨scored', -, rfl⟩ := Option.map_eq_some_iff.mp hsecond
  exact hlt

/-- A position has one match. -/
theorem Match.Fits.unique {first second : Match Float} (h : first.Fits weights query entries)
    (h' : second.Fits weights query entries) (hposition : first.position = second.position) :
    first = second := by
  obtain ⟨entry, hentry, hscored⟩ := h
  obtain ⟨entry', hentry', hscored'⟩ := h'
  rw [hposition, hentry'] at hentry
  cases hentry
  rw [hscored'] at hscored
  obtain ⟨position, score, rule⟩ := first
  obtain ⟨position', score', rule'⟩ := second
  cases hscored
  cases hposition
  rfl

/-! ## The top of a catalog -/

/-- The matches of a query among the entries, sorted by their scores. -/
def sortedMatches (weights : Weights Float) (query : Text) (entries : List Entry) :
    List (Match Float) :=
  (candidates weights (lower query) (entries.map Row.ofEntry)).mergeSort Match.before

/-- Sorting neither adds nor drops a match. -/
theorem mem_sorted_iff : m ∈ sortedMatches weights query entries ↔ m.Fits weights query entries :=
  List.mem_mergeSort.trans mem_candidates_iff

theorem length_sorted (weights : Weights Float) (query : Text) (entries : List Entry) :
    (sortedMatches weights query entries).length
      = entries.countP fun entry => (entry.scored? weights query).isSome :=
  (List.length_mergeSort _).trans (length_candidates weights query entries)

/-- Sorting by the score alone puts the matches in their order. -/
theorem pairwise_sorted (weights : Weights Float) (query : Text) (entries : List Entry) :
    (sortedMatches weights query entries).Pairwise Match.Precedes := by
  have hties := pairwise_mergeSort_ties before_trans before_total
    (pairwise_candidates weights query entries)
  refine hties.imp ?_
  intro first second h
  obtain ⟨hbefore, htie⟩ := h
  rw [before_iff] at hbefore htie
  by_cases habove : IsAbove first.score second.score
  · exact Or.inl habove
  · exact Or.inr ⟨hbefore, htie habove⟩

/-- Each entry is found at most once. -/
theorem nodup_positions_sorted (weights : Weights Float) (query : Text) (entries : List Entry) :
    ((sortedMatches weights query entries).map Match.position).Nodup := by
  have hcandidates : ((candidates weights (lower query)
      (entries.map Row.ofEntry)).map Match.position).Nodup := by
    rw [List.Nodup, List.pairwise_map]
    exact (pairwise_candidates weights query entries).imp Nat.ne_of_lt
  have hperm := (List.mergeSort_perm (candidates weights (lower query)
    (entries.map Row.ofEntry)) Match.before).map Match.position
  exact hperm.nodup_iff.mpr hcandidates

/-- What the sorted matches begin with is the top of the catalog. -/
theorem isTop_take_sorted (weights : Weights Float) (query : Text) (limit : Nat)
    (entries : List Entry) :
    IsTop weights query limit entries ((sortedMatches weights query entries).take limit) := by
  have hall := pairwise_sorted weights query entries
  rw [← List.take_append_drop limit (sortedMatches weights query entries),
    List.pairwise_append] at hall
  obtain ⟨hordered, -, hcross⟩ := hall
  refine ⟨?_, ?_, hordered, ?_, ?_⟩
  · intro m hm
    exact mem_sorted_iff.mp (List.mem_of_mem_take hm)
  · exact (nodup_positions_sorted weights query entries).sublist
      ((List.take_sublist _ _).map Match.position)
  · rw [List.length_take, length_sorted]
  · intro m hm hleft m' hm'
    have hmem := mem_sorted_iff.mpr hm
    rw [← List.take_append_drop limit (sortedMatches weights query entries),
      List.mem_append] at hmem
    obtain htop | hdropped := hmem
    · exact absurd (List.mem_map_of_mem htop) hleft
    · exact (hcross m' hm' m hdropped).asymm

/-- The matches whose positions are not among those found. -/
def leftOut (weights : Weights Float) (query : Text) (entries : List Entry)
    (found : List (Match Float)) : List (Match Float) :=
  (sortedMatches weights query entries).filter fun m =>
    decide (m.position ∉ found.map Match.position)

/-- What is left out fits, and stands at another place than what is found. -/
theorem mem_leftOut_iff : m ∈ leftOut weights query entries found ↔
    m.Fits weights query entries ∧ m.position ∉ found.map Match.position := by
  unfold leftOut
  rw [List.mem_filter, mem_sorted_iff, decide_eq_true_iff]

theorem nodup_of_precedes {l : List (Match Float)} (hl : l.Pairwise Match.Precedes) : l.Nodup := by
  refine hl.imp ?_
  intro first second hprecedes heq
  rw [heq] at hprecedes
  exact hprecedes.asymm hprecedes

/-- The top with what is left out behind it is in order. -/
theorem IsTop.pairwise_append (h : IsTop weights query limit entries found) :
    (found ++ leftOut weights query entries found).Pairwise Match.Precedes := by
  refine List.pairwise_append.mpr ⟨h.ordered, ?_, ?_⟩
  · exact (pairwise_sorted weights query entries).sublist List.filter_sublist
  · intro m hm m' hm'
    obtain ⟨hfits, hleft⟩ := mem_leftOut_iff.mp hm'
    refine Match.precedes_of_not ?_ (h.best m' hfits hleft m hm)
    intro heq
    exact hleft (heq ▸ List.mem_map_of_mem hm)

/-- The top and what is left out are all the matches. -/
theorem IsTop.append_eq_sorted (h : IsTop weights query limit entries found) :
    found ++ leftOut weights query entries found = sortedMatches weights query entries := by
  have hsorted := pairwise_sorted weights query entries
  have hperm : (found ++ leftOut weights query entries found).Perm
      (sortedMatches weights query entries) := by
    rw [List.perm_ext_iff_of_nodup (nodup_of_precedes h.pairwise_append)
      (nodup_of_precedes hsorted)]
    intro m
    rw [List.mem_append, mem_leftOut_iff, mem_sorted_iff]
    constructor
    · intro hm
      obtain hm | ⟨hm, -⟩ := hm
      · exact h.fits m hm
      · exact hm
    · intro hm
      by_cases hthere : m.position ∈ found.map Match.position
      · -- the match found at the position is this one
        obtain ⟨m', hm', hposition⟩ := List.mem_map.mp hthere
        exact Or.inl ((h.fits m' hm').unique hm hposition ▸ hm')
      · exact Or.inr ⟨hm, hthere⟩
  -- no two matches precede each other, so there is one order
  exact hperm.eq_of_pairwise (fun _ _ _ _ hfirst hsecond => absurd hsecond hfirst.asymm)
    h.pairwise_append hsorted

/-- The top of a catalog is one list. -/
theorem IsTop.eq_take_sorted (h : IsTop weights query limit entries found) :
    found = (sortedMatches weights query entries).take limit := by
  have hlength : min limit (sortedMatches weights query entries).length = found.length := by
    rw [h.length, length_sorted]
  rw [List.take_eq_take_min, hlength, ← h.append_eq_sorted, List.take_left]

/-- **A search gives the top of its catalog**, and the top is one list. -/
theorem Index.search_isTop {index : Index}
    (hweights : index.weights.map Value.asDouble = weights.map .ok) (query : Text)
    (hlimit : 0 < limit) :
    ∃ found, index.search (.text query) (.int limit) = .ok found ∧
      IsTop weights query limit index.entries found ∧
      ∀ other, IsTop weights query limit index.entries other → other = found := by
  have hsearch : index.search (.text query) (.int limit)
      = .ok ((sortedMatches weights query index.entries).take limit) := by
    rw [search_int hlimit, find_text_eq_rank hweights, index.rows_eq]
    rfl
  exact ⟨_, hsearch, isTop_take_sorted weights query limit index.entries,
    fun other h => h.eq_take_sorted⟩

namespace Index

/-- Two titles that begin alike, between them an entry that does not fit and one that fits by a
keyword. -/
def tools : Index :=
  ofDistinct (Weights.standard.map Value.float)
    [{ id := "calc", title := "Calculator" }, { id := "note", title := "Notes" },
      { id := "term", title := "Terminal", keywords := ["Console"] },
      { id := "cam", title := "Camera" }]
    (by decide)

/-- Three entries fit, of which two are found. -/
theorem tools_top : tools.weights.map Value.asDouble = Weights.standard.map .ok ∧ 0 < 2 ∧
    ∃ found, tools.search (.text "C") (.int (2 : Nat)) = .ok found ∧
      IsTop Weights.standard "C" 2 tools.entries found ∧ found.length = 2 := by
  have hweights : tools.weights.map Value.asDouble = Weights.standard.map .ok := rfl
  have hlimit : 0 < 2 := by decide
  have hfit :
      tools.entries.countP (fun entry => (entry.scored? Weights.standard "C").isSome) = 3 := by
    decide
  obtain ⟨found, hsearch, htop, -⟩ := search_isTop hweights "C" hlimit
  refine ⟨hweights, hlimit, found, hsearch, htop, ?_⟩
  rw [htop.length, hfit]
  rfl

end Index

end Launcher
