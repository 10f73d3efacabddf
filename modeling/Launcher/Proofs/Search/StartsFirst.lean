import Launcher.Proofs.Search.Band
import Launcher.Proofs.Text.Lowercase

/-!
# Titles that begin with the query come first

A search ranks by score alone, whatever the rule. Where all entries have the same base weight, the
bonus for the beginning of a title decides the order of the rules: a hit by a subsequence adds at
most its multiplier, as no share is more than one. `Index.bestOn` is the search on any scale; on
doubles it is the search of the launcher (`search_eq_bestOn`), and on the rationals its scores are
exact. What the ranking keeps is said once, by `mem_best_of_lt`: a match above one that is kept is
kept itself.

> **`Index.starts_come_first`**: with a bonus at least as high as the multipliers no hit by a
> subsequence is above a beginning, and with a higher bonus all beginnings come first.
-/

namespace Launcher

open Launcher.Text

/-! ## What the rules score -/

section Hits

variable {query title : Text} {keywords : List Text}

theorem score_of_titleStart {α : Type} [Scale α] {weights : Weights α} {base : α} {hit : Hit α}
    (hhit : hit? weights base query title keywords = some hit) (hrule : hit.rule = .titleStart) :
    hit.score = Scale.add base weights.prefixBonus := by
  rcases hit?_cases weights base query title keywords with
    ⟨-, he⟩ | ⟨-, -, he⟩ | ⟨-, ⟨place, keyword, -, he⟩ | ⟨-, he⟩⟩
  · rw [he] at hhit
    cases hhit
    rfl
  · rw [he] at hhit
    cases hhit
    cases hrule
  · rw [he] at hhit
    cases hhit
    cases hrule
  · rw [he] at hhit
    cases hhit

/-- A bound of the multipliers is a bound of what a subsequence adds to the base weight. -/
theorem score_le_of_ne_titleStart {weights : Weights ℚ} {base bound : ℚ} {hit : Hit ℚ}
    (htitle : 0 ≤ weights.titleMultiplier ∧ weights.titleMultiplier ≤ bound)
    (hkeyword : 0 ≤ weights.keywordMultiplier ∧ weights.keywordMultiplier ≤ bound)
    (hhit : hit? weights base query title keywords = some hit) (hrule : hit.rule ≠ .titleStart) :
    hit.score ≤ base + bound := by
  rcases hit?_cases weights base query title keywords with
    ⟨-, he⟩ | ⟨-, hsub, he⟩ | ⟨-, ⟨place, keyword, hfirst, he⟩ | ⟨-, he⟩⟩
  · rw [he] at hhit
    cases hhit
    exact absurd rfl hrule
  · rw [he] at hhit
    cases hhit
    exact (fuzzyScore_le htitle.1 hsub).trans (by linarith [htitle.2])
  · rw [he] at hhit
    cases hhit
    exact (fuzzyScore_le hkeyword.1 hfirst.fits.2).trans (by linarith [hkeyword.2])
  · rw [he] at hhit
    cases hhit

end Hits

/-! ## What a ranking keeps -/

section Ranking

variable {found : List (Match ℚ)} {m start : Match ℚ} {limit : Nat}

/-- Sorting puts the matches in the descending order of their exact scores. -/
theorem pairwise_score_mergeSort (found : List (Match ℚ)) :
    (found.mergeSort Match.before).Pairwise fun first second => second.score ≤ first.score := by
  have hbefore : ∀ first second : Match ℚ,
      first.before second = true ↔ second.score ≤ first.score := fun _ _ => decide_eq_true_iff
  have hsorted : (found.mergeSort Match.before).Pairwise fun first second =>
      first.before second = true := by
    refine List.pairwise_mergeSort ?_ ?_ found
    · intro first second third h h'
      rw [hbefore] at *
      exact h'.trans h
    · intro first second
      rw [Bool.or_eq_true, hbefore, hbefore]
      exact le_total _ _
  exact hsorted.imp fun h => (hbefore _ _).mp h

/-- The best matches stand by falling score. -/
theorem pairwise_score_best (limit : Nat) (found : List (Match ℚ)) :
    (best limit found).Pairwise fun first second => second.score ≤ first.score :=
  (pairwise_score_mergeSort found).sublist (List.take_sublist _ _)

/-- What is above a match that is kept is kept. -/
theorem mem_best_of_lt (hm : m ∈ best limit found) (hstart : start ∈ found)
    (hlt : m.score < start.score) : start ∈ best limit found := by
  have hsorted := pairwise_score_mergeSort found
  have hmem : start ∈ found.mergeSort Match.before := List.mem_mergeSort.mpr hstart
  rw [← List.take_append_drop limit (found.mergeSort Match.before)] at hsorted hmem
  rcases List.mem_append.mp hmem with hkept | hdropped
  · exact hkept
  · -- what is dropped is not above anything that is kept
    have hle := (List.pairwise_append.mp hsorted).2.2 m hm start hdropped
    exact absurd hle (not_le.mpr hlt)

end Ranking

/-! ## Searches on any scale -/

/-- The title of the match begins with the query. -/
def Match.IsStart {α : Type} (m : Match α) : Prop := m.rule = some .titleStart

/-- The title or a keyword of the match has the query as a subsequence. -/
def Match.IsFuzzy {α : Type} (m : Match α) : Prop := m.rule = some .title ∨ m.rule = some .keyword

/-- What a double is worth exactly; what is not finite is worth nothing. -/
def exactValue (x : Float) : ℚ :=
  match Decimal.Double.ofFloat x with
  | .finite negative significand exponent =>
    (if negative then -1 else 1) * significand * 2 ^ exponent
  | _ => 0

namespace Index

section Scale

variable {α : Type} [Scale α]

/-- The best entries for a text on any scale; `value` says what a base weight is worth on it. -/
def bestOn [Graded α] (index : Index) (value : Float → α) (weights : Weights α) (query : Text)
    (limit : Nat) : List (Match α) :=
  rank weights (lower query) limit (index.rows.map (Row.map value))

/-- The match is the one that the entry at its position has for the text. -/
def Offers (index : Index) (value : Float → α) (weights : Weights α) (query : Text)
    (m : Match α) : Prop :=
  ∃ entry hit, index.entries[m.position]? = some entry ∧
    hit? weights (value entry.baseWeight) (lower query)
      (Row.ofEntry entry).title (Row.ofEntry entry).keywords = some hit ∧
    m.score = hit.score ∧ m.rule = some hit.rule

/-- On doubles it is the search. -/
theorem search_eq_bestOn {index : Index} {doubles : Weights Float}
    (hweights : index.weights.map Value.asDouble = doubles.map .ok) (query : Text) {limit : Nat}
    (hlimit : 0 < limit) :
    index.search (.text query) (.int limit) = .ok (index.bestOn id doubles query limit) := by
  have hrows : index.rows.map (Row.map id) = index.rows := List.map_id _
  rw [search_int hlimit, find_text_eq_rank hweights]
  unfold bestOn
  rw [hrows]

variable {index : Index} {value : Float → α} {weights : Weights α} {query : Text} {m : Match α}

/-- The candidates are the matches that the catalog offers. -/
theorem mem_candidates_iff_offers (hquery : query ≠ "") :
    m ∈ candidates weights (lower query) (index.rows.map (Row.map value)) ↔
      index.Offers value weights query m := by
  have hneedle : lower query ≠ [] := lower_ne_nil hquery
  have hrows : index.rows.map (Row.map value)
      = index.entries.map fun entry => (Row.ofEntry entry).map value := by
    rw [index.rows_eq, List.map_map]
    rfl
  unfold candidates Offers
  rw [if_neg (by rwa [List.isEmpty_iff]), hrows, List.mem_filterMap]
  constructor
  · rintro ⟨⟨row, i⟩, hmem, hof⟩
    obtain ⟨hit, hhit, rfl⟩ := Option.map_eq_some_iff.mp hof
    have hrow := List.mem_zipIdx_iff_getElem?.mp hmem
    rw [List.getElem?_map] at hrow
    obtain ⟨entry, hentry, rfl⟩ := Option.map_eq_some_iff.mp hrow
    exact ⟨entry, hit, hentry, hhit, rfl, rfl⟩
  · rintro ⟨entry, hit, hentry, hhit, hscore, hrule⟩
    refine ⟨((Row.ofEntry entry).map value, m.position), ?_, ?_⟩
    · rw [List.mem_zipIdx_iff_getElem?, List.getElem?_map, hentry]
      rfl
    · refine Option.map_eq_some_iff.mpr ⟨hit, hhit, ?_⟩
      obtain ⟨position, score, rule⟩ := m
      cases hscore
      cases hrule
      rfl

end Scale

/-! ## The order of the rules -/

variable {index : Index} {weights : Weights ℚ} {query : Text} {m start : Match ℚ}

/-- All entries have the same base weight. -/
def SameBase (index : Index) : Prop :=
  ∀ entry ∈ index.entries, ∀ other ∈ index.entries,
    exactValue entry.baseWeight = exactValue other.baseWeight

/-- What a beginning has ahead of a subsequence: at least the bonus, less a bound of the
multipliers. -/
theorem score_add_le {bound : ℚ} (hsame : index.SameBase)
    (htitle : 0 ≤ weights.titleMultiplier ∧ weights.titleMultiplier ≤ bound)
    (hkeyword : 0 ≤ weights.keywordMultiplier ∧ weights.keywordMultiplier ≤ bound)
    (hm : index.Offers exactValue weights query m) (hfuzzy : m.IsFuzzy)
    (hoffers : index.Offers exactValue weights query start) (hstart : start.IsStart) :
    m.score + weights.prefixBonus ≤ start.score + bound := by
  obtain ⟨entry, hit, hentry, hhit, hscore, hrule⟩ := hm
  obtain ⟨entry', hit', hentry', hhit', hscore', hrule'⟩ := hoffers
  have hne : hit.rule ≠ .titleStart := by
    intro heq
    rw [Match.IsFuzzy, hrule, heq] at hfuzzy
    exact hfuzzy.elim nofun nofun
  have heq : hit'.rule = .titleStart := by
    rw [Match.IsStart, hrule'] at hstart
    exact Option.some.inj hstart
  have hbase := hsame entry (List.mem_of_getElem? hentry) entry' (List.mem_of_getElem? hentry')
  have hle := score_le_of_ne_titleStart htitle hkeyword hhit hne
  have hbonus : hit'.score = exactValue entry'.baseWeight + weights.prefixBonus :=
    score_of_titleStart hhit' heq
  rw [hscore, hscore', hbonus, ← hbase]
  linarith

/-- **Titles that begin with the query come first.** Let all entries have the same base weight, and
let the weights be exact numbers with multipliers of at least zero. If the bonus is at least as high
as both multipliers, no match by a subsequence that a search finds has a higher score than any match
by a beginning in the catalog. If it is higher than both, a search finds matches by beginnings
before matches by subsequences, and the latter only if it finds all the beginnings of the catalog.
-/
theorem starts_come_first (hsame : index.SameBase) (hquery : query ≠ "")
    (htitle : 0 ≤ weights.titleMultiplier) (hkeyword : 0 ≤ weights.keywordMultiplier)
    (limit : Nat) :
    (weights.titleMultiplier ≤ weights.prefixBonus →
      weights.keywordMultiplier ≤ weights.prefixBonus →
      ∀ m ∈ index.bestOn exactValue weights query limit, m.IsFuzzy →
        ∀ start, index.Offers exactValue weights query start → start.IsStart →
          m.score ≤ start.score) ∧
    (weights.titleMultiplier < weights.prefixBonus →
      weights.keywordMultiplier < weights.prefixBonus →
      (index.bestOn exactValue weights query limit).Pairwise
        (fun first second => first.IsFuzzy → ¬second.IsStart) ∧
      ∀ m ∈ index.bestOn exactValue weights query limit, m.IsFuzzy →
        ∀ start, index.Offers exactValue weights query start → start.IsStart →
          start ∈ index.bestOn exactValue weights query limit) := by
  have hoffers : ∀ m ∈ index.bestOn exactValue weights query limit,
      index.Offers exactValue weights query m := by
    intro m hm
    exact (mem_candidates_iff_offers hquery).mp (List.mem_mergeSort.mp (List.mem_of_mem_take hm))
  constructor
  · intro htitle' hkeyword' m hm hfuzzy start hoffered hstart
    have hle := score_add_le hsame ⟨htitle, htitle'⟩ ⟨hkeyword, hkeyword'⟩ (hoffers m hm) hfuzzy
      hoffered hstart
    exact le_of_add_le_add_right hle
  · intro htitle' hkeyword'
    -- the higher multiplier is a bound that the bonus is above
    have hlt : ∀ m ∈ index.bestOn exactValue weights query limit, m.IsFuzzy →
        ∀ start, index.Offers exactValue weights query start → start.IsStart →
          m.score < start.score := by
      intro m hm hfuzzy start hoffered hstart
      have hle := score_add_le hsame ⟨htitle, le_max_left _ weights.keywordMultiplier⟩
        ⟨hkeyword, le_max_right weights.titleMultiplier _⟩ (hoffers m hm) hfuzzy hoffered hstart
      have hmax := max_lt htitle' hkeyword'
      linarith
    constructor
    · refine (pairwise_score_best limit _).imp_of_mem ?_
      intro first second hfirst hsecond hle hfuzzy hstart
      have habove := hlt first hfirst hfuzzy second (hoffers second hsecond) hstart
      exact absurd hle (not_le.mpr habove)
    · intro m hm hfuzzy start hoffered hstart
      exact mem_best_of_lt hm ((mem_candidates_iff_offers hquery).mpr hoffered)
        (hlt m hm hfuzzy start hoffered hstart)

/-- A keyword and a title that have the query as a subsequence, and two titles that begin with it.
-/
def calendars : Index :=
  ofDistinct (Weights.standard.map Value.float)
    [{ id := "tax", title := "Taxes", keywords := ["cal"] },
      { id := "local", title := "Local files" },
      { id := "calc", title := "Calculator" }, { id := "cal", title := "Calendar" }]
    (by decide)

theorem sameBase_calendars : calendars.SameBase := by
  intro entry hentry other hother
  have hbase : ∀ e ∈ calendars.entries, e.baseWeight = defaultBaseWeight := by
    intro e he
    simp only [calendars, ofDistinct, List.mem_cons, List.not_mem_nil, or_false] at he
    rcases he with rfl | rfl | rfl | rfl <;> rfl
  rw [hbase entry hentry, hbase other hother]

theorem rows_calendars : calendars.rows.map (Row.map exactValue)
    = [⟨"taxes", ["cal"], 1 / 2⟩, ⟨"local files", [], 1 / 2⟩,
        ⟨"calculator", [], 1 / 2⟩, ⟨"calendar", [], 1 / 2⟩] := by
  have hvalue : exactValue defaultBaseWeight = 1 / 2 := by decide +kernel
  rw [← hvalue]
  rfl

/-- The beginnings are found first although they stand last. -/
theorem calendars_come_first : calendars.SameBase ∧ ("Cal" : Text) ≠ "" ∧
    0 ≤ exactWeights.titleMultiplier ∧ 0 ≤ exactWeights.keywordMultiplier ∧
    exactWeights.titleMultiplier < exactWeights.prefixBonus ∧
    exactWeights.keywordMultiplier < exactWeights.prefixBonus ∧
    (candidates exactWeights (lower "Cal")
        (calendars.rows.map (Row.map exactValue))).map Match.rule
      = [some .keyword, some .title, some .titleStart, some .titleStart] ∧
    (calendars.bestOn exactValue exactWeights "Cal" 3).Pairwise
      (fun first second => first.IsFuzzy → ¬second.IsStart) := by
  have hrules : (candidates exactWeights (lower "Cal")
        (calendars.rows.map (Row.map exactValue))).map Match.rule
      = [some .keyword, some .title, some .titleStart, some .titleStart] := by
    rw [rows_calendars]
    decide
  have htitle : 0 ≤ exactWeights.titleMultiplier := by decide +kernel
  have hkeyword : 0 ≤ exactWeights.keywordMultiplier := by decide +kernel
  have htitle' : exactWeights.titleMultiplier < exactWeights.prefixBonus := by decide +kernel
  have hkeyword' : exactWeights.keywordMultiplier < exactWeights.prefixBonus := by decide +kernel
  obtain ⟨-, hfirst⟩ :=
    starts_come_first sameBase_calendars (by decide : ("Cal" : Text) ≠ "") htitle hkeyword 3
  exact ⟨sameBase_calendars, by decide, htitle, hkeyword, htitle', hkeyword', hrules,
    (hfirst htitle' hkeyword').1⟩

end Index

end Launcher
