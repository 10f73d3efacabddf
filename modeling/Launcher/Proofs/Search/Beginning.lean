import Launcher.Proofs.Search.Rank
import Launcher.Proofs.Text.Lowercase

/-!
# The beginning of a title

Typing the beginning of a title should find its entry by the rule for beginnings. Query and title
are put into lowercase apart, so it does as long as the lowercase form of the query begins that of
the title (`rule_eq_titleStart_iff`), and with the number of entries as its limit a search leaves no
match out (`mem_rank_iff`).

> `search_beginning_iff`: a beginning of a title finds its entry as one exactly if it does not break
> off a word at a capital sigma.

The exception is real: `signs` is a catalog in which the beginning of a title finds another entry
and not its own.
-/

namespace Launcher

open Launcher.Text

section Rank

variable {α : Type} [Scale α] {weights : Weights α} {needle title : Text}

/-- The rule for beginnings is the one that gives a hit exactly for a beginning of the title. -/
theorem rule_eq_titleStart_iff (base : α) (keywords : List Text) :
    (∃ hit, hit? weights base needle title keywords = some hit ∧ hit.rule = .titleStart) ↔
      needle <+: title := by
  rw [← List.isPrefixOf_iff_prefix]
  unfold hit? titleHit?
  by_cases hstart : needle.isPrefixOf title = true
  · rw [if_pos hstart]
    exact ⟨fun _ => hstart, fun _ => ⟨_, rfl, rfl⟩⟩
  · rw [if_neg hstart]
    refine ⟨?_, fun h => absurd h hstart⟩
    rintro ⟨hit, hhit, hrule⟩
    split at hhit
    · next found hfound =>
      -- the title has the query as a subsequence
      split at hfound
      · cases hfound; cases hhit; cases hrule
      · cases hfound
    · -- a keyword has it
      obtain ⟨keyword, -, rfl⟩ := Option.map_eq_some_iff.mp hhit
      cases hrule

/-- Each row is a candidate at most once. -/
theorem length_candidates_le (rows : List (Row α)) :
    (candidates weights needle rows).length ≤ rows.length := by
  unfold candidates
  split
  · exact Nat.le_of_eq ((List.length_map _).trans List.length_zipIdx)
  · calc (rows.zipIdx.filterMap (Match.of? weights needle)).length
        ≤ rows.zipIdx.length := List.length_filterMap_le _ _
      _ = rows.length := List.length_zipIdx

/-- A limit of all rows leaves none of them out. -/
theorem mem_rank_iff [Graded α] {limit : Nat} {rows : List (Row α)} {m : Match α}
    (hlimit : rows.length ≤ limit) :
    m ∈ rank weights needle limit rows ↔ m ∈ candidates weights needle rows := by
  unfold rank best
  rw [List.take_of_length_le, List.mem_mergeSort]
  rw [List.length_mergeSort]
  exact Nat.le_trans (length_candidates_le rows) hlimit

/-- A row is among the candidates by the rule for beginnings exactly if its title begins with the
query. -/
theorem exists_mem_candidates_titleStart_iff {rows : List (Row α)} {row : Row α} {i : Nat}
    (hneedle : needle ≠ []) (hrow : rows[i]? = some row) :
    (∃ m ∈ candidates weights needle rows, m.position = i ∧ m.rule = some .titleStart) ↔
      needle <+: row.title := by
  unfold candidates
  rw [if_neg (by rw [List.isEmpty_iff]; exact hneedle),
    ← rule_eq_titleStart_iff row.baseWeight row.keywords]
  constructor
  · rintro ⟨m, hm, hpos, hrule⟩
    obtain ⟨⟨other, j⟩, hmem, hof⟩ := List.mem_filterMap.mp hm
    obtain ⟨hit, hhit, rfl⟩ := Option.map_eq_some_iff.mp hof
    -- the match stands at the position of its row
    have hj : j = i := hpos
    have hother : rows[j]? = some other := List.mem_zipIdx_iff_getElem?.mp hmem
    rw [hj, hrow] at hother
    cases hother
    exact ⟨hit, hhit, Option.some.inj hrule⟩
  · rintro ⟨hit, hhit, hrule⟩
    refine ⟨⟨i, hit.score, some hit.rule⟩, List.mem_filterMap.mpr ⟨(row, i), ?_, ?_⟩, rfl, ?_⟩
    · exact List.mem_zipIdx_iff_getElem?.mpr hrow
    · unfold Match.of?
      rw [hhit]
      rfl
    · rw [hrule]

end Rank

namespace Index

/-- **Typing the beginning of a title finds its entry**, and as a beginning, exactly if the
beginning does not break off a word at a capital sigma. -/
theorem search_beginning_iff {index : Index} (hweights : index.weights.Numeric) {i : Nat}
    {entry : Entry} (hentry : index.entries[i]? = some entry) {query rest : Text}
    (hquery : query ≠ "") (htitle : entry.title = query ++ rest) :
    ∃ found, index.search (.text query) (.int index.size) = .ok found ∧
      ((∃ m ∈ found, m.position = i ∧ m.rule = some .titleStart) ↔
        ¬BreaksAtSigma [] query rest) := by
  obtain ⟨doubles, hdoubles⟩ := hweights
  obtain ⟨hlt, -⟩ := List.getElem?_eq_some_iff.mp hentry
  have hsize : 0 < index.size := Nat.zero_lt_of_lt hlt
  refine ⟨_, (search_int hsize (.text query)).trans (find_text_eq_rank hdoubles query index.size),
    ?_⟩
  have hrow : index.rows[i]? = some (Row.ofEntry entry) := by
    rw [index.rows_eq, List.getElem?_map, hentry]
    rfl
  have hneedle : lower query ≠ [] := lower_ne_nil hquery
  have hall : index.rows.length ≤ index.size := Nat.le_of_eq index.length_rows
  simp only [mem_rank_iff hall]
  rw [exists_mem_candidates_titleStart_iff hneedle hrow]
  show _ <+: lower entry.title ↔ _
  rw [htitle]
  exact lower_isPrefix_iff query rest

/-- Two titles that begin alike; only in the second one the word goes on. -/
def signs : Index :=
  ofDistinct (Weights.standard.map Value.float)
    [{ id := "street", title := "ΟΔΟΣ ΕΡΜΟΥ" }, { id := "sign", title := "ΟΔΟΣΗΜΑΝΣΗ" }]
    (by decide)

theorem numeric_signs : signs.weights.Numeric := ⟨Weights.standard, rfl⟩

theorem street_found : signs.weights.Numeric ∧ ("ΟΔΟΣ" : Text) ≠ "" ∧
    signs.entries[0]?.map Entry.title = some ("ΟΔΟΣ" ++ " ΕΡΜΟΥ" : Text) ∧
    ∃ found, signs.search (.text "ΟΔΟΣ") (.int signs.size) = .ok found ∧
      ∃ m ∈ found, m.position = 0 ∧ m.rule = some .titleStart := by
  obtain ⟨found, hfound, hiff⟩ :=
    search_beginning_iff numeric_signs
      (rfl : signs.entries[0]? = some { id := "street", title := "ΟΔΟΣ ΕΡΜΟΥ" })
      (by decide : ("ΟΔΟΣ" : Text) ≠ "")
      (by decide : ("ΟΔΟΣ ΕΡΜΟΥ" : Text) = "ΟΔΟΣ" ++ " ΕΡΜΟΥ")
  refine ⟨numeric_signs, by decide, by decide, found, hfound, hiff.mpr ?_⟩
  rintro ⟨-, -, -, -, -, hgoesOn⟩
  exact absurd hgoesOn (by decide)

/-- The beginning of a title may find another title and not its own: the word goes on behind the
sigma. -/
theorem sign_not_found : signs.weights.Numeric ∧ ("ΟΔΟΣ" : Text) ≠ "" ∧
    signs.entries[1]?.map Entry.title = some ("ΟΔΟΣ" ++ "ΗΜΑΝΣΗ" : Text) ∧
    ∃ found, signs.search (.text "ΟΔΟΣ") (.int signs.size) = .ok found ∧
      found.map Match.position = [0] := by
  have hweights : signs.weights.map Value.asDouble = Weights.standard.map .ok := rfl
  have hsize : 0 < signs.size := by decide
  have hfound : signs.search (.text "ΟΔΟΣ") (.int signs.size)
      = .ok (rank Weights.standard (lower "ΟΔΟΣ") signs.size signs.rows) := by
    rw [search_int hsize, find_text_eq_rank hweights]
  exact ⟨numeric_signs, by decide, by decide +kernel, _, hfound, by decide +kernel⟩

end Index

end Launcher
