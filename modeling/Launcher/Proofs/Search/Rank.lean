import Launcher.Search.Index
import Mathlib.Data.List.Forall2

/-!
# A search with numeric weights is a ranking

`Index.best` computes on weights that may turn out not to be numbers, so it may end in a fault.
A configuration declares its weights as doubles, and on such weights the two levels coincide:

> `best_eq_rank`: the search for a text is `rank` on the doubles of the weights, and never a fault.

The formulas are the same on every scale: a function that keeps sums, products and shares can be
applied to the weights or to the scores (`Rescales.hit?_map`, `Rescales.candidates_map`). Calling a
score sound is such a function, and collecting sound matches gives them back (`mapM_sound_ok`). The
ranking names rows of the catalog only (`position_lt_of_mem_rank`), so every match that a search
gives has an entry and is shown (`exists_results`).
-/

namespace Launcher

open Launcher.Text

/-- The weights are numbers that have doubles. -/
def Weights.Numeric (weights : Weights Value) : Prop :=
  ∃ doubles : Weights Float, weights.map Value.asDouble = doubles.map .ok

/-! ## Another scale -/

/-- A hit with a function applied to its score. -/
def Hit.map {α β : Type} (f : α → β) (hit : Hit α) : Hit β := ⟨f hit.score, hit.rule⟩

/-- A match with a function applied to its score. -/
def Match.map {α β : Type} (f : α → β) (found : Match α) : Match β :=
  ⟨found.position, f found.score, found.rule⟩

/-- The function keeps sums, products, and the share of a part in whatever is not empty. -/
structure Rescales {α β : Type} [Scale α] [Scale β] (f : α → β) : Prop where
  add : ∀ x y, Scale.add (f x) (f y) = f (Scale.add x y)
  mul : ∀ x y, Scale.mul (f x) (f y) = f (Scale.mul x y)
  ratio : ∀ part whole, whole ≠ 0 → Scale.ratio part whole = f (Scale.ratio part whole)

/-- Results that are sound are computed as such. -/
theorem rescales_ok {ε α : Type} [Scale α] : Rescales (Except.ok : α → Except ε α) :=
  ⟨fun _ _ => rfl, fun _ _ => rfl, fun _ _ _ => rfl⟩

section Rescale

variable {α β : Type} [Scale α] [Scale β] {f : α → β}

theorem Rescales.fuzzyScore_map {γ δ : Type} (h : Rescales f) (base multiplier : α) (query : List γ)
    {target : List δ} (htarget : target ≠ []) :
    fuzzyScore (f base) (f multiplier) query target
      = f (fuzzyScore base multiplier query target) := by
  unfold fuzzyScore
  rw [h.ratio _ _ fun hlength => htarget (List.eq_nil_of_length_eq_zero hlength), h.mul, h.add]

/-- The empty title has no subsequence that does not begin it. -/
theorem title_ne_nil {query title : Text} (hsub : isSubsequence query title = true)
    (hstart : ¬query.isPrefixOf title = true) : title ≠ [] := by
  intro hnil
  subst hnil
  cases query with
  | nil => exact hstart rfl
  | cons q query => cases hsub

theorem keyword_ne_nil {query keyword : Text} {keywords : List Text}
    (h : fittingKeyword? query keywords = some keyword) : keyword ≠ [] := by
  intro hnil
  have hfits := List.find?_some h
  rw [hnil] at hfits
  cases hfits

/-- **The hit of a query is the same on every scale.** Only the shares of titles and keywords that
are not empty are ever taken. -/
theorem Rescales.hit?_map (h : Rescales f) (weights : Weights α) (base : α) (query title : Text)
    (keywords : List Text) :
    hit? (weights.map f) (f base) query title keywords
      = (hit? weights base query title keywords).map (Hit.map f) := by
  unfold hit? titleHit?
  by_cases hstart : query.isPrefixOf title = true
  · rw [if_pos hstart, if_pos hstart]
    exact congrArg (fun score => some (Hit.mk score .titleStart)) (h.add _ _)
  · rw [if_neg hstart, if_neg hstart]
    by_cases hsub : isSubsequence query title = true
    · rw [if_pos hsub, if_pos hsub]
      exact congrArg (fun score => some (Hit.mk score .title))
        (h.fuzzyScore_map _ _ _ (title_ne_nil hsub hstart))
    · rw [if_neg hsub, if_neg hsub]
      cases hkeyword : fittingKeyword? query keywords with
      | none => rfl
      | some keyword =>
        exact congrArg (fun score => some (Hit.mk score .keyword))
          (h.fuzzyScore_map _ _ _ (keyword_ne_nil hkeyword))

/-- Scoring a row does not depend on the form of numbers. -/
theorem Rescales.of?_map (h : Rescales f) (weights : Weights α) (needle : Text)
    (row : Row α × Nat) :
    Match.of? (weights.map f) needle (row.1.map f, row.2)
      = (Match.of? weights needle row).map (Match.map f) := by
  unfold Match.of?
  show Option.map _ (hit? _ (f row.1.baseWeight) needle row.1.title row.1.keywords) = _
  rw [h.hit?_map]
  cases hit? weights row.1.baseWeight needle row.1.title row.1.keywords with
  | none => rfl
  | some hit => rfl

/-- Scoring a catalog does not depend on the form of numbers. -/
theorem Rescales.candidates_map (h : Rescales f) (weights : Weights α) (needle : Text)
    (rows : List (Row α)) :
    candidates (weights.map f) needle (rows.map (Row.map f))
      = (candidates weights needle rows).map (Match.map f) := by
  unfold candidates
  rw [List.zipIdx_map]
  split
  · rw [List.map_map, List.map_map]
    rfl
  · rw [List.filterMap_map, List.map_filterMap]
    congr 1
    funext row
    exact h.of?_map weights needle row

end Rescale

/-- Sound matches are collected as they are. -/
theorem mapM_sound_ok {ε α : Type} (found : List (Match α)) :
    (found.map (Match.map (Except.ok (ε := ε)))).mapM Match.sound = .ok found := by
  induction found with
  | nil => rfl
  | cons m rest ih =>
    rw [List.map_cons, List.mapM_cons, ih]
    rfl

/-- A list of computations gives what each of them gives. -/
theorem mapM_eq_ok_iff {ε α β : Type} {f : α → Except ε β} {as : List α} {bs : List β} :
    as.mapM f = .ok bs ↔ List.Forall₂ (fun a b => f a = .ok b) as bs := by
  induction as generalizing bs with
  | nil => cases bs <;> simp [pure, Except.pure]
  | cons a as ih =>
    rw [List.mapM_cons, List.forall₂_cons_left_iff]
    simp only [← ih]
    constructor
    · intro h
      obtain ⟨b, hb, h⟩ := exists_of_bind_eq_ok h
      obtain ⟨rest, hrest, h⟩ := exists_of_bind_eq_ok h
      exact ⟨b, rest, hb, hrest, (Except.ok.inj h).symm⟩
    · rintro ⟨b, rest, hb, hrest, rfl⟩
      rw [hb, hrest]
      rfl

/-! ## The search as a ranking -/

/-- **A search with numeric weights is a ranking** of the rows by their doubles. -/
theorem Index.best_eq_rank {index : Index} {doubles : Weights Float}
    (hw : index.weights.map Value.asDouble = doubles.map .ok) (query : Text) (limit : Nat) :
    index.best query limit
      = .ok (rank doubles (lower query) limit index.rows) := by
  unfold Index.best Index.fitting
  rw [hw, rescales_ok.candidates_map, mapM_sound_ok]
  rfl

/-- Finding a text is ranking its lowercase form. -/
theorem Index.find_text_eq_rank {index : Index} {doubles : Weights Float}
    (hw : index.weights.map Value.asDouble = doubles.map .ok) (query : Text) (limit : Nat) :
    index.find (.text query) (.whole limit)
      = .ok (rank doubles (lower query) limit index.rows) := by
  rw [index.find_text, Index.best_eq_rank hw]

/-! ## Positions -/

/-- A candidate is a row of the catalog. -/
theorem position_lt_of_mem_candidates {α : Type} [Scale α] {weights : Weights α}
    {needle : Text} {rows : List (Row α)} {m : Match α}
    (hm : m ∈ candidates weights needle rows) : m.position < rows.length := by
  unfold candidates at hm
  split at hm
  · obtain ⟨row, hrow, rfl⟩ := List.mem_map.mp hm
    exact List.snd_lt_of_mem_zipIdx hrow
  · obtain ⟨row, hrow, hof⟩ := List.mem_filterMap.mp hm
    obtain ⟨hit, _, rfl⟩ := Option.map_eq_some_iff.mp hof
    exact List.snd_lt_of_mem_zipIdx hrow

/-- A ranking names rows only. -/
theorem position_lt_of_mem_rank {α : Type} [Scale α] [Graded α] {weights : Weights α}
    {needle : Text} {limit : Nat} {rows : List (Row α)} {m : Match α}
    (hm : m ∈ rank weights needle limit rows) : m.position < rows.length :=
  position_lt_of_mem_candidates (List.mem_mergeSort.mp (List.mem_of_mem_take hm))

namespace Index

theorem length_rows (index : Index) : index.rows.length = index.entries.length := by
  rw [index.rows_eq, List.length_map]

/-- With numeric weights a text is found, and each of its matches has an entry. -/
theorem find_text_ok {index : Index} (hw : index.weights.Numeric) (query : Text) (limit : Nat) :
    ∃ found, index.find (.text query) (.whole limit) = .ok found ∧
      ∀ m ∈ found, m.position < index.entries.length := by
  obtain ⟨doubles, hd⟩ := hw
  refine ⟨_, find_text_eq_rank hd query limit, fun m hm => ?_⟩
  rw [← index.length_rows]
  exact position_lt_of_mem_rank hm

/-- What is shown of a match that has an entry. -/
theorem map_entryOf_eq_ok_iff {index : Index} {m : Match Float} {result : Result} :
    ((index.entryOf m).map fun entry => ⟨entry.title, entry.subtitle, m.score⟩) = .ok result ↔
      ∃ entry, index.entries[m.position]? = some entry ∧
        result = ⟨entry.title, entry.subtitle, m.score⟩ := by
  unfold entryOf
  cases index.entries[m.position]? with
  | none => simp [Except.map]
  | some entry => simp [Except.map, eq_comm]

/-- Results are shown of matches row by row, each with the title and the subtitle of its entry. -/
theorem results_eq_ok_iff {index : Index} {found : List (Match Float)} {results : List Result} :
    index.results found = .ok results ↔
      List.Forall₂ (fun m result => ∃ entry, index.entries[m.position]? = some entry ∧
        result = ⟨entry.title, entry.subtitle, m.score⟩) found results := by
  unfold Index.results
  simp only [mapM_eq_ok_iff, map_entryOf_eq_ok_iff]

/-- Matches that have entries are all shown. -/
theorem exists_results {index : Index} {found : List (Match Float)}
    (hpos : ∀ m ∈ found, m.position < index.entries.length) :
    ∃ results, index.results found = .ok results := by
  simp only [results_eq_ok_iff]
  induction found with
  | nil => exact ⟨[], .nil⟩
  | cons m rest ih =>
    obtain ⟨hhere, hrest⟩ := List.forall_mem_cons.mp hpos
    obtain ⟨results, hresults⟩ := ih hrest
    exact ⟨_, .cons ⟨_, List.getElem?_eq_getElem hhere, rfl⟩ hresults⟩

/-- Each match has a result. -/
theorem length_results {index : Index} {found : List (Match Float)} {results : List Result}
    (h : index.results found = .ok results) : results.length = found.length :=
  (results_eq_ok_iff.mp h).length_eq.symm

end Index

end Launcher
