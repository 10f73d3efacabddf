import Mathlib.Algebra.Order.Field.Rat
import Mathlib.Tactic.Linarith
import Launcher.Proofs.Search.Rank
import Launcher.Proofs.Search.Shorter

/-!
# Scores in their bands

A hit by a subsequence scores the base weight and a multiple of the share of the title or keyword
that the query covers. Nothing asks whether that title is empty before its share is taken. It never
is: the empty query begins every title, so the first rule takes it, and a query that is found in a
title without beginning it is shorter than that title. Empty keywords are passed over.

`Guarded` is a scale on which a division by zero is a failure that spoils the score. A hit on it is
the sound hit of the scale below, whatever that scale is, so no division by zero is ever made. On
the rationals the formulas are exact, and the share can be placed:

> `share_pos`, `share_le_one`, `share_eq_one_iff`: the share of what has the query as a subsequence
> lies above zero, and it is one only for the query itself.
>
> **`hit?_in_band`**: no division by zero, and each score in the band of its rule.
-/

namespace Launcher

/-! ## Divisions by zero -/

/-- A score, or a division by zero on the way to it. -/
inductive Guarded (α : Type) where
  | sound (score : α)
  | dividedByZero

namespace Guarded

variable {α : Type}

/-- Two scores combined; a division by zero spoils whatever it enters. -/
def combine (f : α → α → α) : Guarded α → Guarded α → Guarded α
  | .sound x, .sound y => .sound (f x y)
  | _, _ => .dividedByZero

/-- Scores of a scale, with the share of nothing as a division by zero. -/
instance [Scale α] : Scale (Guarded α) where
  add := combine Scale.add
  mul := combine Scale.mul
  ratio part whole := if whole = 0 then .dividedByZero else .sound (Scale.ratio part whole)

/-- Sound scores are computed as on the scale below. -/
theorem rescales_sound [Scale α] : Rescales (sound : α → Guarded α) := by
  refine ⟨fun _ _ => rfl, fun _ _ => rfl, ?_⟩
  intro part whole hwhole
  show (if whole = 0 then dividedByZero else sound (Scale.ratio part whole)) = _
  rw [if_neg hwhole]

end Guarded

/-! ## Shares -/

variable {query target title keyword : Text}

/-- The share of the target that a query covers. -/
def share (query target : Text) : ℚ := query.length / target.length

theorem fuzzyScore_eq (base multiplier : ℚ) (query target : Text) :
    fuzzyScore base multiplier query target = base + multiplier * share query target := rfl

/-- A query that is not empty has a share above zero. -/
theorem share_pos (hquery : query ≠ []) (hsub : query.Sublist target) : 0 < share query target := by
  have hpart : 0 < query.length := List.length_pos_iff.mpr hquery
  have hwhole : 0 < target.length := Nat.lt_of_lt_of_le hpart hsub.length_le
  exact div_pos (Nat.cast_pos.mpr hpart) (Nat.cast_pos.mpr hwhole)

/-- A query is no longer than what it fits. -/
theorem share_le_one (hsub : query.Sublist target) : share query target ≤ 1 :=
  div_le_one_of_le₀ (Nat.cast_le.mpr hsub.length_le) (Nat.cast_nonneg _)

/-- A fuzzy score is at most the base weight and the multiplier. -/
theorem fuzzyScore_le {base multiplier : ℚ} (hmultiplier : 0 ≤ multiplier)
    (hsub : query.Sublist target) :
    fuzzyScore base multiplier query target ≤ base + multiplier := by
  have hle : multiplier * share query target ≤ multiplier * 1 :=
    mul_le_mul_of_nonneg_left (share_le_one hsub) hmultiplier
  rw [fuzzyScore_eq]
  linarith

/-- Of the targets that have the query, only the query itself is covered as a whole. -/
theorem share_eq_one_iff (htarget : target ≠ []) (hsub : query.Sublist target) :
    share query target = 1 ↔ query = target := by
  have hwhole : (target.length : ℚ) ≠ 0 :=
    Nat.cast_ne_zero.mpr fun hlength => htarget (List.eq_nil_of_length_eq_zero hlength)
  unfold share
  rw [div_eq_one_iff_eq hwhole, Nat.cast_inj, hsub.length_eq]

/-- A query that does not begin a title is not empty and covers less than the whole of it. -/
theorem share_lt_one (hstart : ¬query <+: title) (hsub : query.Sublist title) :
    query ≠ [] ∧ query.length < title.length ∧ share query title < 1 := by
  have hquery : query ≠ [] := by
    intro hnil
    exact hstart (hnil ▸ List.nil_prefix)
  have htitle : title ≠ [] := by
    intro hnil
    exact hquery (List.sublist_nil.mp (hnil ▸ hsub))
  have hne : query ≠ title := by
    intro heq
    exact hstart (heq ▸ List.prefix_rfl)
  refine ⟨hquery, Nat.lt_of_le_of_ne hsub.length_le ?_, lt_of_le_of_ne (share_le_one hsub) ?_⟩
  · intro hlength
    exact hne (hsub.length_eq.mp hlength)
  · intro hone
    exact hne ((share_eq_one_iff htitle hsub).mp hone)

/-- **Scoring divides by nothing but lengths above zero, and scores lie in the band of their rule.**
Whatever the query, the title and the keywords, the hit is sound on the guarded scale. On exact
scores a hit by the title comes from a query that is not empty and shorter than the title, and adds
a share of the multiplier strictly between zero and one. A hit by a keyword adds a share above zero
and up to one, which is one exactly if the query is the keyword used. -/
theorem hit?_in_band (query title : Text) (keywords : List Text) :
    (∀ {α : Type} [Scale α] (weights : Weights α) (base : α),
      hit? (weights.map Guarded.sound) (.sound base) query title keywords
        = (hit? weights base query title keywords).map (Hit.map .sound)) ∧
    ∀ (weights : Weights ℚ) (base : ℚ) (hit : Hit ℚ),
      hit? weights base query title keywords = some hit →
      (hit.rule = .title →
        query ≠ [] ∧ query.length < title.length ∧
        hit.score = base + weights.titleMultiplier * share query title ∧
        0 < share query title ∧ share query title < 1) ∧
      (hit.rule = .keyword →
        ∃ place keyword, FirstFitting query keywords place keyword ∧
        hit.score = base + weights.keywordMultiplier * share query keyword ∧
        0 < share query keyword ∧ share query keyword ≤ 1 ∧
        (share query keyword = 1 ↔ query = keyword)) := by
  refine ⟨fun weights base => Guarded.rescales_sound.hit?_map weights base query title keywords, ?_⟩
  intro weights base hit hhit
  rcases hit?_cases weights base query title keywords with
    ⟨-, he⟩ | ⟨hstart, hsub, he⟩ | ⟨hnot, ⟨place, keyword, hfirst, he⟩ | ⟨-, he⟩⟩
  · rw [he] at hhit
    cases hhit
    exact ⟨nofun, nofun⟩
  · -- the title has the query, but does not begin with it
    rw [he] at hhit
    cases hhit
    obtain ⟨hquery, hlength, hlt⟩ := share_lt_one hstart hsub
    refine ⟨fun _ => ⟨hquery, hlength, ?_, share_pos hquery hsub, hlt⟩, nofun⟩
    exact fuzzyScore_eq base weights.titleMultiplier query title
  · -- the empty query would have been found in the title
    rw [he] at hhit
    cases hhit
    have hquery : query ≠ [] := by
      intro hnil
      exact hnot (hnil ▸ List.nil_sublist title)
    obtain ⟨hkeyword, hsub⟩ := hfirst.fits
    refine ⟨nofun, fun _ => ⟨place, keyword, hfirst, ?_, share_pos hquery hsub,
      share_le_one hsub, share_eq_one_iff hkeyword hsub⟩⟩
    exact fuzzyScore_eq base weights.keywordMultiplier query keyword
  · rw [he] at hhit
    cases hhit

/-- The standard weights as exact numbers. -/
def exactWeights : Weights ℚ where
  prefixBonus := 1 / 2
  titleMultiplier := 3 / 10
  keywordMultiplier := 1 / 5

/-- A query that is the last of the keywords of a console scores the full multiplier. -/
theorem tty_in_band :
    hit? exactWeights (1 / 2) "tty" "console" consoleKeywords
      = some (keywordHit exactWeights (1 / 2) ("tty" : Text) ("tty" : Text)) ∧
    ∃ place keyword, FirstFitting "tty" consoleKeywords place keyword ∧
      (keywordHit exactWeights (1 / 2) ("tty" : Text) ("tty" : Text)).score
        = 1 / 2 + 1 / 5 * share ("tty" : Text) keyword ∧
      (share ("tty" : Text) keyword = 1 ↔ ("tty" : Text) = keyword) := by
  have hhit : hit? exactWeights (1 / 2) "tty" "console" consoleKeywords
      = some (keywordHit exactWeights (1 / 2) ("tty" : Text) ("tty" : Text)) := by rfl
  obtain ⟨-, hband⟩ := hit?_in_band "tty" "console" consoleKeywords
  obtain ⟨place, keyword, hfirst, hscore, -, -, hone⟩ := (hband exactWeights (1 / 2) _ hhit).2 rfl
  exact ⟨hhit, place, keyword, hfirst, hscore, hone⟩

end Launcher
