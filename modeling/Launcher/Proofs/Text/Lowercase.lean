import Launcher.Text.Lowercase

/-!
# The lowercase form of a beginning

A beginning of a text and the whole text are put into lowercase apart. The two agree on the
beginning, with one exception: a capital sigma that ends the beginning counts as the end of a word
there, and in the whole text the word may go on. `BreaksAtSigma` is that exception:

> `lower_isPrefix_iff`: the lowercase form of a beginning is a beginning of the lowercase form
> of the whole exactly if the beginning does not break off a word at a capital sigma.

The induction walks along the beginning. Only the choice between the two small sigmas looks ahead,
and what it sees changes with the rest only if nothing but ignorable characters come before the rest
(`isWordEnd_append_iff`).
-/

namespace Launcher.Text

/-- After `before`, which is read backwards, `cs` breaks off a word at a capital sigma: a letter
stands in front of the sigma, nothing but ignorable characters behind it, and in `rest` the word
goes on. -/
def BreaksAtSigma (before cs rest : Text) : Prop :=
  ∃ head tail, cs = head ++ .char 'Σ' :: tail ∧ startsWithLetter (head.reverse ++ before) = true ∧
    tail.all isCaseIgnorable = true ∧ startsWithLetter rest = true

/-! ## What a sigma sees -/

theorem startsWithLetter_of_all {cs : Text} (h : cs.all isCaseIgnorable = true) :
    startsWithLetter cs = false := by
  induction cs with
  | nil => rfl
  | cons c cs ih =>
    rw [List.all_cons, Bool.and_eq_true] at h
    rw [← ih h.2]
    unfold startsWithLetter
    rw [List.dropWhile_cons_of_pos h.1]

/-- Behind ignorable characters the rest decides, otherwise what stands before it. -/
theorem startsWithLetter_append (cs rest : Text) :
    startsWithLetter (cs ++ rest)
      = if cs.all isCaseIgnorable then startsWithLetter rest else startsWithLetter cs := by
  induction cs with
  | nil => rfl
  | cons c cs ih =>
    cases hc : isCaseIgnorable c with
    | true =>
      have hskip : ∀ more, startsWithLetter (c :: more) = startsWithLetter more := fun more => by
        unfold startsWithLetter
        rw [List.dropWhile_cons_of_pos hc]
      rw [List.cons_append, hskip, hskip, ih, List.all_cons, hc, Bool.true_and]
    | false =>
      have hstop : ∀ more, startsWithLetter (c :: more) = isCased c := fun more => by
        unfold startsWithLetter
        rw [List.dropWhile_cons_of_neg (by rw [hc]; exact Bool.false_ne_true)]
      rw [List.cons_append, hstop, hstop, List.all_cons, hc, Bool.false_and,
        if_neg Bool.false_ne_true]

/-- A word that ends before the rest does not end there if the rest goes on with it. -/
theorem isWordEnd_append_iff (before cs rest : Text) :
    isWordEnd before cs = isWordEnd before (cs ++ rest) ↔
      ¬(startsWithLetter before = true ∧ cs.all isCaseIgnorable = true ∧
        startsWithLetter rest = true) := by
  unfold isWordEnd
  rw [startsWithLetter_append]
  cases hall : cs.all isCaseIgnorable with
  | false => simp
  | true =>
    rw [startsWithLetter_of_all hall]
    cases startsWithLetter before <;> cases startsWithLetter rest <;> simp

/-! ## The beginning -/

/-- A text breaks off a word at its first character or at a later one. -/
theorem breaksAtSigma_cons {before cs rest : Text} {c : Code} :
    BreaksAtSigma before (c :: cs) rest ↔
      (c = 'Σ' ∧ startsWithLetter before = true ∧ cs.all isCaseIgnorable = true ∧
        startsWithLetter rest = true) ∨ BreaksAtSigma (c :: before) cs rest := by
  constructor
  · rintro ⟨head, tail, he, hl, ht, hr⟩
    cases head with
    | nil => cases he; exact Or.inl ⟨rfl, hl, ht, hr⟩
    | cons d head =>
      cases he
      refine Or.inr ⟨head, tail, rfl, ?_, ht, hr⟩
      rw [List.reverse_cons, List.append_assoc] at hl
      exact hl
  · rintro (⟨rfl, hl, ht, hr⟩ | ⟨head, tail, rfl, hl, ht, hr⟩)
    · exact ⟨[], cs, rfl, hl, ht, hr⟩
    · refine ⟨c :: head, tail, rfl, ?_, ht, hr⟩
      rw [List.reverse_cons, List.append_assoc]
      exact hl

/-- The same after any text: what stands before it is seen by both. -/
theorem lowerAfter_isPrefix_iff (before cs rest : Text) :
    lowerAfter before cs <+: lowerAfter before (cs ++ rest) ↔ ¬BreaksAtSigma before cs rest := by
  induction cs generalizing before with
  | nil =>
    refine ⟨fun _ => ?_, fun _ => List.nil_prefix⟩
    rintro ⟨head, tail, he, -⟩
    simp at he
  | cons c cs ih =>
    rw [breaksAtSigma_cons, not_or, ← ih]
    show lowerBetween before c cs ++ lowerAfter (c :: before) cs
        <+: lowerBetween before c (cs ++ rest) ++ lowerAfter (c :: before) (cs ++ rest) ↔ _
    unfold lowerBetween
    by_cases hc : c = 'Σ'
    · rw [if_pos hc, if_pos hc, List.singleton_append, List.singleton_append,
        List.cons_prefix_cons]
      -- the two forms of the sigma differ exactly if the end of the word does
      have hsame : (if isWordEnd before cs then 'ς' else 'σ')
            = (if isWordEnd before (cs ++ rest) then 'ς' else 'σ') ↔
          isWordEnd before cs = isWordEnd before (cs ++ rest) := by
        cases isWordEnd before cs <;> cases isWordEnd before (cs ++ rest) <;> decide
      rw [Code.char.injEq, hsame, isWordEnd_append_iff]
      simp only [hc, true_and]
    · rw [if_neg hc, if_neg hc, List.prefix_append_right_inj]
      simp only [hc, false_and, not_false_eq_true, true_and]

/-- **The lowercase form of a beginning** is a beginning of the lowercase form of the whole exactly
if no word is broken off at a capital sigma. -/
theorem lower_isPrefix_iff (cs rest : Text) :
    lower cs <+: lower (cs ++ rest) ↔ ¬BreaksAtSigma [] cs rest :=
  lowerAfter_isPrefix_iff [] cs rest

/-- A text has a lowercase form unless it is empty. -/
theorem lower_ne_nil {cs : Text} (h : cs ≠ []) : lower cs ≠ [] := by
  obtain ⟨c, cs, rfl⟩ := List.exists_cons_of_ne_nil h
  have hfirst : lowerBetween [] c cs ≠ [] := by
    unfold lowerBetween
    split
    · exact List.cons_ne_nil _ _
    · cases c with
      | half n => exact List.cons_ne_nil _ _
      | char c =>
        rw [lowerCode]
        split <;> exact List.cons_ne_nil _ _
  show lowerBetween [] c cs ++ lowerAfter [c] cs ≠ []
  rw [ne_eq, List.append_eq_nil_iff, not_and]
  exact fun hnil => absurd hnil hfirst

end Launcher.Text
