import Launcher.Text.Blank

/-!
# Texts without blanks at their ends

Taking the blanks off both ends of a text leaves one whose first and last characters are not blank,
and changes nothing about a text that is one already. So `trim` gives back exactly the texts without
blanks at their ends.

> `trim_eq_self_iff` a text is left as it is exactly if its ends are not blank
> `isTrimmed_trim` what is left of a text is empty or has ends that are not blank
-/

namespace Launcher.Text

/-- Neither the first character nor the last one is blank. -/
def BareEnds (cs : Text) : Prop :=
  (∀ c ∈ cs.head?, isBlank c = false) ∧ ∀ c ∈ cs.getLast?, isBlank c = false

/-- The text is not empty and has no blanks at its ends. -/
def IsTrimmed (t : Text) : Prop := t ≠ [] ∧ BareEnds t

theorem isBlank_of_head?_dropWhile {cs : Text} :
    ∀ c ∈ (cs.dropWhile isBlank).head?, isBlank c = false := by
  intro c hc
  have hstop := List.head?_dropWhile_not isBlank cs
  rw [Option.mem_def.mp hc] at hstop
  exact hstop

/-- What is left has ends that are not blank. -/
theorem bareEnds_trim (cs : Text) : BareEnds (trim cs) := by
  unfold trim trimEnd
  generalize hfront : cs.dropWhile isBlank = front
  constructor
  · intro c hc
    -- the first character is still that of the rest behind the blanks in front
    have hpre : (front.reverse.dropWhile isBlank).reverse <+: front := by
      have hsuffix := List.dropWhile_suffix isBlank (l := front.reverse)
      rwa [← List.reverse_prefix, List.reverse_reverse] at hsuffix
    obtain ⟨rest, hrest⟩ := hpre
    have hhead : c ∈ front.head? := by
      rw [← hrest, List.head?_append, Option.mem_def.mp hc]
      rfl
    rw [← hfront] at hhead
    exact isBlank_of_head?_dropWhile c hhead
  · intro c hc
    rw [List.getLast?_reverse] at hc
    exact isBlank_of_head?_dropWhile c hc

theorem dropWhile_isBlank_eq_self {cs : Text} (h : ∀ c ∈ cs.head?, isBlank c = false) :
    cs.dropWhile isBlank = cs := by
  cases cs with
  | nil => rfl
  | cons c rest =>
    have hc : isBlank c = false := h c rfl
    rw [List.dropWhile_cons, hc]
    rfl

/-- A text is left as it is exactly if its ends are not blank. -/
theorem trim_eq_self_iff {cs : Text} : trim cs = cs ↔ BareEnds cs := by
  constructor
  · intro h
    rw [← h]
    exact bareEnds_trim cs
  · intro h
    obtain ⟨hhead, hlast⟩ := h
    have hback : ∀ c ∈ cs.reverse.head?, isBlank c = false := by
      rwa [List.head?_reverse]
    unfold trim trimEnd
    rw [dropWhile_isBlank_eq_self hhead, dropWhile_isBlank_eq_self hback, List.reverse_reverse]

/-- What is left of a text is empty or has no blanks at its ends. -/
theorem isTrimmed_trim {t : Text} (h : (trim t).isEmpty = false) : IsTrimmed (trim t) := by
  refine ⟨fun hnil => ?_, bareEnds_trim t⟩
  rw [hnil] at h
  cases h

/-- A text without blanks at its ends is not blank. -/
theorem IsTrimmed.not_blank {t : Text} (h : IsTrimmed t) : isBlankText t = false := by
  obtain ⟨hne, hhead, -⟩ := h
  unfold isBlankText
  cases t with
  | nil => exact absurd rfl hne
  | cons c rest =>
    have hc : isBlank c = false := hhead c rfl
    rw [List.all_cons, hc, Bool.false_and]

end Launcher.Text
