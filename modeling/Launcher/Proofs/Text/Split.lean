import Mathlib
import Launcher.Text.Split

/-!
# Splitting and joining

Splitting and joining are those of lists in general, so pieces without a separator in them come
back from the whole that they are joined to.

> `splitAt_joinWith` pieces with a separator between each two
> `splitAt_lines` pieces with a separator behind each: one more piece comes back, an empty one
-/

namespace Launcher.Text

variable {α : Type} [DecidableEq α] {sep : α} {pieces : List (List α)}

theorem splitAt_eq_splitOn (sep : α) (cs : List α) : splitAt sep cs = cs.splitOn sep := by
  induction cs with
  | nil => rfl
  | cons c rest ih =>
    rw [splitAt, List.splitOn_cons_eq_if_modifyHead, ih]
    by_cases h : c = sep
    · rw [if_pos h, if_pos (beq_iff_eq.mpr h)]
    · rw [if_neg h, if_neg (by rwa [beq_iff_eq])]
      cases hsplit : rest.splitOn sep with
      | nil => exact absurd hsplit (List.splitOn_ne_nil sep rest)
      | cons piece pieces => rfl

omit [DecidableEq α] in
theorem joinWith_eq_intercalate (sep : α) (pieces : List (List α)) :
    joinWith sep pieces = [sep].intercalate pieces := by
  induction pieces with
  | nil => rfl
  | cons piece pieces ih =>
    cases pieces with
    | nil => exact List.intercalate_singleton.symm
    | cons next pieces =>
      rw [joinWith, ih, List.intercalate_cons_cons, List.append_assoc]
      · rfl
      · exact List.cons_ne_nil _ _

omit [DecidableEq α] in
/-- What is joined holds nothing but the separator and what the pieces hold. -/
theorem mem_joinWith {c : α} (h : c ∈ joinWith sep pieces) :
    c = sep ∨ ∃ piece ∈ pieces, c ∈ piece := by
  induction pieces with
  | nil => cases h
  | cons piece pieces ih =>
    cases pieces with
    | nil => exact Or.inr ⟨piece, List.mem_cons_self, h⟩
    | cons next pieces =>
      rcases List.mem_append.mp h with hpiece | hrest
      · exact Or.inr ⟨piece, List.mem_cons_self, hpiece⟩
      · rcases List.mem_cons.mp hrest with hsep | hrest
        · exact Or.inl hsep
        · refine (ih hrest).imp_right ?_
          rintro ⟨other, hother, hc⟩
          exact ⟨other, List.mem_cons_of_mem _ hother, hc⟩

/-- Pieces that hold no separator come back from what they are joined to. -/
theorem splitAt_joinWith (h : ∀ piece ∈ pieces, sep ∉ piece) (hne : pieces ≠ []) :
    splitAt sep (joinWith sep pieces) = pieces := by
  rw [splitAt_eq_splitOn, joinWith_eq_intercalate]
  exact List.splitOn_intercalate sep h hne

/-- Pieces that hold no separator come back from a text in which each of them ends with one; what
follows the last separator is one more piece. -/
theorem splitAt_lines (h : ∀ piece ∈ pieces, sep ∉ piece) :
    splitAt sep (pieces.flatMap (· ++ [sep])) = pieces ++ [[]] := by
  induction pieces with
  | nil => rfl
  | cons piece pieces ih =>
    rw [List.forall_mem_cons] at h
    rw [List.flatMap_cons, List.append_assoc, List.singleton_append, splitAt_eq_splitOn,
      List.splitOn_append_cons_self_of_not_mem h.1, ← splitAt_eq_splitOn, ih h.2, List.cons_append]

end Launcher.Text
