import Launcher.Search.Values

/-!
# The walk along a target decides

The walk steps on as soon as it meets the member it looks for. That loses nothing: if the rest of
the query can be found in the rest of the target at all, what follows in the query can be found
behind the first place at which this member stands. So from every place in the query the walk
answers whether the query, from there on, is what is left of the target when some of its members are
left out (`walk?_drop`). That it answers at all says that it never looks beyond the end of the
query.

> **`subsequence_decided`**: the same of texts, for the function on values as well.
-/

namespace Launcher

section Walk

variable {β : Type} [BEq β] [LawfulBEq β] {query target : List β} {place : Nat}

/-- **The walk decides**, from every place in the query. -/
theorem walk?_drop (hplace : place < query.length) :
    ∃ met, walk? query place target = some met ∧
      (met = true ↔ (query.drop place).Sublist target) := by
  -- along the target, as the walk goes, from whatever place it has come to
  induction target generalizing place with
  | nil =>
    refine ⟨false, rfl, iff_of_false Bool.false_ne_true fun hsub => ?_⟩
    have hempty := List.drop_eq_nil_iff.mp (List.sublist_nil.mp hsub)
    omega
  | cons t target ih =>
    have hdrop : query.drop place = query[place] :: query.drop (place + 1) :=
      List.drop_eq_getElem_cons hplace
    unfold walk?
    simp only [List.getElem?_eq_getElem hplace]
    by_cases hmeets : (t == query[place]) = true
    · rw [if_pos hmeets, hdrop, eq_of_beq hmeets, List.cons_sublist_cons]
      by_cases hlast : place + 1 = query.length
      · refine ⟨true, if_pos hlast, iff_of_true rfl ?_⟩
        rw [hlast, List.drop_length]
        exact List.nil_sublist target
      · rw [if_neg hlast]
        exact ih (by omega)
    · rw [if_neg hmeets]
      obtain ⟨met, hwalk, hmet⟩ := ih hplace
      refine ⟨met, hwalk, hmet.trans ⟨fun hsub => hsub.cons t, fun hsub => ?_⟩⟩
      rw [hdrop] at hsub ⊢
      -- a query that goes on with another member cannot do so at this place
      refine (List.sublist_cons_iff.mp hsub).resolve_right ?_
      rintro ⟨rest, heq, -⟩
      cases heq
      exact hmeets (beq_self_eq_true _)

theorem subsequence?_sublist (query target : List β) :
    ∃ fits, subsequence? query target = some fits ∧ (fits = true ↔ query.Sublist target) := by
  unfold subsequence?
  by_cases hempty : query.length = 0
  · refine ⟨true, if_pos hempty, iff_of_true rfl ?_⟩
    rw [List.length_eq_zero_iff.mp hempty]
    exact List.nil_sublist target
  · rw [if_neg hempty]
    by_cases hlonger : target.length < query.length
    · refine ⟨false, if_pos hlonger, iff_of_false Bool.false_ne_true fun hsub => ?_⟩
      exact absurd hsub.length_le (Nat.not_le.mpr hlonger)
    · rw [if_neg hlonger]
      exact walk?_drop (Nat.pos_of_ne_zero hempty)

/-- A query is a subsequence of a target exactly if it is what is left of the target when some of
its members are left out. -/
theorem isSubsequence_iff_sublist : isSubsequence query target = true ↔ query.Sublist target := by
  obtain ⟨fits, hfits, hiff⟩ := subsequence?_sublist query target
  unfold isSubsequence
  rw [hfits, Option.getD_some, hiff]

end Walk

/-! ## Other members -/

section Members

variable {β γ : Type} [BEq β] [BEq γ] {f : β → γ}

/-- The walk goes the same way along other members that are equal where these are. -/
theorem walk?_map (hf : ∀ x y, (f x == f y) = (x == y)) (query target : List β) (place : Nat) :
    walk? (query.map f) place (target.map f) = walk? query place target := by
  induction target generalizing place with
  | nil => rfl
  | cons t target ih =>
    rw [List.map_cons]
    unfold walk?
    rw [List.getElem?_map]
    cases query[place]? with
    | none => rfl
    | some q =>
      simp only [Option.map_some, hf, List.length_map, ih]

theorem isSubsequence_map (hf : ∀ x y, (f x == f y) = (x == y)) (query target : List β) :
    isSubsequence (query.map f) (target.map f) = isSubsequence query target := by
  unfold isSubsequence subsequence?
  rw [walk?_map hf, List.length_map, List.length_map]

end Members

/-! ## Texts -/

namespace Value

/-- A code of a text, as the value that it is. -/
def ofCode (c : Code) : Value := .text [c]

/-- Codes are equal as values exactly if they are equal. -/
theorem ofCode_beq_ofCode (c d : Code) : (ofCode c == ofCode d) = (c == d) := by
  have hsame : (ofCode c == ofCode d) = ([c] == [d]) := by
    show same (.text _) (.text _) = _
    rw [same]
  rw [hsame, Bool.eq_iff_iff, beq_iff_eq, beq_iff_eq]
  exact List.singleton_inj

/-- On texts nothing is refused, and the members that are walked along are the codes. -/
theorem isSubsequenceOf_text (query target : Text) :
    (Value.text query).isSubsequenceOf (.text target)
      = .ok (isSubsequence query target) := by
  have hunfold : (Value.text query).isSubsequenceOf (.text target)
      = if (query.map ofCode).isEmpty then .ok true
        else if (target.map ofCode).length < (query.map ofCode).length then .ok false
        else .ok (isSubsequence (query.map ofCode) (target.map ofCode)) := rfl
  rw [hunfold, isSubsequence_map ofCode_beq_ofCode, List.length_map, List.length_map]
  by_cases hempty : query.length = 0
  · have hnil : query = [] := List.length_eq_zero_iff.mp hempty
    rw [hnil]
    rfl
  · have hsome : ¬(query.map ofCode).isEmpty = true := by
      rw [List.isEmpty_iff_length_eq_zero, List.length_map]
      exact hempty
    rw [if_neg hsome]
    unfold isSubsequence subsequence?
    rw [if_neg hempty]
    split <;> rfl

end Value

/-- **The walk decides the subsequence relation.** For all texts, the walk ends with an answer, as
it never looks for a code beyond the end of the query. The answer is yes exactly if the query
is what is left of the target when some of its codes, or none, are left out. -/
theorem subsequence_decided (query target : Text) :
    ∃ fits, subsequence? query target = some fits ∧
      isSubsequence query target = fits ∧
      (Value.text query).isSubsequenceOf (.text target) = .ok fits ∧
      (fits = true ↔ query.Sublist target) := by
  obtain ⟨fits, hfits, hiff⟩ := subsequence?_sublist query target
  have hanswer : isSubsequence query target = fits := by
    unfold isSubsequence
    rw [hfits, Option.getD_some]
  exact ⟨fits, hfits, hanswer, hanswer ▸ Value.isSubsequenceOf_text query target, hiff⟩

/-- A character that is asked for twice has to stand there twice. -/
example : subsequence? ("ll" : Text) "hello" = some true ∧
    subsequence? ("lll" : Text) "hello" = some false := by decide

end Launcher
