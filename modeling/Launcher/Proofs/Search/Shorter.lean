import Launcher.Proofs.Search.Subsequence
import Launcher.Search.Scoring

/-!
# Shorter queries

A query that loses some of its characters is still a subsequence of whatever it was one of before,
so each rule for subsequences that applied to it applies to what is left of it. `hit?_cases` says
which rule gives the hit of a query, in terms of beginnings and subsequences alone, and one
comparison of the two hits gives the rest:

> **`hit?_shorter`**: what is left of a query that has a hit has one too. If the title gave the
> first hit it gives the second. If the characters are lost at the end, the rule of the second hit
> is tried no later than that of the first, and a keyword that gives it stands no later than the one
> that gave the first.

The rule may be a later one when characters are lost in front: a beginning of a title without its
first character is only a subsequence of that title.
-/

namespace Launcher

/-- The place of a rule in the order in which the rules are tried. -/
def Rule.place : Rule → Nat
  | .titleStart => 0
  | .title => 1
  | .keyword => 2

/-- The keyword can give a hit for the query. -/
def FitsKeyword (query keyword : Text) : Prop := keyword ≠ [] ∧ query.Sublist keyword

/-- The keyword at a place is the first that can give a hit for the query. -/
structure FirstFitting (query : Text) (keywords : List Text) (place : Nat)
    (keyword : Text) : Prop where
  there : keywords[place]? = some keyword
  fits : FitsKeyword query keyword
  first : ∀ earlier other, earlier < place → keywords[earlier]? = some other →
    ¬FitsKeyword query other

variable {α : Type} [Scale α] {weights : Weights α} {base : α} {query shorter title : Text}
  {keywords : List Text} {hit : Hit α} {place : Nat} {keyword : Text}

/-! ## The keyword -/

/-- A keyword that a query fits is fitted by whatever is left of the query. -/
theorem FitsKeyword.of_sublist (h : FitsKeyword query keyword) (hsub : shorter.Sublist query) :
    FitsKeyword shorter keyword := ⟨h.1, hsub.trans h.2⟩

/-- What is asked of a keyword. -/
theorem fitsKeyword_iff :
    FitsKeyword query keyword ↔ (!keyword.isEmpty && isSubsequence query keyword) = true := by
  rw [Bool.and_eq_true, Bool.not_eq_true', List.isEmpty_eq_false_iff, isSubsequence_iff_sublist]
  rfl

/-- The keyword that fits is the first that can give a hit. -/
theorem fittingKeyword?_eq_some_iff :
    fittingKeyword? query keywords = some keyword ↔
      ∃ place, FirstFitting query keywords place keyword := by
  unfold fittingKeyword?
  rw [List.find?_eq_some_iff_getElem]
  constructor
  · rintro ⟨hfits, place, hlt, hthere, hfirst⟩
    have hthere : keywords[place]? = some keyword :=
      List.getElem?_eq_some_iff.mpr ⟨hlt, hthere⟩
    refine ⟨place, hthere, fitsKeyword_iff.mpr hfits, ?_⟩
    intro earlier other hearlier hother hfit
    obtain ⟨_, rfl⟩ := List.getElem?_eq_some_iff.mp hother
    have hnot := hfirst earlier hearlier
    rw [fitsKeyword_iff.mp hfit] at hnot
    cases hnot
  · rintro ⟨place, hthere, hfits, hfirst⟩
    obtain ⟨hlt, hthere⟩ := List.getElem?_eq_some_iff.mp hthere
    refine ⟨fitsKeyword_iff.mp hfits, place, hlt, hthere, ?_⟩
    intro earlier hearlier
    have hnot := hfirst earlier _ hearlier
      (List.getElem?_eq_getElem (Nat.lt_trans hearlier hlt))
    rw [fitsKeyword_iff, Bool.not_eq_true] at hnot
    rw [hnot, Bool.not_false]

theorem fittingKeyword?_eq_none_iff :
    fittingKeyword? query keywords = none ↔ ∀ keyword ∈ keywords, ¬FitsKeyword query keyword := by
  unfold fittingKeyword?
  simp only [List.find?_eq_none, fitsKeyword_iff]

/-- Of a shorter query and a longer one, the shorter one has its keyword first. -/
theorem FirstFitting.place_le {place' : Nat} {keyword' : Text}
    (h : FirstFitting shorter keywords place keyword)
    (h' : FirstFitting query keywords place' keyword') (hsub : shorter.Sublist query) :
    place ≤ place' := by
  refine Nat.not_lt.mp fun hlt => ?_
  exact h.first place' keyword' hlt h'.there (h'.fits.of_sublist hsub)

/-! ## The rule -/

/-- **Which rule gives the hit of a query**: the first if the query begins the title, the second if
it is another subsequence of the title, and the third with the first keyword that it fits. -/
theorem hit?_cases (weights : Weights α) (base : α) (query title : Text)
    (keywords : List Text) :
    (query <+: title ∧ hit? weights base query title keywords
      = some ⟨Scale.add base weights.prefixBonus, .titleStart⟩) ∨
    (¬query <+: title ∧ query.Sublist title ∧ hit? weights base query title keywords
      = some ⟨fuzzyScore base weights.titleMultiplier query title, .title⟩) ∨
    ¬query.Sublist title ∧
      ((∃ place keyword, FirstFitting query keywords place keyword ∧
        hit? weights base query title keywords = some (keywordHit weights base query keyword)) ∨
      (∀ keyword ∈ keywords, ¬FitsKeyword query keyword) ∧
        hit? weights base query title keywords = none) := by
  unfold hit? titleHit?
  by_cases hstart : query.isPrefixOf title = true
  · refine Or.inl ⟨List.isPrefixOf_iff_prefix.mp hstart, ?_⟩
    rw [if_pos hstart]
  · rw [if_neg hstart]
    refine Or.inr ?_
    by_cases hsub : isSubsequence query title = true
    · refine Or.inl ⟨fun h => hstart (List.isPrefixOf_iff_prefix.mpr h),
        isSubsequence_iff_sublist.mp hsub, ?_⟩
      rw [if_pos hsub]
    · rw [if_neg hsub]
      refine Or.inr ⟨fun h => hsub (isSubsequence_iff_sublist.mpr h), ?_⟩
      cases hkeyword : fittingKeyword? query keywords with
      | some keyword =>
        obtain ⟨place, hfirst⟩ := fittingKeyword?_eq_some_iff.mp hkeyword
        exact Or.inl ⟨place, keyword, hfirst, rfl⟩
      | none => exact Or.inr ⟨fittingKeyword?_eq_none_iff.mp hkeyword, rfl⟩

/-- The query has a hit, and the keyword at a place gives it. -/
def HitByKeyword (weights : Weights α) (base : α) (query title : Text)
    (keywords : List Text) (place : Nat) : Prop :=
  ∃ keyword, FirstFitting query keywords place keyword ∧
    hit? weights base query title keywords = some (keywordHit weights base query keyword)

/-- **A shorter query finds what a longer one finds.** What is left of a query that has a hit has
one too, by the title if it was the title that gave the first. If the query has lost its end, the
rule is tried no later, and a keyword stands no later, than the one that gave the first hit. -/
theorem hit?_shorter (hsub : shorter.Sublist query)
    (hhit : hit? weights base query title keywords = some hit) :
    ∃ found, hit? weights base shorter title keywords = some found ∧
      (hit.rule ≠ .keyword → found.rule ≠ .keyword) ∧
      (shorter <+: query → found.rule.place ≤ hit.rule.place) ∧
      (found.rule = .keyword → ∃ place place', place ≤ place' ∧
        HitByKeyword weights base shorter title keywords place ∧
        HitByKeyword weights base query title keywords place') := by
  have hshorter := hit?_cases weights base shorter title keywords
  rcases hit?_cases weights base query title keywords with
    ⟨hstart, he⟩ | ⟨-, htitle, he⟩ | ⟨-, ⟨place', keyword', hfirst', he⟩ | ⟨-, he⟩⟩
  · -- the title begins with the query
    rw [he] at hhit
    cases hhit
    rcases hshorter with ⟨-, hs⟩ | ⟨hnot, -, hs⟩ | ⟨hnot, -⟩
    · exact ⟨_, hs, nofun, fun _ => Nat.le_refl _, nofun⟩
    · exact ⟨_, hs, nofun, fun hend => absurd (hend.trans hstart) hnot, nofun⟩
    · exact absurd (hsub.trans hstart.sublist) hnot
  · -- the query is another subsequence of the title
    rw [he] at hhit
    cases hhit
    rcases hshorter with ⟨-, hs⟩ | ⟨-, -, hs⟩ | ⟨hnot, -⟩
    · exact ⟨_, hs, nofun, fun _ => Nat.zero_le _, nofun⟩
    · exact ⟨_, hs, nofun, fun _ => Nat.le_refl _, nofun⟩
    · exact absurd (hsub.trans htitle) hnot
  · -- a keyword has the query, and what is left of it may be found in the title
    rw [he] at hhit
    cases hhit
    rcases hshorter with
      ⟨-, hs⟩ | ⟨-, -, hs⟩ | ⟨-, ⟨place, keyword, hfirst, hs⟩ | ⟨hnone, -⟩⟩
    · exact ⟨_, hs, fun hrule => absurd rfl hrule, fun _ => Nat.zero_le _, nofun⟩
    · exact ⟨_, hs, fun hrule => absurd rfl hrule, fun _ => Nat.le_succ _, nofun⟩
    · refine ⟨_, hs, fun hrule => absurd rfl hrule, fun _ => Nat.le_refl _, fun _ => ?_⟩
      exact ⟨place, place', hfirst.place_le hfirst' hsub, ⟨keyword, hfirst, hs⟩,
        ⟨keyword', hfirst', he⟩⟩
    · have hmem := List.mem_of_getElem? hfirst'.there
      exact absurd (hfirst'.fits.of_sublist hsub) (hnone keyword' hmem)
  · rw [he] at hhit
    cases hhit

/-- Without its first character a beginning of a title is found by a later rule. -/
example : (hit? Weights.standard 0.0 "cal" "calc" []).map Hit.rule = some .titleStart ∧
    (hit? Weights.standard 0.0 "al" "calc" []).map Hit.rule = some .title := by
  decide

/-- Keywords of a console: the first is empty, and the others have the beginning of the last one. -/
def consoleKeywords : List Text := ["", "shell", "terminal", "tty"]

/-- The whole of the last keyword is found by it, and its beginning by the one before. -/
theorem tty_shorter : ("t" : Text).Sublist "tty" ∧
    hit? Weights.standard 0.0 "tty" "console" consoleKeywords
      = some (keywordHit Weights.standard 0.0 ("tty" : Text) ("tty" : Text)) ∧
    ∃ found, hit? Weights.standard 0.0 "t" "console" consoleKeywords = some found ∧
      found.rule.place ≤ Rule.keyword.place ∧
      (found.rule = .keyword → ∃ place place', place ≤ place' ∧
        HitByKeyword Weights.standard 0.0 "t" "console" consoleKeywords place ∧
        HitByKeyword Weights.standard 0.0 "tty" "console" consoleKeywords place') := by
  have hsub : ("t" : Text).Sublist "tty" := by decide
  have hhit : hit? Weights.standard 0.0 "tty" "console" consoleKeywords
      = some (keywordHit Weights.standard 0.0 ("tty" : Text) ("tty" : Text)) := by rfl
  obtain ⟨found, hfound, -, hplace, hkeyword⟩ := hit?_shorter hsub hhit
  exact ⟨hsub, hhit, found, hfound, hplace (by decide), hkeyword⟩

end Launcher
