import Mathlib
import Launcher.Terminal.Output
import Launcher.Text.Split

/-!
# Taking out sequences that switch colours

A sequence that switches colours is the escape, a bracket, digits with semicolons and question marks
among them, and a letter. Plain output leaves these out from left to right and keeps everything
else; what is put together of two parts is not looked through again. Half of a surrogate pair stands
in no sequence.

> `withoutColours_eq_self_iff` a text is kept as it is exactly if it holds no such sequence
> `hasHalf_withoutColours` no half of a pair is taken out
> `withoutColours_joinWith` no sequence goes across a separator that cannot stand in one
> **`KeepsColours.withoutColours_flatMap`** a way to write codes that leaves those of sequences
> alone
> neither hides sequences nor makes new ones
-/

namespace Launcher.Terminal

open Launcher.Text

/-- The code can stand in a sequence. -/
def isColourCode (c : Code) : Bool :=
  c == .char '\x1b' || c == .char '[' || isColourSign c || endsColour c

/-- The codes are a sequence that switches colours. -/
def IsColour (cs : Text) : Prop :=
  ∃ inner last, cs = .char '\x1b' :: .char '[' :: (inner ++ [last]) ∧
    (∀ c ∈ inner, isColourSign c = true) ∧ endsColour last = true

/-- A sequence that switches colours stands somewhere in the text. -/
def HasColour (cs : Text) : Prop := ∃ sequence, IsColour sequence ∧ sequence <:+: cs

/-- What follows the letter of a sequence, if the codes begin with one. -/
def afterEnd? : Text → Option Text
  | last :: after => if endsColour last = true then some after else none
  | [] => none

/-- What follows the sequence that the codes begin with, if they do. -/
def afterStart? : Text → Option Text
  | [] => none
  | c :: rest => if c.toNat = 27 then afterColour? rest else none

variable {cs xs ys rest after : Text} {c : Code}

/-! ## One sequence -/

/-- What ends a sequence does not stand within one. -/
theorem isColourSign_of_endsColour (h : endsColour c = true) : isColourSign c = false := by
  cases c with
  | half n => rfl
  | char c =>
    simp only [endsColour, isColourSign, Bool.or_eq_true, Bool.and_eq_true, decide_eq_true_eq,
      Char.le_def, UInt32.le_iff_toNat_le, Bool.or_eq_false_iff, beq_eq_false_iff_ne, ne_eq,
      Bool.and_eq_false_iff, decide_eq_false_iff_not, ← Char.val_inj, ← UInt32.toNat_inj] at *
    simp only [Char.reduceVal, UInt32.reduceToNat] at *
    omega

/-- The escape is known by its number. -/
theorem toNat_eq_iff : c.toNat = 27 ↔ c = .char '\x1b' := by
  cases c with
  | half n =>
    refine iff_of_false (fun h => ?_) nofun
    simp only [Code.toNat] at h
    omega
  | char c =>
    rw [Code.char.injEq, ← Char.toNat_inj]
    rfl

theorem afterEnd?_cons (last : Code) (after : Text) :
    afterEnd? (last :: after) = if endsColour last = true then some after else none := rfl

theorem afterColour?_bracket (rest : Text) :
    afterColour? (.char '[' :: rest) = afterEnd? (rest.dropWhile isColourSign) := rfl

theorem afterColour?_of_ne (h : c ≠ .char '[') : afterColour? (c :: rest) = none := by
  unfold afterColour?
  split
  · next hsame => exact absurd (List.cons.inj hsame).1 h
  · rfl

theorem afterStart?_cons (c : Code) (rest : Text) :
    afterStart? (c :: rest) = if c.toNat = 27 then afterColour? rest else none := rfl

/-- The form of what follows the escape character in a sequence that switches colours. -/
theorem afterColour?_eq_some_iff : afterColour? rest = some after ↔
    ∃ inner last, rest = .char '[' :: (inner ++ last :: after) ∧
      (∀ c ∈ inner, isColourSign c = true) ∧ endsColour last = true := by
  constructor
  · intro h
    cases rest with
    | nil => cases h
    | cons c rest =>
      by_cases hc : c = .char '['
      · subst hc
        rw [afterColour?_bracket] at h
        cases hdrop : rest.dropWhile isColourSign with
        | nil =>
          rw [hdrop] at h
          cases h
        | cons last rest' =>
          rw [hdrop, afterEnd?_cons] at h
          split_ifs at h with hlast
          cases h
          refine ⟨rest.takeWhile isColourSign, last, ?_, fun c hc => ?_, hlast⟩
          · rw [← hdrop, List.takeWhile_append_dropWhile]
          · exact List.mem_takeWhile_imp hc
      · rw [afterColour?_of_ne hc] at h
        cases h
  · rintro ⟨inner, last, rfl, hinner, hlast⟩
    have hdrop : (inner ++ last :: after).dropWhile isColourSign = last :: after := by
      rw [List.dropWhile_append_of_pos hinner,
        List.dropWhile_cons_of_neg (by simp [isColourSign_of_endsColour hlast])]
    rw [afterColour?_bracket, hdrop, afterEnd?_cons, if_pos hlast]

/-- The codes begin with a sequence. -/
theorem afterStart?_eq_some_iff : afterStart? cs = some after ↔
    ∃ sequence, IsColour sequence ∧ cs = sequence ++ after := by
  cases cs with
  | nil =>
    refine iff_of_false nofun ?_
    rintro ⟨_, ⟨inner, last, rfl, -, -⟩, hcs⟩
    cases hcs
  | cons c rest =>
    rw [afterStart?_cons]
    by_cases hc : c.toNat = 27
    · rw [if_pos hc, afterColour?_eq_some_iff]
      obtain rfl := toNat_eq_iff.mp hc
      constructor
      · rintro ⟨inner, last, rfl, hinner, hlast⟩
        exact ⟨_, ⟨inner, last, rfl, hinner, hlast⟩, by simp⟩
      · rintro ⟨_, ⟨inner, last, rfl, hinner, hlast⟩, hrest⟩
        exact ⟨inner, last, by simpa using hrest, hinner, hlast⟩
    · rw [if_neg hc]
      refine iff_of_false nofun ?_
      rintro ⟨_, ⟨inner, last, rfl, -, -⟩, hrest⟩
      exact hc (toNat_eq_iff.mpr (List.cons.inj hrest).1)

/-- A sequence takes at least one code, so that the fuel suffices. -/
theorem length_lt_of_afterStart? (h : afterStart? cs = some after) : after.length < cs.length := by
  obtain ⟨_, ⟨inner, last, rfl, -, -⟩, rfl⟩ := afterStart?_eq_some_iff.mp h
  simp
  omega

/-! ## The whole text -/

theorem withoutColoursFrom_cons (fuel : Nat) (c : Code) (rest : Text) :
    withoutColoursFrom (fuel + 1) (c :: rest) = match afterStart? (c :: rest) with
      | some after => withoutColoursFrom fuel after
      | none => c :: withoutColoursFrom fuel rest := rfl

/-- Fuel beyond the number of characters changes nothing. -/
theorem withoutColoursFrom_congr : ∀ (fuel fuel' : Nat) (cs : Text), cs.length ≤ fuel →
    cs.length ≤ fuel' → withoutColoursFrom fuel cs = withoutColoursFrom fuel' cs := by
  intro fuel
  induction fuel with
  | zero =>
    intro fuel' cs h h'
    rw [List.length_eq_zero_iff.mp (Nat.le_zero.mp h)]
    cases fuel' <;> rfl
  | succ fuel ih =>
    intro fuel' cs h h'
    cases cs with
    | nil => cases fuel' <;> rfl
    | cons c rest =>
      cases fuel' with
      | zero => cases h'
      | succ fuel' =>
        rw [List.length_cons] at h h'
        rw [withoutColoursFrom_cons, withoutColoursFrom_cons]
        cases hafter : afterStart? (c :: rest) with
        | none => exact congrArg (c :: ·) (ih fuel' rest (by omega) (by omega))
        | some after =>
          -- a step takes out at least one character, so the fuel still lasts
          have hlt := length_lt_of_afterStart? hafter
          rw [List.length_cons] at hlt
          exact ih fuel' after (by omega) (by omega)

/-- A sequence is taken out. -/
theorem withoutColours_of_afterStart? (h : afterStart? cs = some after) :
    withoutColours cs = withoutColours after := by
  cases cs with
  | nil => cases h
  | cons c rest =>
    have hlt := length_lt_of_afterStart? h
    rw [List.length_cons] at hlt
    show withoutColoursFrom (rest.length + 1) (c :: rest) = _
    rw [withoutColoursFrom_cons, h]
    exact withoutColoursFrom_congr _ _ _ (by omega) (le_refl _)

/-- A code that begins no sequence stays. -/
theorem withoutColours_cons (h : afterStart? (c :: rest) = none) :
    withoutColours (c :: rest) = c :: withoutColours rest := by
  show withoutColoursFrom (rest.length + 1) (c :: rest) = _
  rw [withoutColoursFrom_cons, h]
  rfl

/-- A text is empty, begins with a sequence, or begins with a character that stays. -/
@[elab_as_elim]
theorem coloursInduction {motive : Text → Prop} (nil : motive [])
    (colour : ∀ {cs after}, afterStart? cs = some after → motive after → motive cs)
    (cons : ∀ {c rest}, afterStart? (c :: rest) = none → motive rest → motive (c :: rest))
    (cs : Text) : motive cs := by
  induction hlength : cs.length using Nat.strongRecOn generalizing cs with
  | ind n ih =>
    cases hafter : afterStart? cs with
    | some after => exact colour hafter (ih _ (hlength ▸ length_lt_of_afterStart? hafter) after rfl)
    | none =>
      cases cs with
      | nil => exact nil
      | cons c rest =>
        exact cons hafter (ih _ (by rw [← hlength]; exact Nat.lt_succ_self _) rest rfl)

/-- Nothing is added. -/
theorem length_withoutColours_le (cs : Text) : (withoutColours cs).length ≤ cs.length := by
  induction cs using coloursInduction with
  | nil => exact le_refl _
  | colour h ih =>
    have hlt := length_lt_of_afterStart? h
    rw [withoutColours_of_afterStart? h]
    omega
  | cons h ih =>
    rw [withoutColours_cons h, List.length_cons, List.length_cons]
    omega

theorem not_hasColour_nil : ¬ HasColour [] := by
  rintro ⟨_, ⟨inner, last, rfl, -, -⟩, hinside⟩
  cases List.infix_nil.mp hinside

/-- Where no sequence begins, those of the text are those of its rest. -/
theorem hasColour_cons (h : afterStart? (c :: rest) = none) :
    HasColour (c :: rest) ↔ HasColour rest := by
  constructor
  · rintro ⟨sequence, hcolour, hinside⟩
    rcases List.infix_cons_iff.mp hinside with ⟨after, hprefix⟩ | hinside
    · rw [afterStart?_eq_some_iff.mpr ⟨sequence, hcolour, hprefix.symm⟩] at h
      cases h
    · exact ⟨sequence, hcolour, hinside⟩
  · rintro ⟨sequence, hcolour, hinside⟩
    exact ⟨sequence, hcolour, List.infix_cons hinside⟩

/-- **What is kept as it is.** A text without sequences, and no other. -/
theorem withoutColours_eq_self_iff (cs : Text) : withoutColours cs = cs ↔ ¬ HasColour cs := by
  induction cs using coloursInduction with
  | nil => exact iff_of_true rfl not_hasColour_nil
  | @colour cs after h ih =>
    obtain ⟨sequence, hcolour, hcs⟩ := afterStart?_eq_some_iff.mp h
    refine iff_of_false (fun hsame => ?_) (fun hno => hno ⟨sequence, hcolour, ?_⟩)
    · -- the sequence at the start makes the text longer than what is left of it
      have hlt := length_lt_of_afterStart? h
      have hle := length_withoutColours_le after
      rw [← withoutColours_of_afterStart? h, hsame] at hle
      omega
    · rw [hcs]
      exact (List.prefix_append _ _).isInfix
  | cons h ih =>
    rw [withoutColours_cons h, hasColour_cons h, ← ih]
    exact ⟨fun hsame => (List.cons.inj hsame).2, congrArg _⟩

/-- A text without the escape character stays as it is. -/
theorem withoutColours_of_no_escape (h : .char '\x1b' ∉ cs) : withoutColours cs = cs := by
  rw [withoutColours_eq_self_iff]
  rintro ⟨_, ⟨inner, last, rfl, -, -⟩, hinside⟩
  exact h (hinside.subset List.mem_cons_self)

/-- No half of a pair stands in a sequence, so none is taken out. -/
theorem hasHalf_withoutColours (cs : Text) : hasHalf (withoutColours cs) = hasHalf cs := by
  have hsign : ∀ c, isColourSign c = true → c.isHalf = false := fun c hc => by
    cases c with
    | char c => rfl
    | half n => cases hc
  have hend : ∀ c, endsColour c = true → c.isHalf = false := fun c hc => by
    cases c with
    | char c => rfl
    | half n => cases hc
  induction cs using coloursInduction with
  | nil => rfl
  | colour h ih =>
    obtain ⟨_, ⟨inner, last, rfl, hinner, hlast⟩, rfl⟩ := afterStart?_eq_some_iff.mp h
    have hwhole : hasHalf inner = false :=
      hasHalf_eq_false_iff.mpr fun c hc => hsign c (hinner c hc)
    rw [withoutColours_of_afterStart? h, ih]
    have hcolour : hasHalf (.char '\x1b' :: .char '[' :: (inner ++ [last])) = false := by
      rw [hasHalf_cons, hasHalf_cons, hasHalf_append, hwhole, hasHalf_cons, hend last hlast]
      rfl
    rw [hasHalf_append, hcolour, Bool.false_or]
  | cons h ih => rw [withoutColours_cons h, hasHalf_cons, hasHalf_cons, ih]

/-! ## Texts put together -/

theorem isColourSign_of_isColourCode (h : isColourCode c = false) : isColourSign c = false := by
  simp_all [isColourCode]

theorem endsColour_of_isColourCode (h : isColourCode c = false) : endsColour c = false := by
  simp_all [isColourCode]

theorem toNat_ne_of_isColourCode (h : isColourCode c = false) : c.toNat ≠ 27 := by
  intro hc
  rw [toNat_eq_iff.mp hc] at h
  cases h

section Barrier

variable {barrier : Code} (hbarrier : isColourCode barrier = false)
include hbarrier

theorem afterEnd?_append (xs ys : Text) :
    afterEnd? ((xs ++ barrier :: ys).dropWhile isColourSign)
      = (afterEnd? (xs.dropWhile isColourSign)).map (· ++ barrier :: ys) := by
  rw [List.dropWhile_append]
  cases hrest : xs.dropWhile isColourSign with
  | nil =>
    rw [List.dropWhile_cons_of_neg (by simp [isColourSign_of_isColourCode hbarrier])]
    exact if_neg (by simp [endsColour_of_isColourCode hbarrier])
  | cons last after =>
    show afterEnd? (last :: (after ++ barrier :: ys)) = _
    rw [afterEnd?_cons, afterEnd?_cons]
    split_ifs
    · rfl
    · rfl

/-- A sequence at the start ends before a character that cannot stand in one. -/
theorem afterStart?_append (xs ys : Text) :
    afterStart? (xs ++ barrier :: ys) = (afterStart? xs).map (· ++ barrier :: ys) := by
  cases xs with
  | nil => exact if_neg (toNat_ne_of_isColourCode hbarrier)
  | cons c rest =>
    rw [List.cons_append, afterStart?_cons, afterStart?_cons]
    by_cases hc : c.toNat = 27
    · rw [if_pos hc, if_pos hc]
      cases rest with
      | nil =>
        refine afterColour?_of_ne fun hsame => ?_
        rw [hsame] at hbarrier
        cases hbarrier
      | cons d rest =>
        by_cases hd : d = .char '['
        · subst hd
          exact afterEnd?_append hbarrier rest ys
        · rw [List.cons_append, afterColour?_of_ne hd, afterColour?_of_ne hd]
          rfl
    · rw [if_neg hc, if_neg hc]
      rfl

/-- No sequence goes across a character that cannot stand in one. -/
theorem withoutColours_append (xs ys : Text) :
    withoutColours (xs ++ barrier :: ys) = withoutColours xs ++ barrier :: withoutColours ys := by
  induction xs using coloursInduction with
  | nil => exact withoutColours_cons (if_neg (toNat_ne_of_isColourCode hbarrier))
  | colour h ih =>
    -- the sequence at the start ends before the barrier, so it is taken out of both sides
    rw [withoutColours_of_afterStart? h, ← ih]
    refine withoutColours_of_afterStart? ?_
    rw [afterStart?_append hbarrier, h]
    rfl
  | @cons c rest h ih =>
    have hnone : afterStart? (c :: (rest ++ barrier :: ys)) = none := by
      rw [← List.cons_append, afterStart?_append hbarrier, h]
      rfl
    rw [List.cons_append, withoutColours_cons hnone, ih, withoutColours_cons h, List.cons_append]

/-- Pieces with such a character between each two are gone through one by one. -/
theorem withoutColours_joinWith (pieces : List Text) :
    withoutColours (joinWith barrier pieces) = joinWith barrier (pieces.map withoutColours) := by
  induction pieces with
  | nil => rfl
  | cons piece pieces ih =>
    cases pieces with
    | nil => rfl
    | cons next pieces =>
      show withoutColours (piece ++ barrier :: joinWith barrier (next :: pieces)) = _
      rw [withoutColours_append hbarrier, ih]
      rfl

end Barrier

/-! ## Texts written in another way -/

/-- The characters of sequences are written as they are, and every other one as something that
begins with no character of a sequence and holds no escape. -/
structure KeepsColours (spell : Code → Text) : Prop where
  same : ∀ c, isColourCode c = true → spell c = [c]
  other : ∀ c, isColourCode c = false →
    ∃ first more, spell c = first :: more ∧ isColourCode first = false ∧ .char '\x1b' ∉ more

/-- Codes before the first escape character stay. -/
theorem withoutColours_append_of_no_escape (h : .char '\x1b' ∉ xs) (ys : Text) :
    withoutColours (xs ++ ys) = xs ++ withoutColours ys := by
  induction xs with
  | nil => rfl
  | cons c xs ih =>
    rw [List.mem_cons, not_or] at h
    have hnone : afterStart? (c :: (xs ++ ys)) = none :=
      if_neg fun hc => h.1 (toNat_eq_iff.mp hc).symm
    rw [List.cons_append, withoutColours_cons hnone, ih h.2, List.cons_append]

namespace KeepsColours

variable {spell : Code → Text} (h : KeepsColours spell)
include h

theorem dropWhile_flatMap (cs : Text) :
    (cs.flatMap spell).dropWhile isColourSign = (cs.dropWhile isColourSign).flatMap spell := by
  induction cs with
  | nil => rfl
  | cons c cs ih =>
    cases hc : isColourCode c with
    | true =>
      rw [List.flatMap_cons, h.same c hc, List.singleton_append]
      by_cases hpart : isColourSign c = true
      · rw [List.dropWhile_cons_of_pos hpart, List.dropWhile_cons_of_pos hpart, ih]
      · rw [List.dropWhile_cons_of_neg hpart, List.dropWhile_cons_of_neg hpart, List.flatMap_cons,
          h.same c hc, List.singleton_append]
    | false =>
      obtain ⟨first, more, hspell, hfirst, -⟩ := h.other c hc
      rw [List.dropWhile_cons_of_neg (by simp [isColourSign_of_isColourCode hc]),
        List.flatMap_cons, hspell, List.cons_append,
        List.dropWhile_cons_of_neg (by simp [isColourSign_of_isColourCode hfirst])]

theorem afterEnd?_flatMap (cs : Text) :
    afterEnd? (cs.flatMap spell) = (afterEnd? cs).map (·.flatMap spell) := by
  cases cs with
  | nil => rfl
  | cons last after =>
    rw [List.flatMap_cons]
    cases hlast : isColourCode last with
    | true =>
      rw [h.same last hlast, List.singleton_append, afterEnd?_cons, afterEnd?_cons]
      split_ifs
      · rfl
      · rfl
    | false =>
      obtain ⟨first, more, hspell, hfirst, -⟩ := h.other last hlast
      rw [hspell, List.cons_append, afterEnd?_cons, afterEnd?_cons,
        if_neg (by simp [endsColour_of_isColourCode hfirst]),
        if_neg (by simp [endsColour_of_isColourCode hlast])]
      rfl

theorem afterColour?_flatMap (cs : Text) :
    afterColour? (cs.flatMap spell) = (afterColour? cs).map (·.flatMap spell) := by
  cases cs with
  | nil => rfl
  | cons c rest =>
    rw [List.flatMap_cons]
    by_cases hbracket : c = .char '['
    · subst hbracket
      rw [h.same (.char '[') rfl, List.singleton_append, afterColour?_bracket, afterColour?_bracket,
        h.dropWhile_flatMap, h.afterEnd?_flatMap]
    · rw [afterColour?_of_ne hbracket]
      cases hc : isColourCode c with
      | true =>
        rw [h.same c hc, List.singleton_append, afterColour?_of_ne hbracket]
        rfl
      | false =>
        obtain ⟨first, more, hspell, hfirst, -⟩ := h.other c hc
        rw [hspell, List.cons_append, afterColour?_of_ne]
        · rfl
        · rintro rfl
          cases hfirst

/-- Spelling out codes keeps the sequences where they are, as it leaves their codes alone. -/
theorem afterStart?_flatMap (cs : Text) :
    afterStart? (cs.flatMap spell) = (afterStart? cs).map (·.flatMap spell) := by
  cases cs with
  | nil => rfl
  | cons c rest =>
    rw [List.flatMap_cons, afterStart?_cons]
    cases hc : isColourCode c with
    | true =>
      rw [h.same c hc, List.singleton_append, afterStart?_cons]
      split_ifs
      · exact h.afterColour?_flatMap rest
      · rfl
    | false =>
      obtain ⟨first, more, hspell, hfirst, -⟩ := h.other c hc
      rw [hspell, List.cons_append, afterStart?_cons, if_neg (toNat_ne_of_isColourCode hfirst),
        if_neg (toNat_ne_of_isColourCode hc)]
      rfl

/-- **Writing and taking out go together**: what is written of a text without its sequences is what
is written of the text, without its sequences. -/
theorem withoutColours_flatMap (cs : Text) :
    withoutColours (cs.flatMap spell) = (withoutColours cs).flatMap spell := by
  induction cs using coloursInduction with
  | nil => rfl
  | colour hafter ih =>
    rw [withoutColours_of_afterStart? hafter, ← ih]
    refine withoutColours_of_afterStart? ?_
    rw [h.afterStart?_flatMap, hafter]
    rfl
  | @cons c rest hnone ih =>
    -- what the character is written as begins no sequence either, and none begins within it
    have hstays : afterStart? ((c :: rest).flatMap spell) = none := by
      rw [h.afterStart?_flatMap, hnone]
      rfl
    rw [List.flatMap_cons] at hstays
    rw [withoutColours_cons hnone, List.flatMap_cons, List.flatMap_cons, ← ih]
    cases hc : isColourCode c with
    | true =>
      rw [h.same c hc, List.singleton_append] at hstays ⊢
      rw [withoutColours_cons hstays, List.singleton_append]
    | false =>
      obtain ⟨first, more, hspell, -, hmore⟩ := h.other c hc
      rw [hspell, List.cons_append] at hstays ⊢
      rw [withoutColours_cons hstays, withoutColours_append_of_no_escape hmore, List.cons_append]

end KeepsColours

end Launcher.Terminal
