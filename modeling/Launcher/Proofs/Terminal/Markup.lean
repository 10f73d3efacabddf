import Mathlib
import Launcher.Terminal.Markup

/-!
# What appears of a protected text

A protected text is read as markup without any tag of its own: every tag in it has one backslash
more than would leave it a tag, and what is no tag stays none (`Protects.nextTag?_append`), whatever
follows that neither begins like the inside of a tag nor closes one. So reading it gives pieces of
text only, which make up the text again.

Two things may still change on the way to the terminal: emoji are put in for their names, and some
backslashes and controls are left out. A text without colons, backslashes and controls appears as it
is. The closing tag behind a protected text is not protected from the text: three backslashes at the
end of it make that tag appear, but never a fault.

> `Protects.pieces_append`, `Protects.pieces_styled` the pieces of a protected text with something
> behind it, and in a style
> **`shown_escape`** what appears of a protected text
> **`shown_styled_escape`** and what appears of it in a style
-/

namespace Launcher.Terminal

open Launcher.Text

/-- The code is a square bracket. -/
def isBracket (c : Code) : Bool := c == .char '[' || c == .char ']'

/-- The codes are the inside of a tag. -/
def IsTag (tag : Text) : Prop :=
  ∃ c body, tag = c :: body ∧ isTagStart c = true ∧ ∀ d ∈ body, isBracket d = false

variable {cs out tag after rest tail : Text} {c : Code} {count : Nat}

/-! ## Tags -/

theorem drop_length_takeWhile {α : Type} (p : α → Bool) (as : List α) :
    as.drop (as.takeWhile p).length = as.dropWhile p := by
  induction as with
  | nil => rfl
  | cons a as ih =>
    by_cases h : p a = true
    · simp [h, ih]
    · simp [h]

/-- A tag ends at the first bracket behind its start, which must close it. -/
theorem splitTag?_cons (h : isTagStart c = true) : splitTag? (c :: rest)
    = match rest.dropWhile (!isBracket ·) with
      | .char ']' :: after => some (c :: rest.takeWhile (!isBracket ·), after)
      | _ => none := by
  have hbody : (fun d : Code => d != .char '[' && d != .char ']') = (!isBracket ·) := by
    funext d
    simp [isBracket, bne]
  rw [← drop_length_takeWhile, ← hbody, splitTag?]
  exact if_pos h

/-- A tag ends at the first closing bracket. -/
theorem splitTag?_eq_some_iff :
    splitTag? cs = some (tag, after) ↔ IsTag tag ∧ cs = tag ++ .char ']' :: after := by
  constructor
  · intro h
    cases cs with
    | nil => cases h
    | cons c rest =>
      by_cases hc : isTagStart c = true
      · rw [splitTag?_cons hc] at h
        split at h
        · next hdrop =>
          cases h
          refine ⟨⟨c, _, rfl, hc, fun d hd => ?_⟩, ?_⟩
          · simpa using List.mem_takeWhile_imp hd
          · rw [List.cons_append, ← hdrop, List.takeWhile_append_dropWhile]
        · cases h
      · rw [splitTag?, if_neg hc] at h
        cases h
  · rintro ⟨⟨c, body, rfl, hc, hbody⟩, rfl⟩
    have hall : ∀ d ∈ body, (!isBracket d) = true := fun d hd => by simp [hbody d hd]
    rw [List.cons_append, splitTag?_cons hc, List.dropWhile_append_of_pos hall,
      List.takeWhile_append_of_pos hall]
    simp [isBracket]

/-- What begins like the inside of a tag is none exactly if no bracket closes it. -/
theorem splitTag?_eq_none_iff (h : isTagStart c = true) :
    splitTag? (c :: rest) = none ↔ rest.find? isBracket ≠ some (.char ']') := by
  rw [← not_iff_not, not_not, ← ne_eq, Option.ne_none_iff_exists']
  constructor
  · rintro ⟨⟨tag, after⟩, hsome⟩
    obtain ⟨⟨d, body, rfl, -, hbody⟩, hrest⟩ := splitTag?_eq_some_iff.mp hsome
    obtain ⟨rfl, rfl⟩ := List.cons.inj hrest
    show (body ++ .char ']' :: after).find? isBracket = _
    rw [List.find?_append, List.find?_eq_none.mpr fun d hd => by simp [hbody d hd]]
    rfl
  · intro hfind
    obtain ⟨-, body, after, rfl, hbody⟩ := List.find?_eq_some_iff_append.mp hfind
    exact ⟨(c :: body, after), splitTag?_eq_some_iff.mpr
      ⟨⟨c, body, rfl, h, fun d hd => by simpa using hbody d hd⟩, rfl⟩⟩

/-- The next tag is there at once, behind backslashes. -/
theorem nextTag?_eq_some_iff : nextTag? cs = some (count, tag, after) ↔
    IsTag tag ∧ cs = backslashes count ++ .char '[' :: (tag ++ .char ']' :: after) := by
  unfold nextTag?
  simp only [drop_length_takeWhile]
  constructor
  · intro h
    split at h
    · next inside hdrop =>
      obtain ⟨⟨tag, after⟩, hsplit, hparts⟩ := Option.map_eq_some_iff.mp h
      cases hparts
      obtain ⟨htag, rfl⟩ := splitTag?_eq_some_iff.mp hsplit
      have hslashes : cs.takeWhile (· == .char '\\')
          = backslashes (cs.takeWhile (· == .char '\\')).length :=
        List.eq_replicate_of_mem fun d hd => by simpa using List.mem_takeWhile_imp hd
      refine ⟨htag, ?_⟩
      rw [← hslashes, ← hdrop, List.takeWhile_append_dropWhile]
    · cases h
  · rintro ⟨htag, rfl⟩
    have hall : ∀ d ∈ backslashes count, (d == .char '\\') = true := fun d hd => by
      simpa using List.eq_of_mem_replicate hd
    rw [List.dropWhile_append_of_pos hall, List.takeWhile_append_of_pos hall]
    simp [splitTag?_eq_some_iff.mpr ⟨htag, rfl⟩, backslashes]

theorem nextTag?_backslash : nextTag? (.char '\\' :: cs) = none ↔ nextTag? cs = none := by
  simp only [Option.eq_none_iff_forall_ne_some, ne_eq, Prod.forall, nextTag?_eq_some_iff]
  constructor
  · intro h count tag after hsome
    refine h (count + 1) tag after ⟨hsome.1, ?_⟩
    rw [hsome.2]
    rfl
  · intro h count tag after hsome
    obtain ⟨htag, hcs⟩ := hsome
    cases count with
    | zero => cases hcs
    | succ count => exact h count tag after ⟨htag, (List.cons.inj hcs).2⟩

theorem nextTag?_bracket : nextTag? (.char '[' :: cs) = none ↔ splitTag? cs = none := by
  simp [nextTag?]

theorem nextTag?_of_ne (hslash : c ≠ .char '\\') (hbracket : c ≠ .char '[') :
    nextTag? (c :: cs) = none := by
  simp [nextTag?, hslash, hbracket]

/-! ## Protecting -/

/-- The second text is the first one protected: each tag has more backslashes than before. -/
inductive Protects : Text → Text → Prop where
  | nil : Protects [] []
  | tag {count : Nat} {tag after out : Text} (htag : IsTag tag) (hafter : Protects after out) :
    Protects (backslashes count ++ .char '[' :: (tag ++ .char ']' :: after))
      (backslashes (2 * count + 1) ++ .char '[' :: (tag ++ .char ']' :: out))
  | other {c : Code} {rest out : Text} (hnone : nextTag? (c :: rest) = none)
    (hrest : Protects rest out) : Protects (c :: rest) (c :: out)

/-- Escaping protects whatever it is given; by induction on the fuel. -/
theorem protects_escapeFrom : ∀ (fuel : Nat) (cs : Text), cs.length ≤ fuel →
    Protects cs (escapeFrom fuel cs) := by
  intro fuel
  induction fuel with
  | zero =>
    intro cs h
    rw [List.length_eq_zero_iff.mp (Nat.le_zero.mp h)]
    exact .nil
  | succ fuel ih =>
    intro cs h
    cases cs with
    | nil => exact .nil
    | cons c rest =>
      rw [escapeFrom]
      split
      · next count tag after hsome =>
        obtain ⟨htag, hcs⟩ := nextTag?_eq_some_iff.mp hsome
        rw [hcs] at h ⊢
        have hafter : after.length ≤ fuel := by
          simp only [List.length_append, List.length_cons] at h
          omega
        simpa [ofString] using Protects.tag htag (ih after hafter)
      · next hnone => exact .other hnone (ih rest (by simpa using h))

/-- Protecting neither adds nor takes away a first bracket. -/
theorem Protects.find?_isBracket (h : Protects cs out) :
    out.find? isBracket = cs.find? isBracket := by
  have hslashes : ∀ n, (backslashes n).find? isBracket = none := fun n =>
    List.find?_eq_none.mpr fun d hd => by rw [List.eq_of_mem_replicate hd]; decide
  induction h with
  | nil => rfl
  | tag _ _ _ =>
    rw [List.find?_append, List.find?_append, hslashes, hslashes]
    rfl
  | other _ _ ih => rw [List.find?_cons, List.find?_cons, ih]

/-- What can follow a protected text: it neither begins like the inside of a tag nor closes one. -/
structure Follows (tail : Text) : Prop where
  head : ∀ c ∈ tail.head?, isTagStart c = false
  bracket : tail.find? isBracket ≠ some (.char ']')

/-- Behind a bracket that opens no tag, a protected text is still not the inside of one. -/
theorem Protects.splitTag?_append (h : Protects cs out) (hnone : splitTag? cs = none)
    (htail : Follows tail) : splitTag? (out ++ tail) = none := by
  have hstart : ∀ {d : Code} {more : Text}, isTagStart d = false → splitTag? (d :: more) = none :=
    fun hd => by simp [splitTag?, hd]
  cases h with
  | nil =>
    cases tail with
    | nil => rfl
    | cons d tail => exact hstart (htail.head d rfl)
  | tag _ _ => exact hstart rfl
  | @other c rest out _ hrest =>
    cases hc : isTagStart c with
    | false => exact hstart hc
    | true =>
      rw [splitTag?_eq_none_iff hc] at hnone
      rw [List.cons_append, splitTag?_eq_none_iff hc, List.find?_append, hrest.find?_isBracket]
      rcases hfind : rest.find? isBracket with - | d
      · exact htail.bracket
      · rw [hfind] at hnone
        exact hnone

/-- **What is no tag stays none** when it is protected, unless it is backslashes to the end. -/
theorem Protects.nextTag?_append (h : Protects cs out) (hnone : nextTag? cs = none)
    (hsome : ∃ d ∈ cs, d ≠ .char '\\') (htail : Follows tail) : nextTag? (out ++ tail) = none := by
  induction h with
  | nil =>
    obtain ⟨d, hd, -⟩ := hsome
    cases hd
  | tag htag _ _ =>
    rw [nextTag?_eq_some_iff.mpr ⟨htag, rfl⟩] at hnone
    cases hnone
  | @other c rest out _ hrest ih =>
    by_cases hslash : c = .char '\\'
    · subst hslash
      obtain ⟨d, hd, hne⟩ := hsome
      have hmem : d ∈ rest := (List.mem_cons.mp hd).resolve_left hne
      exact nextTag?_backslash.mpr (ih (nextTag?_backslash.mp hnone) ⟨d, hmem, hne⟩)
    · by_cases hbracket : c = .char '['
      · subst hbracket
        exact nextTag?_bracket.mpr (hrest.splitTag?_append (nextTag?_bracket.mp hnone) htail)
      · exact nextTag?_of_ne hslash hbracket

/-- Backslashes alone are left as they are. -/
theorem Protects.eq_self (h : Protects cs out) (hall : ∀ d ∈ cs, d = .char '\\') : out = cs := by
  induction h with
  | nil => rfl
  | @tag count _ _ _ _ _ _ =>
    have hbracket := hall (.char '[') (List.mem_append_right _ List.mem_cons_self)
    cases hbracket
  | other _ _ ih => rw [ih fun d hd => hall d (List.mem_cons_of_mem _ hd)]

/-! ## Pieces -/

/-- The characters gathered so far become texts that make them up. -/
theorem addText_eq (reversed : Text) (more : List Piece) : ∃ texts : List Text,
    addText reversed more = texts.map Piece.text ++ more ∧ texts.flatten = reversed.reverse := by
  unfold addText
  cases reversed with
  | nil => exact ⟨[], rfl, rfl⟩
  | cons c reversed => exact ⟨[(c :: reversed).reverse], rfl, by simp⟩

theorem piecesFrom_of_none {fuel : Nat} {before : Text} (h : nextTag? (c :: rest) = none) :
    piecesFrom (fuel + 1) before (c :: rest) = piecesFrom fuel (c :: before) rest := by
  rw [piecesFrom, h]

/-- A text without opening brackets is one piece. -/
theorem piecesFrom_of_no_bracket (h : .char '[' ∉ cs) : ∀ {fuel : Nat} {before : Text},
    cs.length ≤ fuel → piecesFrom fuel before cs = addText (cs.reverse ++ before) [] := by
  induction cs with
  | nil =>
    intro fuel before _
    cases fuel <;> rfl
  | cons c cs ih =>
    intro fuel before hfuel
    obtain ⟨hc, hcs⟩ := not_or.mp (mt List.mem_cons.mpr h)
    cases fuel with
    | zero => simp at hfuel
    | succ fuel =>
      have hnone : nextTag? (c :: cs) = none := by
        rw [Option.eq_none_iff_forall_ne_some]
        intro ⟨count, tag, after⟩ hsome
        rw [(nextTag?_eq_some_iff.mp hsome).2] at h
        exact h (List.mem_append_right _ List.mem_cons_self)
      rw [piecesFrom_of_none hnone, ih hcs (by simpa using hfuel)]
      simp

/-- Where a tag comes next, the text before it is a piece, and so is half of its backslashes. -/
theorem piecesFrom_of_tag {fuel : Nat} (before : Text) (htag : IsTag tag) :
    piecesFrom (fuel + 1) before (backslashes count ++ .char '[' :: (tag ++ .char ']' :: after))
      = addText before (addText (backslashes (count / 2))
          ((if count % 2 = 1 then .text (.char '[' :: (tag ++ [.char ']'])) else .tag tag)
            :: piecesFrom fuel [] after)) := by
  have hnext : nextTag? (backslashes count ++ .char '[' :: (tag ++ .char ']' :: after))
      = some (count, tag, after) := nextTag?_eq_some_iff.mpr ⟨htag, rfl⟩
  generalize hcs : backslashes count ++ .char '[' :: (tag ++ .char ']' :: after) = cs at hnext
  cases cs with
  | nil => simp at hcs
  | cons c rest =>
    rw [piecesFrom, hnext]
    rfl

/-- A tag behind an odd number of backslashes is a text, and so is half of the backslashes. -/
theorem piecesFrom_of_covered {fuel : Nat} (before : Text) (htag : IsTag tag) (count : Nat) :
    ∃ texts : List Text, piecesFrom (fuel + 1) before
        (backslashes (2 * count + 1) ++ .char '[' :: (tag ++ .char ']' :: after))
          = texts.map Piece.text ++ piecesFrom fuel [] after ∧
      texts.flatten
        = before.reverse ++ (backslashes count ++ .char '[' :: (tag ++ [.char ']'])) := by
  have hodd : (2 * count + 1) % 2 = 1 := by omega
  have hhalf : (2 * count + 1) / 2 = count := by omega
  have hreverse : (backslashes count).reverse = backslashes count := List.reverse_replicate
  obtain ⟨first, hfirst, hbefore⟩ := addText_eq before
    (addText (backslashes count) (.text (.char '[' :: (tag ++ [.char ']']))
      :: piecesFrom fuel [] after))
  obtain ⟨second, hsecond, hslashes⟩ := addText_eq (backslashes count)
    (.text (.char '[' :: (tag ++ [.char ']'])) :: piecesFrom fuel [] after)
  refine ⟨first ++ second ++ [.char '[' :: (tag ++ [.char ']'])], ?_, ?_⟩
  · rw [piecesFrom_of_tag _ htag, if_pos hodd, hhalf, hfirst, hsecond]
    simp
  · simp only [List.flatten_append, List.flatten_singleton, hbefore, hslashes, hreverse,
      List.append_assoc]

/-- **The pieces of a protected text** are texts, up to backslashes at its end: these belong to what
follows. -/
theorem Protects.pieces_append (h : Protects cs out) (htail : Follows tail) :
    ∀ {fuel : Nat} (before : Text), (out ++ tail).length ≤ fuel →
      ∃ (texts : List Text) (left : Text) (slashes fuel' : Nat),
        piecesFrom fuel before (out ++ tail)
          = texts.map Piece.text ++ piecesFrom fuel' left (backslashes slashes ++ tail) ∧
        (backslashes slashes ++ tail).length ≤ fuel' ∧
        texts.flatten ++ (left.reverse ++ backslashes slashes) = before.reverse ++ cs := by
  induction h with
  | nil =>
    intro fuel before hfuel
    exact ⟨[], before, 0, fuel, rfl, hfuel, rfl⟩
  | @tag count tag after out htag hafter ih =>
    intro fuel before hfuel
    rw [List.append_assoc, List.cons_append, List.append_assoc, List.cons_append] at hfuel ⊢
    cases fuel with
    | zero => simp at hfuel
    | succ fuel =>
      have hrest : (out ++ tail).length ≤ fuel := by
        simp only [List.length_append, List.length_cons] at hfuel ⊢
        omega
      obtain ⟨texts, left, slashes, fuel', hpieces, hleft, hflat⟩ := ih [] hrest
      obtain ⟨front, hfront, hbefore⟩ :=
        piecesFrom_of_covered before htag count
      refine ⟨front ++ texts, left, slashes, fuel', ?_, hleft, ?_⟩
      · rw [hfront, hpieces, List.map_append, List.append_assoc]
      · rw [List.reverse_nil, List.nil_append] at hflat
        rw [List.flatten_append, List.append_assoc, hflat, hbefore]
        simp
  | @other c rest out hnone hrest ih =>
    intro fuel before hfuel
    by_cases hsome : ∃ d ∈ c :: rest, d ≠ .char '\\'
    · cases fuel with
      | zero => simp at hfuel
      | succ fuel =>
        have hnext := (Protects.other hnone hrest).nextTag?_append hnone hsome htail
        obtain ⟨texts, left, slashes, fuel', hpieces, hleft, hflat⟩ :=
          ih (c :: before) (by simpa using hfuel)
        refine ⟨texts, left, slashes, fuel', ?_, hleft, by simpa using hflat⟩
        rw [List.cons_append] at hnext ⊢
        rw [piecesFrom_of_none hnext, hpieces]
    · -- only backslashes are left
      push Not at hsome
      have hsame := (Protects.other hnone hrest).eq_self hsome
      have hall : c :: rest = backslashes (c :: rest).length :=
        List.eq_replicate_of_mem hsome
      rw [hsame] at hfuel ⊢
      exact ⟨[], before, (c :: rest).length, fuel, by rw [← hall]; rfl, by rwa [← hall],
        by rw [← hall]; rfl⟩

/-! ## What appears -/

/-- The text appears as it is: no code in it stands for another one. -/
def Plain (t : Text) : Prop :=
  ∀ c ∈ t, c ≠ .char '\\' ∧ c ≠ .char ':' ∧ isTerminalControl c = false

instance (t : Text) : Decidable (Plain t) :=
  inferInstanceAs (Decidable (∀ c ∈ t, _))

/-- A plain text has no bracket to be uncovered. -/
theorem bareBrackets_of_plain (h : Plain cs) : bareBrackets cs = cs := by
  induction cs with
  | nil => rfl
  | cons c cs ih =>
    obtain ⟨hc, hcs⟩ := List.forall_mem_cons.mp h
    unfold bareBrackets
    split
    · next hsame => exact absurd (List.cons.inj hsame).1 hc.1
    · next heq =>
      obtain ⟨rfl, rfl⟩ := List.cons.inj heq
      rw [ih hcs]
    · next hnil => cases hnil

/-- A plain text names no emoji. -/
theorem withEmojiFrom_of_plain (h : Plain cs) (fuel : Nat) : withEmojiFrom fuel cs = cs := by
  induction cs generalizing fuel with
  | nil => cases fuel <;> rfl
  | cons c cs ih =>
    obtain ⟨hc, hcs⟩ := List.forall_mem_cons.mp h
    cases fuel with
    | zero => rfl
    | succ fuel =>
      rw [withEmojiFrom, if_neg hc.2.1]
      exact congrArg (c :: ·) (ih hcs fuel)

/-- A plain text is shown as it is. -/
theorem shownText_of_plain (h : Plain cs) : shownText cs = cs := by
  unfold shownText withEmoji
  rw [bareBrackets_of_plain h, withEmojiFrom_of_plain h, List.filter_eq_self]
  intro c hc
  simp [(h c hc).2.2]

theorem mem_of_mem_bareBrackets (h : c ∈ bareBrackets cs) : c ∈ cs := by
  induction cs using bareBrackets.induct with
  | case1 rest ih =>
    rw [bareBrackets] at h
    rcases List.mem_cons.mp h with rfl | h
    · simp
    · simp [ih h]
  | case2 d rest hno ih =>
    rw [bareBrackets] at h
    · rcases List.mem_cons.mp h with rfl | h
      · simp
      · simp [ih h]
    · exact hno
  | case3 => exact h

/-- An emoji is made of characters. -/
theorem hasHalf_of_emojiNamed? {name signs : Text} (h : emojiNamed? name = some signs) :
    hasHalf signs = false := by
  obtain ⟨front, back, hrows, -⟩ := List.lookup_eq_some_iff.mp h
  have hmem : (name, signs) ∈ emojis := by
    rw [hrows]
    exact List.mem_append_right _ List.mem_cons_self
  obtain ⟨row, -, hrow⟩ := List.mem_flatMap.mp hmem
  obtain ⟨field, -, hfield⟩ := List.mem_map.mp hrow
  obtain rfl : _ = signs := congrArg Prod.snd hfield
  exact hasHalf_ofChars _

/-- No emoji holds half of a pair. -/
theorem hasHalf_shownEmoji {named : Text} (h : hasHalf named = false) :
    hasHalf (shownEmoji named) = false := by
  have hselector : hasHalf (splitForm named).2 = false := by
    unfold splitForm
    split
    · rfl
    · split
      · rfl
      · rfl
  unfold shownEmoji
  simp only
  split
  · next signs hsigns => rw [hasHalf_append, hasHalf_of_emojiNamed? hsigns, hselector]; rfl
  · rw [hasHalf_append, hasHalf_append, h]; rfl

/-- A name between colons ends at the second colon. -/
theorem eq_of_nextName? {name : Text} (h : nextName? cs = some (name, after)) :
    cs = name ++ .char ':' :: after := by
  unfold nextName? at h
  simp only [drop_length_takeWhile] at h
  split at h
  · next hdrop =>
    cases h
    rw [← hdrop, List.takeWhile_append_dropWhile]
  · cases h

/-- Putting in emoji adds no half of a pair. -/
theorem hasHalf_withEmojiFrom (fuel : Nat) (h : hasHalf cs = false) :
    hasHalf (withEmojiFrom fuel cs) = false := by
  induction fuel generalizing cs with
  | zero => exact h
  | succ fuel ih =>
    cases cs with
    | nil => rfl
    | cons c rest =>
      rw [hasHalf_cons, Bool.or_eq_false_iff] at h
      rw [withEmojiFrom]
      split
      · next name after hname =>
        split_ifs at hname
        rw [eq_of_nextName? hname, hasHalf_append, hasHalf_cons] at h
        simp only [Bool.or_eq_false_iff] at h
        rw [hasHalf_append, hasHalf_shownEmoji h.2.1, ih h.2.2.2]
        rfl
      · rw [hasHalf_cons, h.1, ih h.2]
        rfl

/-- What appears of a piece without halves has none. -/
theorem hasHalf_shownText (h : hasHalf cs = false) : hasHalf (shownText cs) = false := by
  have hbare : hasHalf (bareBrackets cs) = false := by
    rw [hasHalf_eq_false_iff] at h ⊢
    exact fun c hc => h c (mem_of_mem_bareBrackets hc)
  have hemoji := hasHalf_withEmojiFrom (bareBrackets cs).length hbare
  rw [hasHalf_eq_false_iff] at hemoji ⊢
  exact fun c hc => hemoji c (List.mem_of_mem_filter hc)

/-! ## Protected texts -/

/-- Texts in front of other pieces are shown in front of them. -/
theorem shownPieces_texts (tags : List Tag) (texts : List Text) (more : List Piece) :
    shownPieces tags (texts.map Piece.text ++ more)
      = (shownPieces tags more).map (texts.flatMap shownText ++ ·) := by
  induction texts with
  | nil =>
    show shownPieces tags more = Except.map id (shownPieces tags more)
    cases shownPieces tags more <;> rfl
  | cons text texts ih =>
    show (shownPieces tags (texts.map Piece.text ++ more)).map (shownText text ++ ·) = _
    rw [ih]
    cases shownPieces tags more with
    | error fault => rfl
    | ok codes => simp [Except.map]

/-- Texts without halves are shown without any. -/
theorem hasHalf_flatMap_shownText {texts : List Text} (h : hasHalf texts.flatten = false) :
    hasHalf (texts.flatMap shownText) = false := by
  induction texts with
  | nil => rfl
  | cons text texts ih =>
    rw [List.flatten_cons, hasHalf_append, Bool.or_eq_false_iff] at h
    rw [List.flatMap_cons, hasHalf_append, hasHalf_shownText h.1, ih h.2]
    rfl

/-- Plain texts are shown as they are. -/
theorem flatMap_shownText_of_plain {texts : List Text} (h : Plain texts.flatten) :
    texts.flatMap shownText = texts.flatten := by
  induction texts with
  | nil => rfl
  | cons text texts ih =>
    rw [List.flatten_cons] at h ⊢
    rw [List.flatMap_cons, ih fun c hc => h c (List.mem_append_right _ hc),
      shownText_of_plain fun c hc => h c (List.mem_append_left _ hc)]

/-- What appears of a text whose pieces are texts that make up `cs`. -/
theorem shown_of_texts {t : Text} {texts : List Text} (h : pieces t = texts.map Piece.text)
    (hflat : texts.flatten = cs) :
    ∃ codes, shown t = .ok codes ∧ (hasHalf cs = false → hasHalf codes = false) ∧
      (Plain cs → codes = cs) := by
  subst hflat
  refine ⟨texts.flatMap shownText, ?_, hasHalf_flatMap_shownText, flatMap_shownText_of_plain⟩
  unfold shown
  rw [h, ← List.append_nil (texts.map Piece.text), shownPieces_texts]
  show Except.ok (_ ++ []) = _
  rw [List.append_nil]

theorem follows_backslashes (n : Nat) : Follows (backslashes n) where
  head c hc := by rw [List.eq_of_mem_replicate (List.mem_of_mem_head? hc)]; rfl
  bracket := by
    rw [List.find?_eq_none.mpr fun d hd => by rw [List.eq_of_mem_replicate hd]; decide]
    exact nofun

theorem hasHalf_backslashes (n : Nat) : hasHalf (backslashes n) = false :=
  hasHalf_eq_false_iff.mpr fun c hc => by rw [List.eq_of_mem_replicate hc]; rfl

theorem backslashes_append (m n : Nat) : backslashes m ++ backslashes n = backslashes (m + n) :=
  List.replicate_append_replicate

/-- A protected text with backslashes behind it appears without any tag. -/
theorem Protects.shown_append (h : Protects cs out) (extra : Nat) :
    ∃ codes, shown (out ++ backslashes extra) = .ok codes ∧
      (hasHalf cs = false → hasHalf codes = false) ∧ (extra = 0 → Plain cs → codes = cs) := by
  obtain ⟨texts, left, slashes, fuel, hpieces, hleft, hflat⟩ :=
    h.pieces_append (follows_backslashes extra) [] (le_refl _)
  rw [backslashes_append] at hpieces hleft
  have hbracket : .char '[' ∉ backslashes (slashes + extra) := fun hmem => by
    cases List.eq_of_mem_replicate hmem
  obtain ⟨last, hlast, hlastFlat⟩ :=
    addText_eq ((backslashes (slashes + extra)).reverse ++ left) []
  have hall : pieces (out ++ backslashes extra) = (texts ++ last).map Piece.text := by
    unfold pieces
    rw [hpieces, piecesFrom_of_no_bracket hbracket hleft, hlast, List.append_nil, List.map_append]
  have hwhole : (texts ++ last).flatten = cs ++ backslashes extra := by
    rw [List.flatten_append, hlastFlat, List.reverse_append, List.reverse_reverse,
      ← backslashes_append, ← List.append_assoc, ← List.append_assoc,
      List.append_assoc _ left.reverse,
      hflat]
    rfl
  obtain ⟨codes, hcodes, hhalf, hplain⟩ := shown_of_texts hall hwhole
  refine ⟨codes, hcodes, fun hcs => hhalf ?_, fun hextra hcs => ?_⟩
  · rw [hasHalf_append, hcs, hasHalf_backslashes]
    rfl
  · subst hextra
    have hnil : cs ++ backslashes 0 = cs := List.append_nil cs
    rw [hnil] at hplain
    exact hplain hcs

/-- A style that a tag switches on and a closing tag off again. -/
structure Switches (style : Text) : Prop where
  tag : IsTag style
  half : hasHalf style = false
  cycle : ∃ opened, afterTag style [] = .ok [opened] ∧
    afterTag (.char '/' :: style) [opened] = .ok []

variable {style : Text}

/-- The style can be closed by its name. -/
theorem Switches.closing (h : Switches style) : IsTag (.char '/' :: style) := by
  obtain ⟨c, body, rfl, hc, hbody⟩ := h.tag
  refine ⟨.char '/', c :: body, rfl, rfl, List.forall_mem_cons.mpr ⟨?_, hbody⟩⟩
  by_contra hbracket
  simp only [isBracket, Bool.not_eq_false, Bool.or_eq_true, beq_iff_eq] at hbracket
  rcases hbracket with rfl | rfl
  · cases hc
  · cases hc

/-- What closes a style. -/
def closingTag (style : Text) : Text := .char '[' :: ((.char '/' :: style) ++ [.char ']'])

theorem follows_closingTag (style : Text) (n : Nat) :
    Follows (backslashes n ++ closingTag style) where
  head c hc := by
    cases n with
    | zero => cases hc; rfl
    | succ n => cases hc; rfl
  bracket := by
    rw [List.find?_append,
      List.find?_eq_none.mpr fun d hd => by rw [List.eq_of_mem_replicate hd]; decide]
    exact nofun

/-- A closing tag behind backslashes closes the style, or appears if their number is odd. -/
theorem Switches.pieces_closing (h : Switches style) (left : Text) {n fuel : Nat}
    (hfuel : (backslashes n ++ closingTag style).length ≤ fuel) :
    ∃ (texts : List Text) (piece : Piece),
    piecesFrom fuel left (backslashes n ++ closingTag style)
      = texts.map Piece.text ++ [piece] ∧
    texts.flatten = left.reverse ++ backslashes (n / 2) ∧
    piece = if n % 2 = 1 then .text (closingTag style) else .tag (.char '/' :: style) := by
  cases fuel with
  | zero => simp [closingTag] at hfuel
  | succ fuel =>
    have hend : piecesFrom fuel [] [] = [] := by cases fuel <;> rfl
    have htag : piecesFrom (fuel + 1) left (backslashes n ++ closingTag style)
        = addText left (addText (backslashes (n / 2))
            ((if n % 2 = 1 then .text (closingTag style) else .tag (.char '/' :: style))
              :: piecesFrom fuel [] [])) := piecesFrom_of_tag left h.closing
    rw [hend] at htag
    generalize (if n % 2 = 1 then Piece.text (closingTag style) else .tag (.char '/' :: style))
      = piece at htag ⊢
    obtain ⟨first, hfirst, hleft⟩ := addText_eq left (addText (backslashes (n / 2)) [piece])
    obtain ⟨second, hsecond, hslashes⟩ := addText_eq (backslashes (n / 2)) [piece]
    refine ⟨first ++ second, piece, ?_, ?_, rfl⟩
    · rw [htag, hfirst, hsecond, List.map_append, List.append_assoc]
    · rw [List.flatten_append, hleft, hslashes]
      exact congrArg _ List.reverse_replicate

/-- The pieces of a protected text in a style: the tag that opens it, texts that make it up but for
half of the backslashes at its end, and the closing tag, or its text if these are odd in number. -/
theorem Protects.pieces_styled (hstyle : Switches style) (h : Protects cs out) (extra : Nat) :
    ∃ (texts : List Text) (piece : Piece) (front : Text) (slashes : Nat),
      pieces (styled style (out ++ backslashes extra))
        = .tag style :: (texts.map Piece.text ++ [piece]) ∧
      cs = front ++ backslashes slashes ∧
      texts.flatten = front ++ backslashes ((slashes + extra) / 2) ∧
      piece = if (slashes + extra) % 2 = 1 then .text (closingTag style)
        else .tag (.char '/' :: style) := by
  have hform : styled style (out ++ backslashes extra) = backslashes 0 ++ .char '[' ::
      (style ++ .char ']' :: (out ++ (backslashes extra ++ closingTag style))) := by
    simp [styled, closingTag, backslashes, ofString]
  generalize hrest : out ++ (backslashes extra ++ closingTag style) = rest at hform
  have hpieces : pieces (styled style (out ++ backslashes extra))
      = .tag style :: piecesFrom (style.length + rest.length + 1) [] rest := by
    unfold pieces
    have hlength : (styled style (out ++ backslashes extra)).length
        = style.length + rest.length + 1 + 1 := by
      rw [hform]
      simp [backslashes]
      omega
    rw [hlength, hform, piecesFrom_of_tag [] hstyle.tag]
    rfl
  have hfuel : rest.length ≤ style.length + rest.length + 1 := by omega
  rw [← hrest] at hfuel hpieces
  obtain ⟨texts, left, slashes, fuel, hprotected, hleft, hflat⟩ :=
    h.pieces_append (follows_closingTag style extra) [] hfuel
  rw [← List.append_assoc (backslashes slashes), backslashes_append] at hprotected hleft
  obtain ⟨last, piece, hlast, hlastFlat, hpiece⟩ := hstyle.pieces_closing left hleft
  refine ⟨texts ++ last, piece, texts.flatten ++ left.reverse, slashes, ?_, ?_, ?_, hpiece⟩
  · rw [hpieces, hprotected, hlast, List.map_append, List.append_assoc]
  · rw [List.append_assoc, hflat]
    rfl
  · rw [List.flatten_append, hlastFlat, List.append_assoc]

/-- There is no backslash at the end of a plain text. -/
theorem Plain.no_backslashes {front : Text} {slashes : Nat}
    (h : Plain (front ++ backslashes slashes)) : slashes = 0 := by
  by_contra hsome
  have hmem : .char '\\' ∈ front ++ backslashes slashes :=
    List.mem_append_right _ (List.mem_replicate.mpr ⟨hsome, rfl⟩)
  exact (h _ hmem).1 rfl

/-- **What appears of a protected text in a style**: no fault, whatever the text ends in, and no
halves but those of the text. -/
theorem Protects.shown_styled (hstyle : Switches style) (h : Protects cs out) (extra : Nat) :
    ∃ codes, shown (styled style (out ++ backslashes extra)) = .ok codes ∧
      (hasHalf cs = false → hasHalf codes = false) ∧ (extra = 0 → Plain cs → codes = cs) := by
  obtain ⟨opened, hopen, hclose⟩ := hstyle.cycle
  obtain ⟨texts, piece, front, slashes, hpieces, rfl, hflat, hpiece⟩ :=
    h.pieces_styled hstyle extra
  have hshown : shown (styled style (out ++ backslashes extra))
      = (shownPieces [opened] [piece]).map (texts.flatMap shownText ++ ·) := by
    unfold shown
    rw [hpieces]
    show (afterTag style [] >>= fun tags => shownPieces tags _) = _
    rw [hopen]
    exact shownPieces_texts [opened] texts [piece]
  have hhalf : hasHalf (front ++ backslashes slashes) = false →
      hasHalf (texts.flatMap shownText) = false := by
    intro hcs
    refine hasHalf_flatMap_shownText ?_
    rw [hasHalf_append, Bool.or_eq_false_iff] at hcs
    rw [hflat, hasHalf_append, hcs.1, hasHalf_backslashes]
    rfl
  by_cases hodd : (slashes + extra) % 2 = 1
  · rw [if_pos hodd] at hpiece
    subst hpiece
    refine ⟨_, hshown, fun hcs => ?_, fun hextra hplain => ?_⟩
    · have hclosing : hasHalf (closingTag style) = false := by
        simp [closingTag, hstyle.half, Code.isHalf]
      rw [hasHalf_append, hhalf hcs, hasHalf_append, hasHalf_shownText hclosing]
      rfl
    · -- an odd number of backslashes means that the text holds one
      have hnone : slashes = 0 := hplain.no_backslashes
      omega
  · rw [if_neg hodd] at hpiece
    subst hpiece
    refine ⟨texts.flatMap shownText, ?_, hhalf, fun hextra hplain => ?_⟩
    · rw [hshown]
      show (afterTag (.char '/' :: style) [opened] >>= fun tags => shownPieces tags []).map _ = _
      rw [hclose]
      exact congrArg Except.ok (List.append_nil _)
    · have hnone : slashes = 0 := hplain.no_backslashes
      subst hextra hnone
      rw [← hflat] at hplain ⊢
      exact flatMap_shownText_of_plain hplain

/-! ## Whole texts -/

/-- A text is protected together with what stands in front of it. -/
theorem Protects.append_front {front : Text} (h : Protects cs out)
    (hfront : ∀ c ∈ front, c ≠ .char '\\' ∧ c ≠ .char '[') :
    Protects (front ++ cs) (front ++ out) := by
  induction front with
  | nil => exact h
  | cons c front ih =>
    obtain ⟨hc, hfront⟩ := List.forall_mem_cons.mp hfront
    exact .other (nextTag?_of_ne hc.1 hc.2) (ih hfront)

/-- A text without opening brackets that appears as it is needs no protection. -/
theorem Plain.protects (h : Plain cs) (hbracket : .char '[' ∉ cs) : Protects cs cs := by
  have hfront : Protects (cs ++ []) (cs ++ []) := Protects.nil.append_front fun c hc =>
    ⟨(h c hc).1, fun heq => hbracket (heq ▸ hc)⟩
  rwa [List.append_nil] at hfront

/-- Protecting a text keeps its last code. -/
theorem Protects.getLast?_eq (h : Protects cs out) : out.getLast? = cs.getLast? := by
  induction h with
  | nil => rfl
  | tag _ _ ih => simp only [List.getLast?_append, List.getLast?_cons, Option.some_or, ih]
  | other _ _ ih => rw [List.getLast?_cons, List.getLast?_cons, ih]

theorem getLast?_of_endsWithBackslash (h : endsWithBackslash cs = true) :
    cs.getLast? = some (.char '\\') := by
  rw [← List.head?_reverse]
  unfold endsWithBackslash at h
  split at h
  · cases h
  · next hreverse => rw [hreverse]; rfl
  · cases h

/-- What `escape` gives is the text protected, up to a backslash behind it. -/
theorem escape_eq (t : Text) : ∃ out extra,
    Protects t out ∧ escape t = out ++ backslashes extra ∧ (Plain t → extra = 0) := by
  have hprotects := protects_escapeFrom t.length t (le_refl _)
  unfold escape
  simp only
  split
  · next hends =>
    refine ⟨_, 1, hprotects, rfl, fun hplain => ?_⟩
    have hlast := getLast?_of_endsWithBackslash hends
    rw [hprotects.getLast?_eq] at hlast
    exact absurd rfl (hplain _ (List.mem_of_getLast? hlast)).1
  · exact ⟨_, 0, hprotects, (List.append_nil _).symm, fun _ => rfl⟩

/-- **Any text can be shown** once it is protected: it appears without a fault, with no halves but
its own, and as it is if no code in it stands for another one. -/
theorem shown_escape (t : Text) : ∃ codes, shown (escape t) = .ok codes ∧
    (hasHalf t = false → hasHalf codes = false) ∧ (Plain t → codes = t) := by
  obtain ⟨out, extra, hprotects, hescape, hextra⟩ := escape_eq t
  obtain ⟨codes, hcodes, hhalf, hplain⟩ := hprotects.shown_append extra
  exact ⟨codes, hescape ▸ hcodes, hhalf, fun h => hplain (hextra h) h⟩

/-- **Any text can be shown in a style** once it is protected, behind a front without tags. -/
theorem shown_styled_escape (hstyle : Switches style) {front : Text}
    (hfront : ∀ c ∈ front, c ≠ .char '\\' ∧ c ≠ .char '[') (t : Text) :
    ∃ codes, shown (styled style (front ++ escape t)) = .ok codes ∧
      (hasHalf (front ++ t) = false → hasHalf codes = false) ∧
      (Plain (front ++ t) → codes = front ++ t) := by
  obtain ⟨out, extra, hprotects, hescape, hextra⟩ := escape_eq t
  obtain ⟨codes, hcodes, hhalf, hplain⟩ :=
    (hprotects.append_front hfront).shown_styled hstyle extra
  rw [List.append_assoc, ← hescape] at hcodes
  refine ⟨codes, hcodes, hhalf, fun h => hplain (hextra fun c hc => ?_) h⟩
  exact h c (List.mem_append_right _ hc)

/-- A text without brackets that appears as it is. -/
theorem shown_of_plain (h : Plain cs) (hbracket : .char '[' ∉ cs) : shown cs = .ok cs := by
  obtain ⟨codes, hcodes, -, hplain⟩ := (h.protects hbracket).shown_append 0
  rw [hplain rfl h] at hcodes
  exact (congrArg shown (List.append_nil cs)).symm.trans hcodes

/-- **A plain text in a style is shown as it is.** -/
theorem shown_styled_of_plain (hstyle : Switches style) (h : Plain cs)
    (hbracket : .char '[' ∉ cs) : shown (styled style cs) = .ok cs := by
  obtain ⟨codes, hcodes, -, hplain⟩ := (h.protects hbracket).shown_styled hstyle 0
  rw [hplain rfl h] at hcodes
  exact (congrArg (fun t => shown (styled style t)) (List.append_nil cs)).symm.trans hcodes

/-- The text is a line that appears as it is in every style and can be written. -/
def IsLine (t : Text) : Prop := Plain t ∧ .char '[' ∉ t ∧ hasHalf t = false

instance (t : Text) : Decidable (IsLine t) :=
  inferInstanceAs (Decidable (Plain t ∧ .char '[' ∉ t ∧ hasHalf t = false))

/-! ## The styles in use -/

/-- A style that is written in its normal form opens a tag of its own, and closes it. -/
def IsCycle (style : Text) : Prop :=
  splitTag? (style ++ "]") = some (style, []) ∧ hasHalf style = false ∧
    (afterTag style []).toOption = some [⟨style, []⟩] ∧
    (afterTag (.char '/' :: style) [⟨style, []⟩]).toOption = some []

instance (style : Text) : Decidable (IsCycle style) :=
  inferInstanceAs (Decidable (_ ∧ _ ∧ _ ∧ _))

/-- A result with a value succeeds with that value. -/
theorem eq_ok_of_toOption {ε α : Type} {result : Except ε α} {a : α}
    (h : result.toOption = some a) : result = .ok a := by
  cases result with
  | error e => cases h
  | ok b => exact congrArg Except.ok (Option.some.inj h)

/-- Such a style switches. -/
theorem IsCycle.switches (h : IsCycle style) : Switches style where
  tag := (splitTag?_eq_some_iff.mp h.1).1
  half := h.2.1
  cycle := ⟨⟨style, []⟩, eq_ok_of_toOption h.2.2.1, eq_ok_of_toOption h.2.2.2⟩

theorem switches_boldGreen : Switches "bold green" :=
  IsCycle.switches (by decide +kernel)

theorem switches_boldCyan : Switches "bold cyan" :=
  IsCycle.switches (by decide +kernel)

theorem switches_dim : Switches "dim" :=
  IsCycle.switches (by decide +kernel)

theorem switches_yellow : Switches "yellow" :=
  IsCycle.switches (by decide +kernel)

end Launcher.Terminal
