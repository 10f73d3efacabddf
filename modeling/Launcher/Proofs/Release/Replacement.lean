import Mathlib.Data.List.Basic
import Launcher.Proofs.Release.Assignment

/-!
# The assignment put into a text

Setting a version puts its assignment in place of the first one. The assignment that is put there is
again the first of its text, at the same place.

That no earlier one comes about has to be proved: blanks and values may run over several lines. A
line in front of the first assignment could begin one that ends behind it only with a value through
the key of the assignment put there. Such a value ends at the opening quote of the version, and
there the line goes on with the version.

> `afterAssignment?_append_written` what ends a line begins an assignment exactly if it holds all of
> it, whatever version is assigned behind it
> **`find?_replace`** the assignment put into a text is its first one
-/

namespace Launcher.Release

open Launcher.Text Launcher.Decimal

variable {c : Char} {cs rest more s key version text : List Char} {located : Located}

/-! ## Lines in front of an assignment -/

/-- The characters end with a line end. -/
def EndsLine (cs : List Char) : Prop := cs.getLast? = some '\n'

/-- The line ends where the characters begin. -/
def AtLineEnd (cs : List Char) : Prop := ∀ c ∈ cs.head?, c = '\n'

theorem EndsLine.of_append (h : EndsLine (s ++ rest)) (hs : '\n' ∉ s) : EndsLine rest := by
  unfold EndsLine at h ⊢
  by_cases hrest : rest = []
  · -- the line end would have to be in front
    rw [hrest, List.append_nil] at h
    exact absurd (List.mem_of_getLast? h) hs
  · rwa [List.getLast?_append_of_ne_nil _ hrest] at h

theorem EndsLine.of_cons (h : EndsLine (c :: rest)) (hc : c ≠ '\n') : EndsLine rest :=
  EndsLine.of_append (s := [c]) h (by simpa using hc.symm)

theorem EndsLine.ne_nil (h : EndsLine cs) : cs ≠ [] := by
  intro hnil
  rw [hnil] at h
  cases h

/-- What is left of a text that ends its line ends it, too. -/
theorem EndsLine.dropWhile {p : Char → Bool} (h : EndsLine cs) (hne : cs.dropWhile p ≠ []) :
    EndsLine (cs.dropWhile p) := by
  unfold EndsLine at h ⊢
  rw [← List.takeWhile_append_dropWhile (p := p) (l := cs)] at h
  rwa [List.getLast?_append_of_ne_nil _ hne] at h

/-- The name of a value that is assigned: it begins with a character that is neither blank nor an
equals sign, and holds no quote and no line end. -/
structure IsKey (key : List Char) : Prop where
  head : ∃ k more, key = k :: more ∧ isBlank k = false ∧ k ≠ '='
  quote : '"' ∉ key
  line : '\n' ∉ key

/-- A value that begins on the line of its quote and holds no quote. -/
structure IsPlain (value : List Char) : Prop where
  head : ∃ v more, value = v :: more ∧ v ≠ '\n'
  quote : '"' ∉ value

theorem isKey_key (file : VersionFile) : IsKey (Release.key file) := by
  cases file with
  | package => exact ⟨⟨'_', "_version__".toList, rfl, by decide, by decide⟩, by decide, by decide⟩
  | project => exact ⟨⟨'v', "ersion".toList, rfl, by decide, by decide⟩, by decide, by decide⟩

/-- A version holds neither backslash nor quote nor line end. -/
theorem isPlain_of_normalize {given : Text} {version : String} (h : normalize given = .ok version) :
    IsPlain version.toList := by
  refine ⟨?_, not_mem_of_normalize h (by decide)⟩
  have hline : '\n' ∉ version.toList := not_mem_of_normalize h (by decide)
  cases hversion : version.toList with
  | nil =>
    -- nothing at all is no version
    unfold normalize at h
    split at h
    · cases h
    · next trimmed _ =>
      by_cases hvalid : isVersion (withoutMark trimmed) = true
      · rw [if_pos hvalid] at h
        cases h
        rw [String.toList_ofList] at hversion
        rw [hversion] at hvalid
        cases hvalid
      · rw [if_neg hvalid] at h
        cases h
  | cons v more =>
    rw [hversion] at hline
    exact ⟨v, more, rfl, fun hv => hline (hv ▸ List.mem_cons_self)⟩

/-! ## Reading an assignment with more text behind it -/

/-- What follows the opening quote of an assignment. -/
def upToValue? (key cs : List Char) : Option (List Char) := do
  let rest ← dropStart? key cs
  let rest ← afterBlanksAnd? '=' rest
  afterBlanksAnd? '"' rest

/-- An assignment is a part up to its value, and the value. -/
theorem afterAssignment?_eq (key cs : List Char) :
    afterAssignment? key cs = (upToValue? key cs).bind afterQuoted? := by
  unfold afterAssignment? upToValue?
  simp only [bind, Option.bind_assoc]

/-- A key is found within a line in front, or not at all. -/
theorem dropStart?_append (hs : EndsLine s) (hkey : '\n' ∉ key) (more : List Char) :
    dropStart? key (s ++ more) = (dropStart? key s).map (· ++ more) := by
  cases hstart : dropStart? key s with
  | some left =>
    rw [dropStart?_eq_some_iff] at hstart
    rw [Option.map_some, dropStart?_eq_some_iff, hstart, List.append_assoc]
  | none =>
    rw [Option.map_none, Option.eq_none_iff_forall_ne_some]
    intro left hleft
    rw [dropStart?_eq_some_iff] at hleft
    rcases List.append_eq_append_iff.mp hleft with ⟨extra, hlong, -⟩ | ⟨extra, hshort, -⟩
    · -- the key would run over the end of the line
      exact hkey (hlong ▸ List.mem_append_left _ (List.mem_of_getLast? hs))
    · rw [dropStart?_eq_some_iff.mpr hshort] at hstart
      cases hstart

theorem EndsLine.of_dropStart? (hs : EndsLine s) (hkey : '\n' ∉ key)
    (h : dropStart? key s = some rest) : EndsLine rest := by
  rw [dropStart?_eq_some_iff.mp h] at hs
  exact hs.of_append hkey

/-- Blanks are skipped as far as they go. -/
theorem afterBlanksAnd?_eq_some_iff :
    afterBlanksAnd? c cs = some rest ↔ cs.dropWhile (fun d : Char => isBlank d) = c :: rest :=
  dropStart?_eq_some_iff

/-- A sign behind blanks is found within a text in front, or not at all, if what follows that text
begins with a character that is neither blank nor that sign. -/
theorem afterBlanksAnd?_append {k : Char} (hblank : isBlank k = false) (hk : k ≠ c)
    (s left : List Char) :
    afterBlanksAnd? c (s ++ k :: left) = (afterBlanksAnd? c s).map (· ++ k :: left) := by
  unfold afterBlanksAnd?
  rw [List.dropWhile_append]
  cases s.dropWhile fun d : Char => isBlank d with
  | nil =>
    rw [List.isEmpty_nil, if_pos rfl, List.dropWhile_cons_of_neg (by rw [hblank]; decide)]
    exact if_neg (Ne.symm hk)
  | cons d tail =>
    rw [List.isEmpty_cons, if_neg Bool.false_ne_true]
    by_cases hd : c = d
    · simp [dropStart?, hd]
    · simp [dropStart?, hd]

theorem EndsLine.of_afterBlanksAnd? (hs : EndsLine s) (hc : c ≠ '\n')
    (h : afterBlanksAnd? c s = some rest) : EndsLine rest := by
  rw [afterBlanksAnd?_eq_some_iff] at h
  have hends := hs.dropWhile (p := fun d : Char => isBlank d)
    (by rw [h]; exact List.cons_ne_nil _ _)
  rw [h] at hends
  exact hends.of_cons hc

/-- **A line in front of a key has to open its own value**: the key is no part of what comes before
the quote. -/
theorem upToValue?_append (hkey : IsKey key) (hs : EndsLine s) (left : List Char) :
    upToValue? key (s ++ (key ++ left)) = (upToValue? key s).map (· ++ (key ++ left)) := by
  obtain ⟨k, tail, hcons, hblank, hsign⟩ := hkey.head
  have hquote : k ≠ '"' := fun hk => hkey.quote (by rw [hcons, hk]; exact List.mem_cons_self)
  have hblanks : ∀ {c : Char}, k ≠ c → ∀ s, afterBlanksAnd? c (s ++ (key ++ left))
      = (afterBlanksAnd? c s).map (· ++ (key ++ left)) := by
    intro c hc s
    rw [hcons, List.cons_append]
    exact afterBlanksAnd?_append hblank hc s _
  unfold upToValue?
  rw [dropStart?_append hs hkey.line]
  cases dropStart? key s with
  | none => rfl
  | some first =>
    show (afterBlanksAnd? '=' (first ++ (key ++ left))).bind (afterBlanksAnd? '"')
      = ((afterBlanksAnd? '=' first).bind (afterBlanksAnd? '"')).map _
    rw [hblanks hsign]
    cases afterBlanksAnd? '=' first with
    | none => rfl
    | some second => exact hblanks hquote second

/-- The part before the value ends no line of a text that ends one later. -/
theorem EndsLine.of_upToValue? (hs : EndsLine s) (hkey : IsKey key)
    (h : upToValue? key s = some rest) : EndsLine rest := by
  obtain ⟨first, hfirst, h⟩ := Option.bind_eq_some_iff.mp h
  obtain ⟨second, hsecond, hthird⟩ := Option.bind_eq_some_iff.mp h
  exact ((hs.of_dropStart? hkey.line hfirst).of_afterBlanksAnd? (by decide) hsecond)
    |>.of_afterBlanksAnd? (by decide) hthird

/-- A text is cut at its first quote. -/
theorem span_quote {value : List Char} (h : '"' ∉ value) (rest : List Char) :
    (value ++ '"' :: rest).span (· != '"') = (value, '"' :: rest) := by
  have hall : ∀ d ∈ value, (d != '"') = true := fun d hd =>
    bne_iff_ne.mpr fun heq => h (heq ▸ hd)
  rw [List.span_eq_takeWhile_dropWhile, List.takeWhile_append_of_pos hall,
    List.dropWhile_append_of_pos hall]
  simp

/-- A value in quotes ends where its line ends. -/
theorem afterQuoted?_eq_some_iff :
    afterQuoted? cs = some rest ↔
      ∃ value, value ≠ [] ∧ '"' ∉ value ∧ cs = value ++ '"' :: rest ∧ AtLineEnd rest := by
  constructor
  · intro h
    unfold afterQuoted? at h
    split at h
    · next d ds after hspan =>
      rw [List.span_eq_takeWhile_dropWhile] at hspan
      obtain ⟨htake, hdrop⟩ := Prod.mk.inj hspan
      have hparts : cs = (d :: ds) ++ '"' :: after := by
        rw [← htake, ← hdrop, List.takeWhile_append_dropWhile]
      have hvalue : '"' ∉ d :: ds := by
        intro hmem
        rw [← htake] at hmem
        exact absurd (List.mem_takeWhile_imp hmem) (by decide)
      split at h
      · cases h
        exact ⟨d :: ds, List.cons_ne_nil _ _, hvalue, hparts, nofun⟩
      · next e tail =>
        split at h
        · next he =>
          cases h
          refine ⟨d :: ds, List.cons_ne_nil _ _, hvalue, hparts, ?_⟩
          intro other hother
          cases hother
          exact he
        · cases h
    · cases h
  · intro h
    obtain ⟨value, hne, hvalue, rfl, hend⟩ := h
    unfold afterQuoted?
    rw [span_quote hvalue rest]
    cases value with
    | nil => exact absurd rfl hne
    | cons d ds =>
      cases rest with
      | nil => rfl
      | cons e tail =>
        have he : e = '\n' := hend e rfl
        simp only [he, if_true]

/-- Where a line ends after a value in quotes, there is something left of the text. -/
theorem EndsLine.after_quote {value : List Char} (h : EndsLine (value ++ '"' :: rest)) :
    rest ≠ [] := by
  unfold EndsLine at h
  rw [List.getLast?_append_of_ne_nil _ (List.cons_ne_nil _ _)] at h
  exact (EndsLine.of_cons h (by decide)).ne_nil

theorem atLineEnd_append (h : rest ≠ []) : AtLineEnd (rest ++ more) ↔ AtLineEnd rest := by
  unfold AtLineEnd
  rw [List.head?_append_of_ne_nil _ h]

/-- A value that a line in front holds is read there, whatever follows. -/
theorem afterQuoted?_append_of_some (hs : EndsLine s) (h : afterQuoted? s = some rest)
    (more : List Char) : afterQuoted? (s ++ more) = some (rest ++ more) := by
  obtain ⟨value, hne, hvalue, rfl, hend⟩ := afterQuoted?_eq_some_iff.mp h
  refine afterQuoted?_eq_some_iff.mpr ⟨value, hne, hvalue, ?_, ?_⟩
  · rw [List.append_assoc, List.cons_append]
  · rwa [atLineEnd_append hs.after_quote]

/-- **No value runs into an assignment that is put there**: it would end at the opening quote, and
the version stands behind that. -/
theorem afterQuoted?_append_written (hkey : IsKey key) (hversion : IsPlain version)
    (hs : EndsLine s) (after : List Char) :
    afterQuoted? (s ++ (written key version ++ after))
      = (afterQuoted? s).map (· ++ (written key version ++ after)) := by
  cases hq : afterQuoted? s with
  | some left => exact afterQuoted?_append_of_some hs hq _
  | none =>
    rw [Option.map_none, Option.eq_none_iff_forall_ne_some]
    intro left hleft
    obtain ⟨value, hne, hvalue, hparts, hend⟩ := afterQuoted?_eq_some_iff.mp hleft
    -- a value that goes on behind the line is cut at the quote in front of the version
    have hover : ∀ extra, '"' ∉ extra → written key version ++ after ≠ extra ++ '"' :: left := by
      intro extra hextra heq
      have hfront : '"' ∉ key ++ [' ', '=', ' '] := by simp [hkey.quote]
      have hwritten : written key version ++ after
          = (key ++ [' ', '=', ' ']) ++ '"' :: (version ++ '"' :: after) := by simp [written]
      have hspan := span_quote hfront (version ++ '"' :: after)
      rw [← hwritten, heq, span_quote hextra] at hspan
      obtain ⟨v, tail, rfl, hv⟩ := hversion.head
      obtain ⟨-, hsame⟩ := Prod.mk.inj hspan
      rw [List.cons.injEq] at hsame
      exact hv (hend v (by rw [hsame.2]; rfl))
    rcases List.append_eq_append_iff.mp hparts with ⟨extra, rfl, hlong⟩ | ⟨extra, rfl, hshort⟩
    · exact hover extra (fun h => hvalue (List.mem_append_right _ h)) hlong
    · cases extra with
      | nil => exact hover [] List.not_mem_nil hshort.symm
      | cons d tail =>
        rw [List.cons_append, List.cons.injEq] at hshort
        obtain ⟨rfl, rfl⟩ := hshort
        have htail := hs.after_quote
        rw [afterQuoted?_eq_some_iff.mpr
          ⟨value, hne, hvalue, rfl, (atLineEnd_append htail).mp hend⟩] at hq
        cases hq

/-- What ends a line begins an assignment exactly if it holds all of it, whatever version is
assigned behind it. -/
theorem afterAssignment?_append_written (hkey : IsKey key) (hversion : IsPlain version)
    (hs : EndsLine s) (after : List Char) :
    afterAssignment? key (s ++ (written key version ++ after))
      = (afterAssignment? key s).map (· ++ (written key version ++ after)) := by
  have hfront : ∃ left, written key version ++ after = key ++ left :=
    ⟨_, by simp only [written, List.append_assoc]; rfl⟩
  obtain ⟨left, hleft⟩ := hfront
  rw [afterAssignment?_eq, afterAssignment?_eq, hleft, upToValue?_append hkey hs]
  cases hvalue : upToValue? key s with
  | none => rfl
  | some tail =>
    rw [← hleft]
    exact afterQuoted?_append_written hkey hversion (hs.of_upToValue? hkey hvalue) after

/-- An assignment that ends within a line in front is one in every longer text. -/
theorem afterAssignment?_append_of_some (hkey : IsKey key) (hs : EndsLine s)
    (h : afterAssignment? key s = some rest) (left : List Char) :
    afterAssignment? key (s ++ (key ++ left)) = some (rest ++ (key ++ left)) := by
  rw [afterAssignment?_eq] at h ⊢
  obtain ⟨tail, hvalue, hquoted⟩ := Option.bind_eq_some_iff.mp h
  rw [upToValue?_append hkey hs, hvalue]
  exact afterQuoted?_append_of_some (hs.of_upToValue? hkey hvalue) hquoted _

/-- The assignment of a version is one, where a line ends after it. -/
theorem afterAssignment?_written (key : List Char) (hversion : IsPlain version)
    (hend : AtLineEnd rest) : afterAssignment? key (written key version ++ rest) = some rest := by
  obtain ⟨v, tail, hcons, -⟩ := hversion.head
  have hne : version ≠ [] := by rw [hcons]; exact List.cons_ne_nil _ _
  have hquoted : afterQuoted? (version ++ '"' :: rest) = some rest :=
    afterQuoted?_eq_some_iff.mpr ⟨version, hne, hversion.quote, rfl, hend⟩
  have hstart : dropStart? key (written key version ++ rest)
      = some (' ' :: '=' :: ' ' :: '"' :: (version ++ '"' :: rest)) := by
    rw [dropStart?_eq_some_iff]
    simp [written]
  unfold afterAssignment?
  rw [hstart]
  exact hquoted

/-! ## The first assignment -/

/-- What is known of a text that has been cut at its first assignment: a line ends in front of that,
and it is an assignment. -/
theorem findFrom?_eq_some {lineStart : Bool}
    (h : Located.findFrom? key lineStart cs = some located) :
    (located.before = [] ∧ lineStart = true ∨ EndsLine located.before) ∧
      afterAssignment? key (located.assignment ++ located.after) = some located.after := by
  induction cs generalizing lineStart located with
  | nil => cases h
  | cons c rest ih =>
    unfold Located.findFrom? at h
    simp only at h
    split at h
    · next after hhere =>
      cases h
      cases lineStart with
      | false => cases hhere
      | true =>
        have hwhole : (c :: rest).take (rest.length + 1 - after.length) ++ after = c :: rest :=
          List.suffix_iff_eq_append.mp (afterAssignment?_suffix hhere)
        exact ⟨Or.inl ⟨rfl, rfl⟩, by rw [hwhole]; exact hhere⟩
    · obtain ⟨inner, hinner, rfl⟩ := Option.map_eq_some_iff.mp h
      obtain ⟨hbefore, hassigned⟩ := ih hinner
      refine ⟨Or.inr ?_, hassigned⟩
      rcases hbefore with ⟨hnil, hline⟩ | hends
      · show (c :: inner.before).getLast? = some '\n'
        rw [hnil, beq_iff_eq.mp hline]
        rfl
      · show (c :: inner.before).getLast? = some '\n'
        rw [← List.singleton_append, List.getLast?_append_of_ne_nil _ hends.ne_nil]
        exact hends

/-- A text is cut where an assignment begins a line. -/
theorem findFrom?_of_assignment {assignment : List Char}
    (h : afterAssignment? key (assignment ++ rest) = some rest) (hne : assignment ≠ []) :
    Located.findFrom? key true (assignment ++ rest) = some ⟨[], assignment, rest⟩ := by
  cases assignment with
  | nil => exact absurd rfl hne
  | cons c tail =>
    have hcut : (c :: tail ++ rest).take ((tail ++ rest).length + 1 - rest.length) = c :: tail :=
      List.take_left' (by simp; omega)
    rw [List.cons_append] at h ⊢
    unfold Located.findFrom?
    simp only [if_true, h]
    rw [← List.cons_append, hcut]

/-- The search goes on behind a character at which no assignment begins. -/
theorem findFrom?_of_not_here {lineStart : Bool}
    (h : lineStart = true → afterAssignment? key (c :: rest) = none) :
    Located.findFrom? key lineStart (c :: rest)
      = (Located.findFrom? key (c == '\n') rest).map fun located =>
          { located with before := c :: located.before } := by
  conv_lhs => unfold Located.findFrom?
  cases lineStart with
  | false => rfl
  | true => simp only [if_true, h rfl]

/-- An assignment begins with its key and ends with its line. -/
theorem afterAssignment?_eq_some (h : afterAssignment? key cs = some rest) :
    (∃ left, cs = key ++ left) ∧ AtLineEnd rest := by
  have hquoted := (afterAssignment?_eq key cs).symm.trans h
  obtain ⟨tail, hvalue, hquoted⟩ := Option.bind_eq_some_iff.mp hquoted
  obtain ⟨left, hstart, -⟩ := Option.bind_eq_some_iff.mp hvalue
  obtain ⟨-, -, -, -, hend⟩ := afterQuoted?_eq_some_iff.mp hquoted
  exact ⟨⟨left, dropStart?_eq_some_iff.mp hstart⟩, hend⟩

/-- The assignment put into a text is the first one, wherever in the text the search begins. -/
theorem findFrom?_replace (hkey : IsKey key) (hversion : IsPlain version) {lineStart : Bool}
    (h : Located.findFrom? key lineStart cs = some located) :
    Located.findFrom? key lineStart (located.replace (written key version))
      = some { located with assignment := written key version } := by
  have hne : written key version ≠ [] := by simp [written]
  induction cs generalizing lineStart located with
  | nil => cases h
  | cons c rest ih =>
    obtain ⟨hbefore, hassigned⟩ := findFrom?_eq_some h
    unfold Located.findFrom? at h
    simp only at h
    split at h
    · next after hhere =>
      -- the first assignment begins here, so the other one is put here
      cases lineStart with
      | false => cases hhere
      | true =>
        cases h
        exact findFrom?_of_assignment
          (afterAssignment?_written key hversion (afterAssignment?_eq_some hassigned).2) hne
    · next hhere =>
      obtain ⟨inner, hinner, rfl⟩ := Option.map_eq_some_iff.mp h
      have hends : EndsLine (c :: inner.before) :=
        hbefore.resolve_left fun hnil => absurd hnil.1 (List.cons_ne_nil _ _)
      obtain ⟨left, hleft⟩ := (afterAssignment?_eq_some hassigned).1
      have hrest : c :: rest = (c :: inner.before) ++ (key ++ left) := by
        rw [← hleft, ← replace_assignment_from hinner]
        simp [Located.replace]
      have hnew : ({ inner with before := c :: inner.before } : Located).replace
          (written key version)
          = c :: inner.replace (written key version) := rfl
      -- nothing begins here in the new text that did not begin here in the old one
      have hnone : lineStart = true →
          afterAssignment? key (c :: inner.replace (written key version)) = none := by
        intro hline
        rw [hline, if_pos rfl] at hhere
        have hwithin : afterAssignment? key (c :: inner.before) = none := by
          rw [Option.eq_none_iff_forall_ne_some]
          intro after hafter
          rw [hrest, afterAssignment?_append_of_some hkey hends hafter] at hhere
          cases hhere
        have hparts : c :: inner.replace (written key version)
            = (c :: inner.before) ++ (written key version ++ inner.after) := by
          simp [Located.replace]
        rw [hparts, afterAssignment?_append_written hkey hversion hends, hwithin]
        rfl
      rw [hnew, findFrom?_of_not_here hnone, ih hinner]
      rfl

/-- **The assignment put into a text is its first one**, at the place of the one before. -/
theorem find?_replace (hkey : IsKey key) (hversion : IsPlain version)
    (h : Located.find? key text = some located) :
    Located.find? key (located.replace (written key version))
      = some { located with assignment := written key version } :=
  findFrom?_replace hkey hversion h

end Launcher.Release
