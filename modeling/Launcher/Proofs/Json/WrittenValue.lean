import Launcher.Proofs.Json.DistinctKeys
import Launcher.Proofs.Json.WrittenNumber
import Launcher.Proofs.Json.WrittenText

/-!
# Written documents read back

Whatever the layout puts between the parts, as long as it is a comma and spaces, a written document
is read as the value it was. Two things must hold of the value: every whole number in it is short
enough to be written, and no object in it has a key twice. No carriage return stands in a written
document, so that it also goes through a file unchanged.

> `Writes` the characters are read as the value, whatever follows them
> **`readDocument_write`** a document that has been written is read back
> `return_not_mem_write` no carriage return is written
-/

namespace Launcher.Json

open Launcher.Decimal Launcher.Text

/-! ## Spaces -/

/-- The characters are those that layouts put between the parts of a document. -/
def AllSpaces (t : Text) : Prop := ∀ c ∈ t, c = ' ' ∨ c = '\n'

theorem AllSpaces.return_not_mem {cs : Text} (h : AllSpaces cs) : .char '\r' ∉ cs := fun hmem =>
  absurd (h _ hmem) (by decide)

theorem skipSpaces_of_head {cs : Text} (h : ∀ c ∈ cs.head?, isSpace c = false)
    (place : Nat) : skipSpaces place cs = (place, cs) := by
  cases cs with
  | nil => rfl
  | cons c cs => rw [skipSpaces, if_neg (by rw [h c rfl]; exact Bool.false_ne_true)]

/-- Spaces in front of something else are skipped. -/
theorem skipSpaces_append {spaces rest : Text} (h : AllSpaces spaces)
    (hrest : ∀ c ∈ rest.head?, isSpace c = false) :
    ∀ place, skipSpaces place (spaces ++ rest) = (place + spaces.length, rest) := by
  induction spaces with
  | nil => exact skipSpaces_of_head hrest
  | cons c spaces ih =>
    intro place
    have hspace : isSpace c = true := by
      rcases h c List.mem_cons_self with rfl | rfl
      · rfl
      · rfl
    rw [List.cons_append, skipSpaces, if_pos hspace,
      ih fun d hd => h d (List.mem_cons_of_mem _ hd), List.length_cons]
    congr 1
    omega

theorem allSpaces_newLine (level : Nat) : AllSpaces (newLine level) := by
  intro c hc
  rw [newLine, ofChars_cons, ofChars, List.map_replicate] at hc
  rcases List.mem_cons.mp hc with rfl | hc
  · exact Or.inr rfl
  · exact Or.inl (List.eq_of_mem_replicate hc)

/-- Between the parts of a document stand spaces only, but for the comma between two items. -/
structure Layout.Spaced (layout : Layout) : Prop where
  opening : ∀ level, AllSpaces (layout.opening level)
  between : ∀ level, ∃ spaces, layout.between level = .char ',' :: spaces ∧ AllSpaces spaces
  closing : ∀ level, AllSpaces (layout.closing level)

theorem Layout.spaced_oneLine : Layout.oneLine.Spaced where
  opening := fun _ => nofun
  between := fun _ => ⟨[.char ' '], rfl, fun _ hc => Or.inl (List.mem_singleton.mp hc)⟩
  closing := fun _ => nofun

theorem Layout.spaced_indented : Layout.indented.Spaced where
  opening := fun level => allSpaces_newLine (level + 1)
  between := fun level =>
    ⟨newLine (level + 1), rfl, allSpaces_newLine (level + 1)⟩
  closing := allSpaces_newLine

/-! ## Values without parts -/

/-- A value may begin with the character. -/
structure BeginsValue (c : Code) : Prop where
  not_space : isSpace c = false
  not_bracket : c ≠ ']'
  not_mark : c ≠ .char (Char.ofNat 0xFEFF)

theorem head?_append_not_space {cs : Text} (h : ∃ c, cs.head? = some c ∧ BeginsValue c)
    (rest : Text) : ∀ c ∈ (cs ++ rest).head?, isSpace c = false := by
  obtain ⟨c, hc, hbegins⟩ := h
  rw [List.head?_append, hc]
  rintro _ ⟨⟩
  exact hbegins.not_space

/-- The characters are read as the value, whatever follows them. The reader uses up two units of
fuel for every level of nesting, whose brackets are two characters, so two units for every character
are enough. -/
structure Writes (cs : Text) (v : Value) : Prop where
  head : ∃ c, cs.head? = some c ∧ BeginsValue c
  read : ∀ (fuel place : Nat) (rest : Text), 2 * cs.length ≤ fuel → EndsNumber (numberChars rest) →
    ∃ next, readValue fuel place (cs ++ rest) = .ok (v, next, rest)
  no_return : .char '\r' ∉ cs

/-- Reading what is not empty has fuel for a step. -/
theorem exists_fuel_eq {cs : Text} {fuel : Nat} (hne : cs ≠ []) (h : 2 * cs.length ≤ fuel) :
    ∃ less, fuel = less + 1 := by
  have := List.length_pos_of_ne_nil hne
  exact Nat.exists_eq_add_of_le' (by omega)

/-- What begins like neither a text nor an object nor a list is a name or a number. -/
theorem readValue_of_head {c : Code} (htext : c ≠ '"') (hobject : c ≠ '\x7b') (hlist : c ≠ '[')
    (fuel place : Nat) (cs : Text) :
    readValue (fuel + 1) place (c :: cs) = match readName? place (c :: cs) with
      | some found => .ok found
      | none => readNumber place (c :: cs) := by
  rw [readValue.eq_def]
  simp only
  split
  · next heq => exact absurd (List.cons.inj heq).1 htext
  · next heq => exact absurd (List.cons.inj heq).1 hobject
  · next heq => exact absurd (List.cons.inj heq).1 hlist
  · rfl

/-- The names of constants are read in front of anything. -/
theorem readName?_append {name : Text} {v : Value} (h : (name, v) ∈ names) (place : Nat)
    (rest : Text) :
    readName? place (name ++ rest) = some (v, place + name.length, rest) := by
  simp only [names, List.mem_cons, List.not_mem_nil, or_false, Prod.mk.injEq] at h
  rcases h with ⟨rfl, rfl⟩ | ⟨rfl, rfl⟩ | ⟨rfl, rfl⟩ | ⟨rfl, rfl⟩ | ⟨rfl, rfl⟩ | ⟨rfl, rfl⟩
  all_goals rfl

/-- How the names of constants begin. -/
theorem exists_head_name {name : Text} {v : Value} (h : (name, v) ∈ names) :
    (∃ c cs, name = c :: cs ∧ BeginsValue c ∧ c ≠ '"' ∧ c ≠ '\x7b' ∧ c ≠ '[') ∧
      .char '\r' ∉ name := by
  simp only [names, List.mem_cons, List.not_mem_nil, or_false, Prod.mk.injEq] at h
  rcases h with ⟨rfl, rfl⟩ | ⟨rfl, rfl⟩ | ⟨rfl, rfl⟩ | ⟨rfl, rfl⟩ | ⟨rfl, rfl⟩ | ⟨rfl, rfl⟩
  all_goals exact ⟨⟨_, _, rfl, ⟨rfl, by decide, by decide⟩, by decide⟩, by decide⟩

/-- A value with a name is read from its name. -/
theorem writes_name {name : Text} {v : Value} (h : (name, v) ∈ names) :
    Writes name v := by
  obtain ⟨⟨c, cs, hcs, hbegins, htext, hobject, hlist⟩, hreturn⟩ := exists_head_name h
  refine ⟨⟨c, by rw [hcs]; rfl, hbegins⟩, fun fuel place rest hfuel _ => ?_, hreturn⟩
  obtain ⟨fuel, rfl⟩ := exists_fuel_eq (by rw [hcs]; exact List.cons_ne_nil _ _) hfuel
  have hread := readName?_append h place rest
  rw [hcs, List.cons_append] at hread ⊢
  exact ⟨_, by rw [readValue_of_head htext hobject hlist, hread]⟩

/-- A spelling begins with a digit, or with a minus and a digit. -/
theorem Spelling.WellFormed.exists_chars_eq {n : Spelling} (h : n.WellFormed) :
    ∃ c cs, isAsciiDigit c = true ∧ (n.chars = c :: cs ∨ n.chars = '-' :: c :: cs) := by
  obtain ⟨c, cs, hwhole⟩ := List.exists_cons_of_ne_nil h.whole_ne_nil
  refine ⟨c, cs ++ n.placeChars ++ n.exponentChars, h.whole c (hwhole ▸ List.mem_cons_self), ?_⟩
  unfold Spelling.chars Spelling.signChars
  rw [hwhole]
  cases n.negative with
  | true => exact Or.inr (by simp)
  | false => exact Or.inl (by simp)

theorem ne_of_isAsciiDigit {c d : Char} (hc : isAsciiDigit c = true)
    (hd : isAsciiDigit d = false) : c ≠ d := fun h => by
  rw [h, hd] at hc
  cases hc

/-- How numbers begin. -/
theorem Spelling.WellFormed.exists_head {n : Spelling} (h : n.WellFormed) :
    ∃ d ds, ofChars n.chars = d :: ds ∧ BeginsValue d ∧ d ≠ '"' ∧ d ≠ '\x7b' ∧ d ≠ '[' := by
  obtain ⟨c, cs, hc, hchars | hchars⟩ := h.exists_chars_eq
  · have hne : ∀ d : Char, isAsciiDigit d = false → (c : Code) ≠ d := fun d hd heq =>
      ne_of_isAsciiDigit hc hd (Code.char.inj heq)
    have hspace : isSpace c = false := by
      simp [isSpace, hne ' ' rfl, hne '\t' rfl, hne '\n' rfl, hne '\r' rfl]
    refine ⟨c, ofChars cs, by rw [hchars, ofChars_cons], ⟨hspace, ?_, ?_⟩, ?_, ?_, ?_⟩
    all_goals exact hne _ rfl
  · exact ⟨.char '-', ofChars (c :: cs), by rw [hchars, ofChars_cons],
      ⟨rfl, by decide, by decide⟩, by decide⟩

/-- No name begins where a number does; the one that begins with a minus goes on with a letter. -/
theorem readName?_chars_append {n : Spelling} (h : n.WellFormed) (place : Nat)
    (rest : Text) : readName? place (ofChars n.chars ++ rest) = none := by
  obtain ⟨c, cs, hc, hchars⟩ := h.exists_chars_eq
  have hne : ∀ d : Char, isAsciiDigit d = false → (.char d == Code.char c) = false := fun d hd =>
    beq_false_of_ne fun heq => ne_of_isAsciiDigit hc hd (Code.char.inj heq).symm
  rcases hchars with hchars | hchars
  · simp [hchars, readName?, names, ofString, List.isPrefixOf, hne 'n' rfl, hne 't' rfl,
      hne 'f' rfl, hne 'N' rfl, hne 'I' rfl, hne '-' rfl]
  · simp [hchars, readName?, names, ofString, List.isPrefixOf, hne 'I' rfl]

/-- A number is read from its spelling. -/
theorem writes_spelling {n : Spelling} (h : n.WellFormed)
    (hshort : n.places = [] → n.exponent = none → n.whole.length ≤ maxDigits) :
    Writes (ofChars n.chars) n.value := by
  obtain ⟨d, ds, hds, hbegins, htext, hobject, hlist⟩ := h.exists_head
  refine ⟨⟨d, by rw [hds]; rfl, hbegins⟩, fun fuel place rest hfuel hrest => ?_,
    fun hmem => h.return_not_mem (char_mem_ofChars.mp hmem)⟩
  obtain ⟨fuel, rfl⟩ := exists_fuel_eq (by rw [hds]; exact List.cons_ne_nil _ _) hfuel
  have hnone := readName?_chars_append h place rest
  have hread := readNumber_chars_append h hrest hshort place
  generalize n.chars.length = size at hread
  rw [hds, List.cons_append] at hnone hread ⊢
  exact ⟨_, by rw [readValue_of_head htext hobject hlist, hnone, hread]⟩

/-- A text is read back from what is written for it. -/
theorem writes_text (s : Text) : Writes (writtenText s) (.text s) := by
  rw [writtenText_eq]
  refine ⟨⟨.char '"', rfl, rfl, by decide, by decide⟩, fun fuel place rest hfuel _ => ?_,
    by simp [return_not_mem_afterQuote]⟩
  obtain ⟨fuel, rfl⟩ := exists_fuel_eq (List.cons_ne_nil _ _) hfuel
  obtain ⟨next, hnext⟩ := readText_afterQuote s place rest
  refine ⟨next, ?_⟩
  rw [List.cons_append, readValue.eq_def]
  simp only [hnext]
  rfl

/-- A whole number of at most 4300 digits is read back. -/
theorem writes_int {n : Int} (hshort : isWritable (.int n) = true) :
    Writes (toString n : String) (.int n) := by
  rw [ofString, ← chars_spellingOfInt, ← value_spellingOfInt]
  exact writes_spelling (wellFormed_spellingOfInt n) fun _ _ => of_decide_eq_true hshort

/-- A double is read back, also one that is not finite. -/
theorem writes_float (x : Float) : Writes (documentStyle.write x) (.float x) := by
  rw [NumberStyle.write, ofString, String.toList_ofList]
  cases h : Double.ofFloat x with
  | notANumber =>
    have hchars : documentStyle.chars x = "NaN".toList := by rw [NumberStyle.chars, h]; rfl
    have hname : (ofString "NaN", Value.float notANumber) ∈ names := by simp [names]
    rw [hchars, ofFloat_notANumber h]
    exact writes_name hname
  | infinite negative =>
    have hx : x = infinite negative := (ofFloat_infinite h).trans (infinite_eq negative).symm
    cases negative with
    | true =>
      have hchars : documentStyle.chars x = "-Infinity".toList := by rw [NumberStyle.chars, h]; rfl
      have hname : (ofString "-Infinity", Value.float (infinite true)) ∈ names := by simp [names]
      rw [hchars, hx]
      exact writes_name hname
    | false =>
      have hchars : documentStyle.chars x = "Infinity".toList := by rw [NumberStyle.chars, h]; rfl
      have hname : (ofString "Infinity", Value.float (infinite false)) ∈ names := by simp [names]
      rw [hchars, hx]
      exact writes_name hname
  | finite negative significand exponent =>
    obtain ⟨n, hn, hreal, hvalue, hchars⟩ := exists_spelling_float h documentStyle
    rw [← hchars, ← hvalue]
    exact writes_spelling hn fun hplaces hexponent => absurd ⟨hplaces, hexponent⟩ hreal

/-! ## Parts -/

/-- No number goes on with what stands between the parts of a document. -/
theorem numberChars_of_mem {c : Code}
    (hc : c ∈ ([.char ',', .char ']', .char '\x7d', .char ' ', .char '\n'] : Text)) (rest : Text) :
    numberChars (c :: rest) = [] := by
  simp only [List.mem_cons, List.not_mem_nil, or_false] at hc
  rcases hc with rfl | rfl | rfl | rfl | rfl
  all_goals rfl

/-- A comma and the closing brackets end a number. -/
theorem endsNumber_cons {c : Code} (hc : c ∈ ([.char ',', .char ']', .char '\x7d'] : Text))
    (rest : Text) : EndsNumber (numberChars (c :: rest)) := by
  rw [numberChars_of_mem (by simp at hc ⊢; tauto)]
  exact nofun

theorem endsNumber_spaces_append {spaces : Text} {c : Code} (h : AllSpaces spaces)
    (hc : c ∈ ([.char ',', .char ']', .char '\x7d'] : Text)) (rest : Text) :
    EndsNumber (numberChars (spaces ++ c :: rest)) := by
  cases spaces with
  | nil => exact endsNumber_cons hc rest
  | cons e spaces =>
    have he := h e List.mem_cons_self
    rw [List.cons_append, numberChars_of_mem (by simp; tauto)]
    exact nofun

/-- The characters are read as the items of a list, up to the bracket that closes it. -/
structure WritesItems (cs : Text) (items : List Value) : Prop where
  head : ∃ c, cs.head? = some c ∧ BeginsValue c
  read : ∀ (fuel : Nat) (done : List Value) (place : Nat) (closing rest : Text),
    2 * cs.length < fuel → AllSpaces closing →
    ∃ next, readItems fuel done place (cs ++ (closing ++ .char ']' :: rest))
      = .ok (.list (done.reverse ++ items), next, rest)
  no_return : .char '\r' ∉ cs

/-- One item is a list of items. -/
theorem Writes.item {cs : Text} {v : Value} (h : Writes cs v) : WritesItems cs [v] where
  head := h.head
  read := by
    intro fuel done place closing rest hfuel hclosing
    obtain ⟨fuel, rfl⟩ := Nat.exists_eq_add_of_le' (Nat.one_le_of_lt hfuel)
    obtain ⟨next, hnext⟩ :=
      h.read fuel place (closing ++ .char ']' :: rest) (Nat.le_of_lt_succ hfuel)
      (endsNumber_spaces_append hclosing (by simp) _)
    refine ⟨next + closing.length + 1, ?_⟩
    rw [readItems, hnext]
    simp only [bind, Except.bind]
    rw [skipSpaces_append hclosing (by rintro c ⟨⟩; rfl), List.reverse_cons]
    rfl
  no_return := h.no_return

/-- An item, a comma and further items are items. -/
theorem Writes.item_append {cs spaces more : Text} {v : Value} {items : List Value}
    (h : Writes cs v) (hspaces : AllSpaces spaces) (hmore : WritesItems more items) :
    WritesItems (cs ++ .char ',' :: (spaces ++ more)) (v :: items) where
  head := by
    obtain ⟨c, hc, hbegins⟩ := h.head
    exact ⟨c, by rw [List.head?_append, hc]; rfl, hbegins⟩
  read := by
    intro fuel done place closing rest hfuel hclosing
    obtain ⟨fuel, rfl⟩ := Nat.exists_eq_add_of_le' (Nat.one_le_of_lt hfuel)
    simp only [List.length_append, List.length_cons] at hfuel
    obtain ⟨next, hnext⟩ := h.read fuel place
      (.char ',' :: (spaces ++ (more ++ (closing ++ .char ']' :: rest)))) (by omega)
      (endsNumber_cons (by simp) _)
    obtain ⟨last, hlast⟩ := hmore.read fuel (v :: done) (next + 1 + spaces.length) closing rest
      (by omega) hclosing
    refine ⟨last, ?_⟩
    -- the value, then the comma and the spaces, then the other items
    rw [readItems, List.append_assoc, List.cons_append, List.append_assoc, hnext]
    simp only [bind, Except.bind]
    rw [skipSpaces_of_head (by rintro _ ⟨⟩; rfl)]
    simp only
    rw [skipSpaces_append hspaces (head?_append_not_space hmore.head _)]
    simp only
    rw [hlast, List.reverse_cons, List.append_assoc, List.singleton_append]
  no_return := by simp [h.no_return, hspaces.return_not_mem, hmore.no_return]

/-- A list is read from its brackets and its items. -/
theorem WritesItems.list {cs opening closing : Text} {items : List Value}
    (h : WritesItems cs items) (hopening : AllSpaces opening) (hclosing : AllSpaces closing) :
    Writes (.char '[' :: (opening ++ (cs ++ (closing ++ [.char ']'])))) (.list items) where
  head := ⟨.char '[', rfl, rfl, by decide, by decide⟩
  read := by
    intro fuel place rest hfuel _
    simp only [List.length_append, List.length_cons, List.length_nil] at hfuel
    obtain ⟨fuel, rfl⟩ := Nat.exists_eq_add_of_le' (show 1 ≤ fuel by omega)
    -- what follows the opening bracket is no closing one, so the list is not taken for empty
    obtain ⟨c, hc, hbegins⟩ := h.head
    have hhead : (cs ++ (closing ++ .char ']' :: rest)).head? = some c := by
      rw [List.head?_append, hc]
      rfl
    obtain ⟨next, hnext⟩ := h.read fuel [] (place + 1 + opening.length) closing rest (by omega)
      hclosing
    refine ⟨next, ?_⟩
    simp only [List.cons_append, List.append_assoc, List.nil_append]
    rw [readValue.eq_def]
    simp only
    rw [skipSpaces_append hopening (head?_append_not_space h.head _)]
    simp only [hhead, Option.some.injEq]
    rw [if_neg hbegins.not_bracket, hnext, List.reverse_nil, List.nil_append]
  no_return := by simp [hopening.return_not_mem, h.no_return, hclosing.return_not_mem]

/-- The characters are read as the fields of an object, up to the brace that closes it. -/
structure WritesFields (cs : Text) (fields : Fields) : Prop where
  head : cs.head? = some (.char '"')
  read : ∀ (fuel : Nat) (done : Fields) (place : Nat) (closing rest : Text),
    2 * cs.length < fuel → AllSpaces closing →
    ∃ next, readFields fuel done place (cs ++ (closing ++ .char '\x7d' :: rest))
      = .ok (.object (done.update fields), next, rest)
  no_return : .char '\r' ∉ cs

/-- A field with its key and the characters of its value. -/
def fieldChars (key cs : Text) : Text :=
  .char '"' :: (afterQuote key ++ .char ':' :: .char ' ' :: cs)

/-- What is done after a field: the object ends, or another field follows. -/
def afterField (fuel : Nat) (fields : Fields) (place : Nat) : Text → Except Stop (Read Value)
  | .char '\x7d' :: rest => .ok (.object fields, place + 1, rest)
  | .char ',' :: rest =>
    readFields fuel fields (skipSpaces (place + 1) rest).1 (skipSpaces (place + 1) rest).2
  | _ => .error (.at .comma place)

/-- A field is read up to what follows it. -/
theorem Writes.readFields_fieldChars {cs more : Text} {v : Value} (h : Writes cs v)
    (key : Text) (hmore : EndsNumber (numberChars more)) (done : Fields) (place : Nat) {fuel : Nat}
    (hfuel : 2 * cs.length < fuel + 1) :
    ∃ next, readFields (fuel + 1) done place (fieldChars key cs ++ more)
      = afterField fuel (done.put key v) (skipSpaces next more).1 (skipSpaces next more).2 := by
  obtain ⟨colon, hcolon⟩ := readText_afterQuote key place (.char ':' :: .char ' ' :: (cs ++ more))
  obtain ⟨next, hnext⟩ := h.read fuel (colon + 1 + 1) more (Nat.le_of_lt_succ hfuel) hmore
  have hspace : skipSpaces (colon + 1) (.char ' ' :: (cs ++ more))
      = (colon + 1 + 1, cs ++ more) := by
    rw [skipSpaces, if_pos (by rfl)]
    exact skipSpaces_of_head (head?_append_not_space h.head _) _
  refine ⟨next, ?_⟩
  simp only [fieldChars, List.cons_append, List.append_assoc]
  rw [readFields]
  simp only [hcolon, bind, Except.bind]
  rw [skipSpaces_of_head (by rintro _ ⟨⟩; rfl)]
  simp only [hspace, hnext]
  rfl

/-- One field is a list of fields. -/
theorem Writes.field {cs : Text} {v : Value} (h : Writes cs v) (key : Text) :
    WritesFields (fieldChars key cs) [(key, v)] where
  head := rfl
  read := by
    intro fuel done place closing rest hfuel hclosing
    simp only [fieldChars, List.length_append, List.length_cons] at hfuel
    obtain ⟨fuel, rfl⟩ := Nat.exists_eq_add_of_le' (Nat.one_le_of_lt hfuel)
    obtain ⟨next, hnext⟩ := h.readFields_fieldChars key
      (endsNumber_spaces_append hclosing (c := .char '\x7d') (by simp) rest) done place
      (show 2 * cs.length < fuel + 1 by omega)
    refine ⟨next + closing.length + 1, ?_⟩
    rw [hnext, skipSpaces_append hclosing (by rintro c ⟨⟩; rfl)]
    rfl
  no_return := by simp [fieldChars, return_not_mem_afterQuote, h.no_return]

/-- A field, a comma and further fields are fields. -/
theorem Writes.field_append {cs spaces more : Text} {v : Value} {fields : Fields}
    (h : Writes cs v) (key : Text) (hspaces : AllSpaces spaces)
    (hmore : WritesFields more fields) :
    WritesFields (fieldChars key cs ++ .char ',' :: (spaces ++ more)) ((key, v) :: fields) where
  head := rfl
  read := by
    intro fuel done place closing rest hfuel hclosing
    simp only [fieldChars, List.length_append, List.length_cons] at hfuel
    obtain ⟨fuel, rfl⟩ := Nat.exists_eq_add_of_le' (Nat.one_le_of_lt hfuel)
    obtain ⟨next, hnext⟩ := h.readFields_fieldChars key
      (endsNumber_cons (c := .char ',') (by simp)
        (spaces ++ (more ++ (closing ++ .char '\x7d' :: rest)))) done
      place (show 2 * cs.length < fuel + 1 by omega)
    obtain ⟨last, hlast⟩ := hmore.read fuel (done.put key v) (next + 1 + spaces.length) closing rest
      (by omega) hclosing
    have hhead : ∀ c ∈ (more ++ (closing ++ .char '\x7d' :: rest)).head?, isSpace c = false := by
      rw [List.head?_append, hmore.head]
      rintro _ ⟨⟩
      rfl
    refine ⟨last, ?_⟩
    rw [List.append_assoc, List.cons_append, List.append_assoc, hnext,
      skipSpaces_of_head (by rintro _ ⟨⟩; rfl), afterField, skipSpaces_append hspaces hhead]
    exact hlast
  no_return := by
    simp [fieldChars, return_not_mem_afterQuote, h.no_return, hspaces.return_not_mem,
      hmore.no_return]

/-- An object is read from its braces and its fields. -/
theorem WritesFields.object {cs opening closing : Text} {fields : Fields}
    (h : WritesFields cs fields) (hopening : AllSpaces opening) (hclosing : AllSpaces closing) :
    Writes (.char '\x7b' :: (opening ++ (cs ++ (closing ++ [.char '\x7d']))))
      (.object (Fields.update [] fields)) where
  head := ⟨.char '\x7b', rfl, rfl, by decide, by decide⟩
  read := by
    intro fuel place rest hfuel _
    simp only [List.length_append, List.length_cons, List.length_nil] at hfuel
    obtain ⟨fuel, rfl⟩ := Nat.exists_eq_add_of_le' (show 1 ≤ fuel by omega)
    have hhead : (cs ++ (closing ++ .char '\x7d' :: rest)).head? = some (.char '"') := by
      rw [List.head?_append, h.head]
      rfl
    obtain ⟨next, hnext⟩ := h.read fuel [] (place + 1 + opening.length) closing rest (by omega)
      hclosing
    refine ⟨next, ?_⟩
    simp only [List.cons_append, List.append_assoc, List.nil_append]
    rw [readValue.eq_def]
    simp only
    rw [skipSpaces_append hopening (by rw [hhead]; rintro _ ⟨⟩; rfl)]
    simp only [hhead, Option.some.injEq]
    rw [if_neg (by decide), hnext]
  no_return := by simp [hopening.return_not_mem, h.no_return, hclosing.return_not_mem]

theorem writes_list_nil : Writes [.char '[', .char ']'] (.list []) where
  head := ⟨.char '[', rfl, rfl, by decide, by decide⟩
  read := by
    intro fuel place rest hfuel _
    obtain ⟨fuel, rfl⟩ := exists_fuel_eq (List.cons_ne_nil _ _) hfuel
    exact ⟨place + 1 + 1, rfl⟩
  no_return := by decide

theorem writes_object_nil : Writes [.char '\x7b', .char '\x7d'] (.object []) where
  head := ⟨.char '\x7b', rfl, rfl, by decide, by decide⟩
  read := by
    intro fuel place rest hfuel _
    obtain ⟨fuel, rfl⟩ := exists_fuel_eq (List.cons_ne_nil _ _) hfuel
    exact ⟨place + 1 + 1, rfl⟩
  no_return := by decide

/-! ## Whole documents -/

variable {layout : Layout}

theorem writeAt_list (level : Nat) (v : Value) (items : List Value) :
    writeAt layout level (.list (v :: items))
      = .char '[' :: (layout.opening level ++ (List.intercalate (layout.between level)
          (writeItems layout (level + 1) (v :: items)) ++
            (layout.closing level ++ [.char ']']))) := by
  have hopen : ofString "[" = [.char '['] := rfl
  have hclose : ofString "]" = [.char ']'] := rfl
  rw [writeAt, hopen, hclose]
  · simp only [List.cons_append, List.nil_append, List.append_assoc]
  · exact List.cons_ne_nil _ _

theorem writeAt_object (level : Nat) (kv : Text × Value) (fields : Fields) :
    writeAt layout level (.object (kv :: fields))
      = .char '\x7b' :: (layout.opening level ++ (List.intercalate (layout.between level)
          (writeFields layout (level + 1) (kv :: fields)) ++
            (layout.closing level ++ [.char '\x7d']))) := by
  have hopen : ofString "\x7b" = [.char '\x7b'] := rfl
  have hclose : ofString "\x7d" = [.char '\x7d'] := rfl
  rw [writeAt, hopen, hclose]
  · simp only [List.cons_append, List.nil_append, List.append_assoc]
  · exact List.cons_ne_nil _ _

theorem writtenField_eq (key cs : Text) :
    writtenText key ++ ": " ++ cs = fieldChars key cs := by
  have hcolon : ofString ": " = [.char ':', .char ' '] := rfl
  simp [writtenText_eq, hcolon, fieldChars]

mutual

/-- Every value that can be written is read back from its text, at every depth. -/
theorem writes_writeAt (hlayout : layout.Spaced) : ∀ (level : Nat) (v : Value),
    isWritable v = true → Distinct v → Writes (writeAt layout level v) v
  | _, .null, _, _ => by rw [writeAt]; exact writes_name (by simp [names])
  | _, .bool true, _, _ => by rw [writeAt]; exact writes_name (by simp [names])
  | _, .bool false, _, _ => by rw [writeAt]; exact writes_name (by simp [names])
  | _, .int _, hwritable, _ => writes_int hwritable
  | _, .float x, _, _ => writes_float x
  | _, .text s, _, _ => writes_text s
  | _, .list [], _, _ => by rw [writeAt]; exact writes_list_nil
  | level, .list (v :: items), hwritable, hdistinct => by
    have h := writesItems_writeItems hlayout level (level + 1) (v :: items) hwritable hdistinct
      (List.cons_ne_nil _ _)
    rw [writeAt_list]
    exact h.list (hlayout.opening level) (hlayout.closing level)
  | _, .object [], _, _ => by rw [writeAt]; exact writes_object_nil
  | level, .object (kv :: fields), hwritable, hdistinct => by
    have h := writesFields_writeFields hlayout level (level + 1) (kv :: fields) hwritable
      hdistinct.2 (List.cons_ne_nil _ _)
    rw [writeAt_object]
    have hobject := h.object (hlayout.opening level) (hlayout.closing level)
    rwa [Fields.update_nil_of_nodup hdistinct.1] at hobject

theorem writesItems_writeItems (hlayout : layout.Spaced) (outer : Nat) :
    ∀ (level : Nat) (items : List Value),
      areWritable items = true → AllDistinct items → items ≠ [] →
        WritesItems (List.intercalate (layout.between outer) (writeItems layout level items)) items
  | level, [v], hwritable, hdistinct, _ => by
    have hv := writes_writeAt hlayout level v (Bool.and_eq_true_iff.mp hwritable).1 hdistinct.1
    rw [writeItems, writeItems, List.intercalate_singleton]
    exact hv.item
  | level, v :: w :: items, hwritable, hdistinct, _ => by
    obtain ⟨spaces, hbetween, hspaces⟩ := hlayout.between outer
    obtain ⟨hfirst, hrest⟩ := Bool.and_eq_true_iff.mp hwritable
    have hv := writes_writeAt hlayout level v hfirst hdistinct.1
    have hmore := writesItems_writeItems hlayout outer level (w :: items) hrest hdistinct.2
      (List.cons_ne_nil _ _)
    rw [writeItems, writeItems, List.intercalate_cons_cons, hbetween, List.append_assoc,
      List.cons_append, ← hbetween, ← writeItems]
    exact hv.item_append hspaces hmore

theorem writesFields_writeFields (hlayout : layout.Spaced) (outer : Nat) :
    ∀ (level : Nat) (fields : List (Text × Value)),
      haveWritableValues fields = true → FieldsDistinct fields → fields ≠ [] →
        WritesFields (List.intercalate (layout.between outer) (writeFields layout level fields))
          fields
  | level, [(key, v)], hwritable, hdistinct, _ => by
    have hv := writes_writeAt hlayout level v (Bool.and_eq_true_iff.mp hwritable).1 hdistinct.1
    rw [writeFields, writeFields, List.intercalate_singleton,
      writtenField_eq]
    exact hv.field key
  | level, (key, v) :: (other, w) :: fields, hwritable, hdistinct, _ => by
    obtain ⟨spaces, hbetween, hspaces⟩ := hlayout.between outer
    obtain ⟨hfirst, hrest⟩ := Bool.and_eq_true_iff.mp hwritable
    have hv := writes_writeAt hlayout level v hfirst hdistinct.1
    have hmore := writesFields_writeFields hlayout outer level ((other, w) :: fields) hrest
      hdistinct.2 (List.cons_ne_nil _ _)
    rw [writeFields, writeFields, List.intercalate_cons_cons, hbetween, List.append_assoc,
      List.cons_append, ← hbetween, ← writeFields,
      writtenField_eq]
    exact hv.field_append key hspaces hmore

end

/-- **A document that has been written is read back.** -/
theorem readDocument_write (hlayout : layout.Spaced) {v : Value} (hwritable : isWritable v = true)
    (hdistinct : Distinct v) : readDocument (write layout v) = .ok v := by
  have h := writes_writeAt hlayout 0 v hwritable hdistinct
  obtain ⟨c, hc, hbegins⟩ := h.head
  have hmark : (writeAt layout 0 v).head? ≠ some (.char (Char.ofNat 0xFEFF)) := fun hmark =>
    hbegins.not_mark (Option.some.inj (hc.symm.trans hmark))
  have hstart : skipSpaces 0 (writeAt layout 0 v) = (0, (writeAt layout 0 v)) :=
    skipSpaces_of_head (fun d hd => by
      obtain rfl : c = d := Option.some.inj (hc.symm.trans hd)
      exact hbegins.not_space) 0
  obtain ⟨next, hnext⟩ := h.read (2 * (writeAt layout 0 v).length + 2) 0 []
    (by omega) nofun
  rw [List.append_nil] at hnext
  unfold readDocument write readWhole
  simp only
  rw [if_neg hmark, hstart]
  simp only [hnext, bind, Except.bind, skipSpaces, List.isEmpty_nil, if_true]

/-- No carriage return is written. -/
theorem return_not_mem_write (hlayout : layout.Spaced) {v : Value}
    (hwritable : isWritable v = true) (hdistinct : Distinct v) :
    .char '\r' ∉ write layout v :=
  (writes_writeAt hlayout 0 v hwritable hdistinct).no_return

end Launcher.Json
