/-!
# Texts

A text is a list of codes. A code is a character, or one half of a surrogate pair that stands alone:
documents can write such a half by number, and an octet of a command line or of the name of a file
that is no part of a character is held as one. Halves are compared, searched and stored like
characters, but they have no octets, so a text that holds one can be neither written to a file nor
printed. `Text.encode` gives the characters of a text or tells where its first halves stand.

A property of codes is kept as the ascending list of the ranges that have it, both ends included.
-/

namespace Launcher

/-- A character, or half of a surrogate pair by its place among the 2048 halves. -/
inductive Code where
  | char (c : Char)
  | half (n : Fin 2048)
deriving DecidableEq, Repr, Inhabited

/-- What is typed, shown, searched and stored: codes in order. -/
abbrev Text := List Code

namespace Code

instance : Coe Char Code := ⟨.char⟩

/-- The number of a code; those of the halves lie from 0xD800 on. -/
def toNat : Code → Nat
  | .char c => c.toNat
  | .half n => 0xD800 + n

/-- The code with a number. -/
def ofNat (n : Nat) : Code :=
  if h : 0xD800 ≤ n ∧ n < 0xE000 then .half ⟨n - 0xD800, by omega⟩ else .char (Char.ofNat n)

/-- The code is half of a pair. -/
def isHalf : Code → Bool
  | .char _ => false
  | .half _ => true

end Code

namespace Text

/-- The text of some characters. -/
def ofChars (cs : List Char) : Text := cs.map Code.char

/-- The text of a string of characters. -/
def ofString (s : String) : Text := ofChars s.toList

instance : Coe String Text := ⟨ofString⟩

instance : LawfulBEq Text := inferInstanceAs (LawfulBEq (List Code))

/-- The text of the first half alone, which a document writes as `\ud800`. -/
def loneHalf : Text := [.half 0]

/-- Halves of pairs that stand together in a text: the first of them, where they begin, and where
they end. -/
structure Halves where
  first : Fin 2048
  start : Nat
  stop : Nat
deriving DecidableEq, Repr

/-- The characters of codes that stand at `place`, or the first halves among them. -/
def charsFrom (place : Nat) : Text → Except Halves (List Char)
  | [] => .ok []
  | .char c :: rest => (charsFrom (place + 1) rest).map (c :: ·)
  | .half n :: rest => .error ⟨n, place, place + 1 + (rest.takeWhile Code.isHalf).length⟩

/-- The characters of a text, or the first halves that keep it from being written. -/
def encode (t : Text) : Except Halves String := (charsFrom 0 t).map String.ofList

/-- The text holds half of a pair. -/
def hasHalf (t : Text) : Bool := t.any Code.isHalf

@[simp] theorem ofChars_nil : ofChars [] = [] := rfl

@[simp] theorem ofChars_cons (c : Char) (cs : List Char) :
    ofChars (c :: cs) = .char c :: ofChars cs := rfl

@[simp] theorem ofChars_append (cs ds : List Char) :
    ofChars (cs ++ ds) = ofChars cs ++ ofChars ds := List.map_append

@[simp] theorem length_ofChars (cs : List Char) : (ofChars cs).length = cs.length :=
  List.length_map _

@[simp] theorem char_mem_ofChars {c : Char} {cs : List Char} : .char c ∈ ofChars cs ↔ c ∈ cs := by
  simp [ofChars]

/-- Characters are the same when their texts are. -/
@[simp] theorem ofChars_inj {cs ds : List Char} : ofChars cs = ofChars ds ↔ cs = ds :=
  List.map_inj_right fun _ _ h => Code.char.inj h

/-- Strings are the same when their texts are. -/
@[simp] theorem ofString_inj {s t : String} : ofString s = ofString t ↔ s = t := by
  rw [ofString, ofString, ofChars_inj, String.toList_inj]

@[simp] theorem ofString_empty : ofString "" = [] := rfl

@[simp] theorem ofString_ofList (cs : List Char) : ofString (String.ofList cs) = ofChars cs := by
  rw [ofString, String.toList_ofList]

@[simp] theorem ofString_append (s t : String) :
    ofString (s ++ t) = ofString s ++ ofString t := by
  simp [ofString]

/-- Characters can be written. -/
@[simp] theorem charsFrom_ofChars (place : Nat) (cs : List Char) :
    charsFrom place (ofChars cs) = .ok cs := by
  induction cs generalizing place with
  | nil => rfl
  | cons c cs ih => simp [charsFrom, ih, Except.map]

/-- A string has its characters back. -/
@[simp] theorem encode_ofString (s : String) : encode (ofString s) = .ok s := by
  simp [encode, ofString, Except.map]

/-- What can be written is the text of what is written. -/
theorem charsFrom_eq_ok_iff {place : Nat} {t : Text} {cs : List Char} :
    charsFrom place t = .ok cs ↔ t = ofChars cs := by
  refine ⟨fun h => ?_, fun h => h ▸ charsFrom_ofChars place cs⟩
  induction t generalizing place cs with
  | nil => cases h; rfl
  | cons c t ih =>
    cases c with
    | half n => cases h
    | char c =>
      simp only [charsFrom] at h
      cases hrest : charsFrom (place + 1) t with
      | error halves => rw [hrest] at h; cases h
      | ok ds =>
        rw [hrest] at h
        cases h
        rw [ih hrest, ofChars_cons]

/-- A text can be written as a string when it is the text of that string. -/
theorem encode_eq_ok_iff {t : Text} {s : String} : encode t = .ok s ↔ t = ofString s := by
  constructor
  · intro h
    rw [encode] at h
    cases hcs : charsFrom 0 t with
    | error halves => rw [hcs] at h; cases h
    | ok cs =>
      rw [hcs] at h
      cases h
      rw [charsFrom_eq_ok_iff.mp hcs, ofString, String.toList_ofList]
  · intro h
    rw [h, encode_ofString]

/-- A text holds no half if none of its codes is one. -/
theorem hasHalf_eq_false_iff {t : Text} : hasHalf t = false ↔ ∀ c ∈ t, c.isHalf = false := by
  simp [hasHalf]

@[simp] theorem hasHalf_nil : hasHalf [] = false := rfl

@[simp] theorem hasHalf_cons (c : Code) (t : Text) :
    hasHalf (c :: t) = (c.isHalf || hasHalf t) := rfl

/-- Two texts hold half of a pair when one of them does. -/
@[simp] theorem hasHalf_append (s t : Text) : hasHalf (s ++ t) = (hasHalf s || hasHalf t) :=
  List.any_append

@[simp] theorem hasHalf_ofChars (cs : List Char) : hasHalf (ofChars cs) = false := by
  simp [hasHalf, ofChars, Code.isHalf]

@[simp] theorem hasHalf_ofString (s : String) : hasHalf (ofString s) = false := hasHalf_ofChars _

/-- Exactly the texts without halves can be written. -/
theorem exists_encode_iff {t : Text} : (∃ s, encode t = .ok s) ↔ hasHalf t = false := by
  simp only [encode_eq_ok_iff]
  constructor
  · rintro ⟨s, rfl⟩
    exact hasHalf_ofString s
  · intro h
    induction t with
    | nil => exact ⟨"", rfl⟩
    | cons c t ih =>
      cases c with
      | half n => cases h
      | char c =>
        obtain ⟨s, rfl⟩ := ih h
        exact ⟨String.ofList (c :: s.toList), by simp [ofString]⟩

/-- A text with halves cannot be written. -/
theorem exists_encode_error {t : Text} (h : hasHalf t = true) :
    ∃ stuck, encode t = .error stuck := by
  rcases hencode : encode t with stuck | s
  · exact ⟨stuck, rfl⟩
  · rw [exists_encode_iff.mp ⟨s, hencode⟩] at h
    cases h

/-- Some range of an ascending list holds `n`. -/
def inRanges (n : Nat) : List (Nat × Nat) → Bool
  | [] => false
  | (low, high) :: rest => low ≤ n && (n ≤ high || inRanges n rest)

end Text

end Launcher
