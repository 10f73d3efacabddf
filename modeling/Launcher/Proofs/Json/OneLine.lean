import Launcher.Proofs.Json.WrittenValue

/-!
# Documents on one line

A document written on one line holds no control character: those of a text are written by letter or
by number, and nothing that stands between the parts is one. So the document is a line, and whatever
takes control sequences out of a text takes nothing out of it.

> **`visible_write`** no control character is written on one line
-/

namespace Launcher.Json

open Launcher.Decimal Launcher.Text

/-- None of the characters is a control character. -/
def Visible (cs : Text) : Prop := ∀ c ∈ cs, 32 ≤ c.toNat

variable {cs ds : Text}

@[simp] theorem visible_nil : Visible [] := nofun

@[simp] theorem visible_cons {c : Code} : Visible (c :: cs) ↔ 32 ≤ c.toNat ∧ Visible cs :=
  List.forall_mem_cons

@[simp] theorem visible_append : Visible (cs ++ ds) ↔ Visible cs ∧ Visible ds :=
  List.forall_mem_append

/-- Pieces joined by visible codes are visible when each of them is. -/
theorem visible_intercalate (hbetween : Visible cs) : ∀ {pieces : List Text},
    (∀ piece ∈ pieces, Visible piece) → Visible (cs.intercalate pieces)
  | [], _ => visible_nil
  | [piece], h => by
    rw [List.intercalate_singleton]
    exact h piece List.mem_cons_self
  | piece :: next :: rest, h => by
    obtain ⟨hpiece, hrest⟩ := List.forall_mem_cons.mp h
    rw [List.intercalate_cons_cons, visible_append, visible_append]
    exact ⟨⟨hpiece, hbetween⟩, visible_intercalate hbetween hrest⟩

/-! ## Values without parts -/

/-- The characters of numbers are visible. -/
theorem le_toNat_of_isNumberChar {c : Char} (h : isNumberChar c = true) : 32 ≤ c.toNat := by
  simp only [isNumberChar, Bool.or_eq_true, beq_iff_eq] at h
  rcases h with ((((h | rfl) | rfl) | rfl) | rfl) | rfl
  · have hall : AllDigits [c] := by simpa [AllDigits] using h
    exact (hall.lt_toNat c List.mem_cons_self).le
  all_goals decide

theorem Spelling.WellFormed.visible {n : Spelling} (h : n.WellFormed) :
    Visible (ofChars n.chars) := by
  intro c hc
  obtain ⟨d, hd, rfl⟩ := List.mem_map.mp hc
  exact le_toNat_of_isNumberChar (h.isNumberChar_of_mem d hd)

theorem visible_int (n : Int) : Visible (toString n : String) := by
  rw [ofString, ← chars_spellingOfInt]
  exact (wellFormed_spellingOfInt n).visible

theorem visible_float (x : Float) : Visible (documentStyle.write x) := by
  rw [NumberStyle.write, ofString_ofList]
  cases h : Double.ofFloat x with
  | notANumber =>
    have hchars : documentStyle.chars x = "NaN".toList := by rw [NumberStyle.chars, h]; rfl
    rw [hchars]
    simp [Code.toNat]
  | infinite negative =>
    cases negative with
    | true =>
      have hchars : documentStyle.chars x = "-Infinity".toList := by rw [NumberStyle.chars, h]; rfl
      rw [hchars]
      simp [Code.toNat]
    | false =>
      have hchars : documentStyle.chars x = "Infinity".toList := by rw [NumberStyle.chars, h]; rfl
      rw [hchars]
      simp [Code.toNat]
  | finite negative significand exponent =>
    obtain ⟨n, hn, -, -, hchars⟩ := exists_spelling_float h documentStyle
    rw [← hchars]
    exact hn.visible

/-- A control character is written by number, which is visible. -/
theorem visible_controlDigits : ∀ n < 32, Visible (controlDigits n) := by
  have hall : ∀ n < 32, (controlDigits n).all (fun c => decide (32 ≤ c.toNat)) = true := by decide
  intro n hn c hc
  exact of_decide_eq_true (List.all_eq_true.mp (hall n hn) c hc)

/-- Each code is written with visible ones. -/
theorem visible_writtenCode (c : Code) : Visible (writtenCode c) := by
  have hletter : ∀ {d : Code}, 32 ≤ d.toNat → Visible [.char backslash, d] := fun hd => by
    simp [hd, show 32 ≤ (Code.char backslash).toNat by decide]
  unfold writtenCode
  split_ifs with hself hline hreturn htab hback hfeed hcontrol
  · simp only [Bool.or_eq_true, decide_eq_true_eq] at hself
    rcases hself with rfl | rfl
    · exact hletter (by decide)
    · exact hletter (by decide)
  · exact hletter (by decide)
  · exact hletter (by decide)
  · exact hletter (by decide)
  · exact hletter (by decide)
  · exact hletter (by decide)
  · -- other control characters are written by number
    rw [(hexNumber?_controlDigits _ hcontrol).1, visible_cons, visible_cons]
    exact ⟨by decide, by decide, visible_controlDigits c.toNat hcontrol⟩
  · simpa using hcontrol

/-- A text is written with visible codes, whatever it holds. -/
theorem visible_text (t : Text) : Visible (writtenText t) := by
  have hcodes : Visible (t.flatMap writtenCode) := by
    intro c hc
    obtain ⟨d, -, hmem⟩ := List.mem_flatMap.mp hc
    exact visible_writtenCode d c hmem
  simp [writtenText, hcodes, show 32 ≤ (Code.char doubleQuote).toNat by decide]

/-! ## Values -/

/-- What stands between two parts on one line. -/
theorem visible_between (level : Nat) : Visible (Layout.oneLine.between level) := by
  simp [Layout.oneLine, ofString, Code.toNat]

/-- On one line nothing stands between the brackets and the parts. -/
theorem visible_bracketed {opening closing : Code} {level : Nat} (hopening : 32 ≤ opening.toNat)
    (h : Visible cs) (hclosing : 32 ≤ closing.toNat) :
    Visible (opening :: (Layout.oneLine.opening level ++ (cs ++
      (Layout.oneLine.closing level ++ [closing])))) := by
  simp [Layout.oneLine, hopening, h, hclosing]

mutual

/-- Whatever is written on one line is visible, at every depth. -/
theorem visible_writeAt : ∀ (level : Nat) (v : Value), Visible (writeAt .oneLine level v)
  | _, .null => by rw [writeAt]; simp [ofString, Code.toNat]
  | _, .bool true => by rw [writeAt]; simp [ofString, Code.toNat]
  | _, .bool false => by rw [writeAt]; simp [ofString, Code.toNat]
  | _, .int n => visible_int n
  | _, .float x => visible_float x
  | _, .text s => visible_text s
  | _, .list [] => by rw [writeAt]; simp [ofString, Code.toNat]
  | level, .list (v :: items) => by
    have hitems := visible_intercalate (visible_between level)
      (visible_writeItems (level + 1) (v :: items))
    rw [writeAt_list]
    exact visible_bracketed (by decide) hitems (by decide)
  | _, .object [] => by rw [writeAt]; simp [ofString, Code.toNat]
  | level, .object (kv :: fields) => by
    have hfields := visible_intercalate (visible_between level)
      (visible_writeFields (level + 1) (kv :: fields))
    rw [writeAt_object]
    exact visible_bracketed (by decide) hfields (by decide)

theorem visible_writeItems : ∀ (level : Nat) (items : List Value),
    ∀ s ∈ writeItems .oneLine level items, Visible s
  | _, [] => by rw [writeItems]; exact nofun
  | level, v :: rest => by
    rw [writeItems]
    exact List.forall_mem_cons.mpr ⟨visible_writeAt level v, visible_writeItems level rest⟩

theorem visible_writeFields : ∀ (level : Nat) (fields : List (Text × Value)),
    ∀ s ∈ writeFields .oneLine level fields, Visible s
  | _, [] => by rw [writeFields]; exact nofun
  | level, (key, v) :: rest => by
    have hfield : Visible (writtenText key ++ ": " ++ writeAt .oneLine level v) := by
      simp [visible_text, visible_writeAt, ofString, Code.toNat]
    rw [writeFields]
    exact List.forall_mem_cons.mpr ⟨hfield, visible_writeFields level rest⟩

end

/-- **No control character is written on one line.** -/
theorem visible_write (v : Value) : Visible (write .oneLine v) := visible_writeAt 0 v

end Launcher.Json
