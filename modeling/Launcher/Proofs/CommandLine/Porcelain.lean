import Launcher.Proofs.CommandLine.Search
import Launcher.Proofs.Decimal.Digits
import Launcher.Proofs.Terminal.Colours

/-!
# Reading rows back

What is written for other programs can be taken apart again: at its line ends into rows, a row at
its tabs into four fields, and a field by reading what stands for the code behind a backslash. What
comes back is the number of the row, the score, the title and the subtitle, except for one thing:
lines are written without sequences that switch colours, and these are not among what a field writes
in another way. So a title comes back without them, and rows come back as they are exactly if no
title and no subtitle holds any.

Rows are written exactly if no title and no subtitle holds half of a surrogate pair: nothing else
can keep a row from being written, and no sequence has a half in it to be taken out.

> `readField_field` a field reads back
> `ReadsBack.iff_alike` only one text can be read out of what is written
> `hasHalf_porcelainText` the results that can be written
> **`writeResults_reads_back`** what the rows of any results read back as
-/

namespace Launcher.CommandLine

open Launcher.Decimal Launcher.Terminal Launcher.Text

/-! ## Fields -/

/-- The code that a letter behind a backslash stands for. -/
def escaped? : Code → Option Code
  | .char '\\' => some '\\'
  | .char 't' => some '\t'
  | .char 'n' => some '\n'
  | .char 'r' => some '\r'
  | _ => none

/-- A field read from left to right. -/
def readField : Text → Option Text
  | [] => some []
  | [.char '\\'] => none
  | .char '\\' :: letter :: rest => (escaped? letter).bind fun c => (readField rest).map (c :: ·)
  | c :: rest => (readField rest).map (c :: ·)

/-- A code that is no backslash is read as itself. -/
theorem readField_cons {c : Code} (h : c ≠ .char '\\') (rest : Text) :
    readField (c :: rest) = (readField rest).map (c :: ·) := by
  conv_lhs => unfold readField
  split <;> simp_all

/-- A code is written as it is, unless it would end a field, a row or the writing of another code.
-/
theorem fieldCode_cases (c : Code) :
    (fieldCode c = [c] ∧ c ≠ .char '\\' ∧ c ≠ .char '\t' ∧ c ≠ .char '\n' ∧ c ≠ .char '\r') ∨
      ∃ letter, fieldCode c = [.char '\\', letter] ∧ escaped? letter = some c := by
  unfold fieldCode
  split_ifs with hslash htab hline hreturn
  · subst hslash
    exact Or.inr ⟨.char '\\', rfl, rfl⟩
  · subst htab
    exact Or.inr ⟨.char 't', rfl, rfl⟩
  · subst hline
    exact Or.inr ⟨.char 'n', rfl, rfl⟩
  · subst hreturn
    exact Or.inr ⟨.char 'r', rfl, rfl⟩
  · exact Or.inl ⟨rfl, hslash, htab, hline, hreturn⟩

/-- A field reads back. -/
theorem readField_field (t : Text) : readField (field t) = some t := by
  induction t with
  | nil => rfl
  | cons c t ih =>
    unfold field at ih ⊢
    rw [List.flatMap_cons]
    rcases fieldCode_cases c with ⟨hsame, hslash, -⟩ | ⟨letter, hspell, hletter⟩
    · rw [hsame, List.singleton_append, readField_cons hslash, ih]
      rfl
    · rw [hspell]
      show (escaped? letter).bind (fun c => (readField (t.flatMap fieldCode)).map (c :: ·)) = _
      rw [hletter, ih]
      rfl

/-- No letter behind a backslash is a tab, a line end, an escape character or half of a pair. -/
theorem ne_of_escaped? {letter c : Code} (h : escaped? letter = some c) :
    letter ≠ .char '\t' ∧ letter ≠ .char '\n' ∧ letter ≠ .char '\x1b' := by
  refine ⟨?_, ?_, ?_⟩
  · rintro rfl
    cases h
  · rintro rfl
    cases h
  · rintro rfl
    cases h

/-- No tab and no line end is left in a field. -/
theorem not_mem_field (t : Text) : .char '\t' ∉ field t ∧ .char '\n' ∉ field t := by
  have hfield : ∀ c ∈ field t, c ≠ .char '\t' ∧ c ≠ .char '\n' := by
    intro c hc
    obtain ⟨d, -, hc⟩ := List.mem_flatMap.mp hc
    rcases fieldCode_cases d with ⟨hsame, -, htab, hline, -⟩ | ⟨letter, hspell, hletter⟩
    · rw [hsame, List.mem_singleton] at hc
      exact hc ▸ ⟨htab, hline⟩
    · rw [hspell, List.mem_pair] at hc
      rcases hc with rfl | rfl
      · exact ⟨by decide, by decide⟩
      · exact ⟨(ne_of_escaped? hletter).1, (ne_of_escaped? hletter).2.1⟩
  exact ⟨fun h => (hfield _ h).1 rfl, fun h => (hfield _ h).2 rfl⟩

/-- A field holds half of a pair if its text does. -/
theorem hasHalf_field (t : Text) : hasHalf (field t) = hasHalf t := by
  have hcode : ∀ c, hasHalf (fieldCode c) = c.isHalf := by
    intro c
    unfold fieldCode
    split_ifs with hslash htab hline hreturn
    · rw [hslash]; rfl
    · rw [htab]; rfl
    · rw [hline]; rfl
    · rw [hreturn]; rfl
    · exact Bool.or_false _
  induction t with
  | nil => rfl
  | cons c t ih =>
    unfold field at ih ⊢
    rw [List.flatMap_cons, hasHalf_append, hcode, ih, hasHalf_cons]

/-- A field is written of the codes of a sequence as they are. -/
theorem keepsColours_fieldCode : KeepsColours fieldCode where
  same c hc := by
    rcases fieldCode_cases c with ⟨hsame, -⟩ | ⟨letter, -, hletter⟩
    · exact hsame
    · -- none of the four codes that are written in another way stands in a sequence
      unfold escaped? at hletter
      split at hletter <;> cases hletter <;> cases hc
  other c hc := by
    rcases fieldCode_cases c with ⟨hsame, -⟩ | ⟨letter, hspell, hletter⟩
    · exact ⟨c, [], hsame, hc, List.not_mem_nil⟩
    · refine ⟨.char '\\', [letter], hspell, rfl, ?_⟩
      rw [List.mem_singleton]
      exact (ne_of_escaped? hletter).2.2.symm

/-! ## Numbers in a row -/

/-- The character can stand in the number of a row or in a score. -/
def isNumeral (c : Char) : Bool := isAsciiDigit c || "-.infa".toList.contains c

/-- The text of a number. -/
def IsNumeralText (s : String) : Prop := ∀ c ∈ s.toList, isNumeral c = true

theorem isNumeral_of_allDigits {cs : List Char} (h : AllDigits cs) : ∀ c ∈ cs, isNumeral c = true :=
  fun c hc => by rw [isNumeral, h c hc]; rfl

/-- The number of a row. -/
theorem isNumeralText_toString (n : Nat) : IsNumeralText (toString n) := by
  unfold IsNumeralText
  rw [Nat.toString_eq_repr, Nat.toList_repr]
  exact isNumeral_of_allDigits (allDigits_digitChars n)

theorem isNumeral_of_mem_placedChars {places units : Nat} :
    ∀ c ∈ placedChars places units, isNumeral c = true := by
  intro c hc
  have hall := isNumeral_of_allDigits (allDigits_padStart (allDigits_digitChars units) (places + 1))
  unfold placedChars at hc
  rcases List.mem_append.mp hc with hc | hc
  · exact hall c (List.mem_of_mem_take hc)
  · split_ifs at hc
    · cases hc
    · rcases List.mem_cons.mp hc with rfl | hc
      · rfl
      · exact hall c (List.mem_of_mem_drop hc)

/-- The text of a score. -/
theorem isNumeralText_fixed (places : Nat) (x : Float) : IsNumeralText (fixed places x) := by
  unfold IsNumeralText fixed fixedChars
  rw [String.toList_ofList]
  split
  · exact List.all_eq_true.mp (by decide)
  · next negative _ =>
    cases negative
    · exact List.all_eq_true.mp (by decide)
    · exact List.all_eq_true.mp (by decide)
  · next negative _ _ _ =>
    intro c hc
    rcases List.mem_append.mp hc with hc | hc
    · split_ifs at hc
      · rw [List.mem_singleton.mp hc]
        rfl
      · cases hc
    · exact isNumeral_of_mem_placedChars c hc

/-- Other characters do not stand in the text of a number. -/
theorem IsNumeralText.not_mem {s : String} (h : IsNumeralText s) {c : Char}
    (hc : isNumeral c = false) : .char c ∉ ofString s := by
  intro hmem
  rw [h c (char_mem_ofChars.mp hmem)] at hc
  cases hc

/-! ## Rows -/

/-- The fields of a row. -/
def rowFields (number : Nat) (score : Float) (title subtitle : Text) : List Text :=
  [ofString (toString number), ofString (fixed 3 score), field title, field subtitle]

/-- No tab and no line end is in any field of a row. -/
theorem not_mem_rowFields {number : Nat} {score : Float} {title subtitle : Text} :
    ∀ piece ∈ rowFields number score title subtitle, .char '\t' ∉ piece ∧ .char '\n' ∉ piece := by
  have hnumeral : ∀ {s : String}, IsNumeralText s →
      .char '\t' ∉ ofString s ∧ .char '\n' ∉ ofString s := fun h =>
    ⟨h.not_mem (by decide), h.not_mem (by decide)⟩
  unfold rowFields
  simp only [List.forall_mem_cons, List.not_mem_nil, false_imp_iff, implies_true, and_true]
  exact ⟨hnumeral (isNumeralText_toString _), hnumeral (isNumeralText_fixed _ _), not_mem_field _,
    not_mem_field _⟩

/-- A row is its fields with tabs between them. -/
theorem porcelainRow_eq (number : Nat) (result : Result) :
    porcelainRow number result = joinWith (.char '\t')
      (rowFields number result.score result.title (result.subtitle.getD "-")) := rfl

/-- **The row as it is written**: the row of the title and the subtitle without their sequences. -/
theorem withoutColours_porcelainRow (number : Nat) (result : Result) :
    withoutColours (porcelainRow number result)
      = joinWith (.char '\t') (rowFields number result.score (withoutColours result.title)
          (withoutColours (result.subtitle.getD "-"))) := by
  have hnumeral : ∀ {s : String}, IsNumeralText s → withoutColours (ofString s) = ofString s :=
    fun h => withoutColours_of_no_escape (h.not_mem (by decide))
  rw [porcelainRow_eq, withoutColours_joinWith (by decide)]
  unfold rowFields field
  simp only [List.map_cons, List.map_nil, hnumeral (isNumeralText_toString _),
    hnumeral (isNumeralText_fixed _ _), keepsColours_fieldCode.withoutColours_flatMap]

/-- Taking out colours leaves rows on one line. -/
theorem not_mem_withoutColours_porcelainRow (number : Nat) (result : Result) :
    .char '\n' ∉ withoutColours (porcelainRow number result) := by
  intro h
  rw [withoutColours_porcelainRow] at h
  rcases mem_joinWith h with htab | ⟨piece, hpiece, hline⟩
  · cases htab
  · exact (not_mem_rowFields piece hpiece).2 hline

/-- A row holds half of a pair if its title or its subtitle does. -/
theorem hasHalf_withoutColours_porcelainRow (number : Nat) (result : Result) :
    hasHalf (withoutColours (porcelainRow number result))
      = (hasHalf result.title || hasHalf (result.subtitle.getD "-")) := by
  rw [withoutColours_porcelainRow]
  unfold rowFields
  simp [joinWith, hasHalf_field, hasHalf_withoutColours, Code.isHalf]

/-! ## Reading rows -/

/-- The line is taken apart into the number of its row, the score, and fields that read as the title
and the subtitle, which is a dash if there is none, each of them as it is seen. -/
def RowReads (seen : Text → Text) (number : Nat) (result : Result) (line : Text) : Prop :=
  ∃ title subtitle,
    splitAt (.char '\t') line
        = [ofString (toString number), ofString (fixed 3 result.score), title, subtitle] ∧
      readField title = some (seen result.title) ∧
      readField subtitle = some (seen (result.subtitle.getD "-"))

/-- The text is taken apart into one line for each result, in order, and nothing behind them, and
the lines read as the results, their texts as they are seen. -/
def ReadsBack (seen : Text → Text) (results : List Result) (text : Text) : Prop :=
  ∃ lines, splitAt (.char '\n') text = lines ++ [[]] ∧
    List.Forall₂ (fun row line => RowReads seen row.2 row.1 line) (results.zipIdx 1) lines

/-- A row without colours is read as the fields without colours. -/
theorem rowReads_withoutColours (number : Nat) (result : Result) :
    RowReads withoutColours number result (withoutColours (porcelainRow number result)) := by
  rw [withoutColours_porcelainRow]
  exact ⟨_, _, splitAt_joinWith (fun piece h => (not_mem_rowFields piece h).1)
    (List.cons_ne_nil _ _), readField_field _, readField_field _⟩

/-- The lines as they are written, each with its line end. -/
def porcelainText (results : List Result) : Text :=
  Task.joinLines ((porcelainRows results).map withoutColours)

/-- The text of all rows is read back, but for their colours. -/
theorem readsBack_porcelainText (results : List Result) :
    ReadsBack withoutColours results (porcelainText results) := by
  refine ⟨(porcelainRows results).map withoutColours, ?_, ?_⟩
  · refine splitAt_lines fun line hline => ?_
    obtain ⟨_, hrow, rfl⟩ := List.mem_map.mp hline
    obtain ⟨⟨result, number⟩, -, rfl⟩ := List.mem_map.mp hrow
    exact not_mem_withoutColours_porcelainRow number result
  · unfold porcelainRows
    rw [List.map_map, List.forall₂_map_right_iff, List.forall₂_same]
    intro ⟨result, number⟩ _
    rw [Function.comp_apply]
    exact rowReads_withoutColours number result

/-- Where each two that stand side by side are related, another relation that comes to a property of
the first of them holds throughout if the property does. -/
theorem forall₂_iff_of {α β : Type} {R S : α → β → Prop} {P : α → Prop} {as : List α}
    {bs : List β} (h : List.Forall₂ R as bs) (hiff : ∀ a b, R a b → (S a b ↔ P a)) :
    List.Forall₂ S as bs ↔ ∀ a ∈ as, P a := by
  induction h with
  | nil => simp
  | cons hab _ ih => rw [List.forall₂_cons, List.forall_mem_cons, ih, hiff _ _ hab]

/-- A property of all numbered results is one of all results. -/
theorem forall_mem_zipIdx_iff {results : List Result} {P : Result → Prop} (start : Nat) :
    (∀ row ∈ results.zipIdx start, P row.1) ↔ ∀ result ∈ results, P result := by
  conv_rhs => rw [← List.zipIdx_map_fst start results]
  rw [List.forall_mem_map]

/-- The title and the subtitle are the same in both views. -/
def SeenAlike (seen seen' : Text → Text) (result : Result) : Prop :=
  seen result.title = seen' result.title ∧
    seen (result.subtitle.getD "-") = seen' (result.subtitle.getD "-")

section Views

variable {seen seen' : Text → Text}

/-- A line that reads in one view reads in another exactly if both are alike. -/
theorem RowReads.iff_alike {number : Nat} {result : Result} {line : Text}
    (h : RowReads seen number result line) :
    RowReads seen' number result line ↔ SeenAlike seen seen' result := by
  obtain ⟨title, subtitle, hsplit, htitle, hsubtitle⟩ := h
  constructor
  · -- a line is taken apart in one way only, and so is a field
    rintro ⟨title', subtitle', hsplit', htitle', hsubtitle'⟩
    obtain ⟨rfl, rfl⟩ : title = title' ∧ subtitle = subtitle' := by
      simpa using hsplit.symm.trans hsplit'
    rw [htitle] at htitle'
    rw [hsubtitle] at hsubtitle'
    exact ⟨Option.some.inj htitle', Option.some.inj hsubtitle'⟩
  · intro halike
    exact ⟨title, subtitle, hsplit, halike.1 ▸ htitle, halike.2 ▸ hsubtitle⟩

/-- **Only one text is read**: where results read back in one view, they do so in another exactly if
both are alike on each of them. -/
theorem ReadsBack.iff_alike {results : List Result} {text : Text}
    (h : ReadsBack seen results text) :
    ReadsBack seen' results text ↔ ∀ result ∈ results, SeenAlike seen seen' result := by
  obtain ⟨lines, hlines, hrows⟩ := h
  rw [← forall_mem_zipIdx_iff 1, ← forall₂_iff_of hrows fun _ _ => RowReads.iff_alike]
  constructor
  · rintro ⟨lines', hlines', hrows'⟩
    rw [hlines] at hlines'
    exact List.append_cancel_right hlines' ▸ hrows'
  · intro hrows'
    exact ⟨lines, hlines, hrows'⟩

end Views

/-! ## Writing rows -/

/-- No title and no subtitle holds half of a pair. -/
def AreWritable (results : List Result) : Prop :=
  ∀ result ∈ results, hasHalf result.title = false ∧ ∀ s ∈ result.subtitle, hasHalf s = false

/-- A dash stands in for a subtitle without sequences and without halves. -/
theorem forall_mem_subtitle_iff {P : Text → Prop} (hdash : P "-") (subtitle? : Option Text) :
    P (subtitle?.getD "-") ↔ ∀ s ∈ subtitle?, P s := by
  cases subtitle? with
  | none => simpa using hdash
  | some s => simp

/-- **The rows that can be written.** -/
theorem hasHalf_porcelainText (results : List Result) :
    hasHalf (porcelainText results) = false ↔ AreWritable results := by
  unfold porcelainText porcelainRows AreWritable
  rw [Task.hasHalf_joinLines]
  unfold AreWhole
  rw [List.forall_mem_map, List.forall_mem_map]
  simp only [hasHalf_withoutColours_porcelainRow, Bool.or_eq_false_iff]
  rw [forall_mem_zipIdx_iff 1 (P := fun result =>
    hasHalf result.title = false ∧ hasHalf (result.subtitle.getD "-") = false)]
  exact forall₂_congr fun result _ => and_congr_right fun _ =>
    forall_mem_subtitle_iff (P := fun s => hasHalf s = false) rfl result.subtitle

/-- Rows are written one after the other, each as a line. -/
theorem writes_echo_rows {machine : Machine} (rows : List Text) :
    Task.Writes machine (rows.forM Task.echo) (· = Task.joinLines (rows.map withoutColours)) := by
  induction rows with
  | nil => exact Task.writes_pure
  | cons row rows ih =>
    refine ((Task.writes_writeLines [withoutColours row]).bind ih).congr fun t => ?_
    simp [Task.joinLines]

/-- Results are written for other programs without looking at anything else. -/
theorem writes_porcelain (machine : Machine) (options : SearchOptions) (path? : Option Path)
    (size : Nat) (results : List Result) (selection : Option Number) :
    Task.Writes machine
      (writeResults { options with format := .porcelain } path? size results selection)
      (· = porcelainText results) :=
  writes_echo_rows (porcelainRows results)

/-- **What rows read back as.** For all results, with any titles and subtitles, rows are written
exactly if none of them holds half of a surrogate pair. What is written then can be taken apart into
one line for each result and four fields in each line: the number of the row, the score with three
places, and fields that read as the title and the subtitle, a dash where there is none, both without
sequences that switch colours. They read as the title and the subtitle themselves, in every row,
exactly if no title and no subtitle holds such a sequence. -/
theorem writeResults_reads_back (options : SearchOptions) (path? : Option Path) (size : Nat)
    (results : List Result) (selection : Option Number) (shell : Shell) :
    ((∃ after, (writeResults { options with format := .porcelain } path? size results
        selection).on shell = (.ok (), after)) ↔ AreWritable results) ∧
    ∀ after, (writeResults { options with format := .porcelain } path? size results
        selection).on shell = (.ok (), after) →
      ∃ text : String, after = { shell with output := shell.output ++ text } ∧
        ReadsBack withoutColours results text ∧
        (ReadsBack id results text ↔ ∀ result ∈ results, ¬ HasColour result.title ∧
          ∀ s ∈ result.subtitle, ¬ HasColour s) := by
  have hwrites := writes_porcelain shell.machine options path? size results selection shell
  constructor
  · rw [← hasHalf_porcelainText, ← exists_encode_iff]
    constructor
    · rintro ⟨after, hafter⟩
      obtain ⟨s, hs, -⟩ := (hwrites after rfl).mp hafter
      exact ⟨s, encode_eq_ok_iff.mpr hs.symm⟩
    · rintro ⟨s, hs⟩
      exact ⟨_, (hwrites _ rfl).mpr ⟨s, (encode_eq_ok_iff.mp hs).symm, rfl⟩⟩
  · intro after hafter
    obtain ⟨s, hs, rfl⟩ := (hwrites after rfl).mp hafter
    have hreads := readsBack_porcelainText results
    rw [← hs] at hreads
    refine ⟨s, rfl, hreads, ?_⟩
    rw [hreads.iff_alike]
    refine forall₂_congr fun result _ => and_congr (withoutColours_eq_self_iff _) ?_
    rw [id, withoutColours_eq_self_iff]
    exact forall_mem_subtitle_iff (P := fun s => ¬ HasColour s)
      ((withoutColours_eq_self_iff _).mp (by decide)) result.subtitle

/-- A title and a subtitle with all that is written in another way. -/
def tabbedResult : Result := ⟨"\tTabs\\t", some "two\r\nlines", 1⟩

theorem tabbedResult_reads_back : ∃ text : String,
    (writeResults { format := .porcelain } none 1 [tabbedResult] none).on ⟨restingMachine, "", []⟩
      = (.ok (), ⟨restingMachine, text, []⟩) ∧
    ReadsBack id [tabbedResult] text := by
  obtain ⟨hwritten, hreads⟩ :=
    writeResults_reads_back {} none 1 [tabbedResult] none ⟨restingMachine, "", []⟩
  obtain ⟨after, hafter⟩ := hwritten.mpr fun result hresult => by
    rw [List.mem_singleton.mp hresult]
    exact ⟨rfl, fun s hs => by cases hs; rfl⟩
  obtain ⟨text, rfl, -, hexact⟩ := hreads after hafter
  have htext : (⟨restingMachine, "" ++ text, []⟩ : Shell) = ⟨restingMachine, text, []⟩ := by
    rw [String.empty_append]
  refine ⟨text, hafter.trans (by rw [htext]), hexact.mpr fun result hresult => ?_⟩
  rw [List.mem_singleton.mp hresult]
  refine ⟨(withoutColours_eq_self_iff _).mp (by decide), fun s hs => ?_⟩
  cases hs
  exact (withoutColours_eq_self_iff _).mp (by decide)

/-- A result with a red title. -/
def redResult : Result := ⟨"\x1b[31mRed\x1b[0m", none, 0.5⟩

/-- A red title is written without its colour, so it does not read back. -/
theorem redResult_lost : ∃ text : String,
    (writeResults { format := .porcelain } none 1 [redResult] none).on ⟨restingMachine, "", []⟩
      = (.ok (), ⟨restingMachine, text, []⟩) ∧
    text = "1\t0.500\tRed\t-\n" ∧ ¬ ReadsBack id [redResult] text := by
  have htext : porcelainText [redResult] = ("1\t0.500\tRed\t-\n" : Text) := by decide
  refine ⟨"1\t0.500\tRed\t-\n", ?_, rfl, fun h => ?_⟩
  · exact (writes_porcelain restingMachine {} none 1 [redResult] none
      ⟨restingMachine, "", []⟩ _ rfl).mpr
      ⟨_, htext.symm, by rw [String.empty_append]⟩
  · rw [← htext] at h
    have halike := ((readsBack_porcelainText [redResult]).iff_alike.mp h redResult
      List.mem_cons_self).1
    revert halike
    decide

end Launcher.CommandLine
