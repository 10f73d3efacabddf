import Launcher.Proofs.Decimal.Digits
import Launcher.Release.Bump

/-!
# Setting the version in a text

A version is made of a few plain characters, so the assignment of one stands for itself as a
replacement. The text with the version set is then the text in three parts with other characters for
the part in the middle:

> `replace_assignment` the three parts make up the text
> **`setVersion_eq`** what setting the version makes of a text
-/

namespace Launcher.Release

open Launcher.Text Launcher.Decimal

variable {cs key rest version text : List Char} {located : Located}

/-! ## Versions -/

/-- A number of a version is digits and a point. -/
theorem afterNumber?_eq_some (h : afterNumber? cs = some rest) :
    ∃ digits, AllDigits digits ∧ cs = digits ++ '.' :: rest := by
  unfold afterNumber? at h
  split at h
  · next d ds more hspan =>
    cases h
    rw [List.span_eq_takeWhile_dropWhile] at hspan
    obtain ⟨htake, hdrop⟩ := Prod.mk.inj hspan
    refine ⟨d :: ds, ?_, ?_⟩
    · intro c hc
      rw [← htake] at hc
      exact List.mem_takeWhile_imp hc
    · rw [← htake, ← hdrop, List.takeWhile_append_dropWhile]
  · cases h

theorem isSuffixChar_of_isAsciiDigit {c : Char} (h : isAsciiDigit c = true) :
    isSuffixChar c = true := by
  unfold isSuffixChar
  rw [h]
  rfl

/-- A version has no other characters than those that may follow its numbers. -/
theorem isSuffixChar_of_isVersion (h : isVersion cs = true) :
    ∀ c ∈ cs, isSuffixChar c = true := by
  unfold isVersion at h
  split at h
  · next d tail hnumbers =>
    obtain ⟨middle, hfirst, hsecond⟩ := Option.bind_eq_some_iff.mp hnumbers
    obtain ⟨major, hmajor, rfl⟩ := afterNumber?_eq_some hfirst
    obtain ⟨minor, hminor, rfl⟩ := afterNumber?_eq_some hsecond
    obtain ⟨hd, htail⟩ := Bool.and_eq_true_iff.mp h
    rw [List.all_eq_true] at htail
    have hpoint : isSuffixChar '.' = true := by decide
    have hdigits : ∀ digits, AllDigits digits → ∀ c ∈ digits, isSuffixChar c = true :=
      fun digits hall c hc => isSuffixChar_of_isAsciiDigit (hall c hc)
    rw [List.forall_mem_append, List.forall_mem_cons, List.forall_mem_append,
      List.forall_mem_cons, List.forall_mem_cons]
    exact ⟨hdigits major hmajor, hpoint, hdigits minor hminor, hpoint,
      isSuffixChar_of_isAsciiDigit hd, htail⟩
  · cases h

/-- A character that may not be in a version is in none. -/
theorem not_mem_of_normalize {given : Text} {version : String} (h : normalize given = .ok version)
    {c : Char} (hc : isSuffixChar c = false) : c ∉ version.toList := by
  unfold normalize at h
  split at h
  · cases h
  · next trimmed _ =>
    by_cases hversion : isVersion (withoutMark trimmed) = true
    · rw [if_pos hversion] at h
      cases h
      rw [String.toList_ofList]
      intro hmem
      rw [isSuffixChar_of_isVersion hversion c hmem] at hc
      cases hc
    · rw [if_neg hversion] at h
      cases h

/-! ## The parts of a text -/

theorem afterBlanksAnd?_suffix {c : Char} (h : afterBlanksAnd? c cs = some rest) : rest <:+ cs := by
  have hcut : cs.dropWhile (fun d : Char => isBlank d) = [c] ++ rest := dropStart?_eq_some_iff.mp h
  have hblanks : cs.dropWhile (fun d : Char => isBlank d) <:+ cs := List.dropWhile_suffix _
  rw [hcut] at hblanks
  exact (List.suffix_append _ _).trans hblanks

theorem afterQuoted?_suffix (h : afterQuoted? cs = some rest) : rest <:+ cs := by
  unfold afterQuoted? at h
  split at h
  · next q qs more hspan =>
    rw [List.span_eq_takeWhile_dropWhile] at hspan
    obtain ⟨-, hdrop⟩ := Prod.mk.inj hspan
    have hquote : more <:+ cs := by
      have hvalue : cs.dropWhile (· != '"') <:+ cs := List.dropWhile_suffix _
      rw [hdrop] at hvalue
      exact (List.suffix_cons _ _).trans hvalue
    split at h
    · cases h
      exact hquote
    · split at h
      · cases h
        exact hquote
      · cases h
  · cases h

/-- What follows an assignment is the end of the text. -/
theorem afterAssignment?_suffix (h : afterAssignment? key cs = some rest) : rest <:+ cs := by
  unfold afterAssignment? at h
  obtain ⟨afterKey, hkey, h⟩ := Option.bind_eq_some_iff.mp h
  obtain ⟨afterSign, hsign, h⟩ := Option.bind_eq_some_iff.mp h
  obtain ⟨afterQuote, hquote, hvalue⟩ := Option.bind_eq_some_iff.mp h
  have hstart : afterKey <:+ cs := by
    rw [dropStart?_eq_some_iff.mp hkey]
    exact List.suffix_append _ _
  exact (afterQuoted?_suffix hvalue).trans ((afterBlanksAnd?_suffix hquote).trans
    ((afterBlanksAnd?_suffix hsign).trans hstart))

/-- The parts make up the text, wherever in it the search for the assignment begins. -/
theorem replace_assignment_from {lineStart : Bool}
    (h : Located.findFrom? key lineStart cs = some located) :
    located.replace located.assignment = cs := by
  induction cs generalizing lineStart located with
  | nil => cases h
  | cons c rest ih =>
    unfold Located.findFrom? at h
    simp only at h
    split at h
    · next after hhere =>
      cases h
      have hsuffix : after <:+ c :: rest := by
        split at hhere
        · exact afterAssignment?_suffix hhere
        · cases hhere
      exact List.suffix_iff_eq_append.mp hsuffix
    · obtain ⟨inner, hinner, hlocated⟩ := Option.map_eq_some_iff.mp h
      rw [← hlocated]
      exact congrArg (c :: ·) (ih hinner)

/-- The three parts make up the text. -/
theorem replace_assignment (h : Located.find? key text = some located) :
    located.replace located.assignment = text := replace_assignment_from h

/-- Other characters in place of the assignment make another text. -/
theorem replace_inj : located.replace cs = located.replace rest ↔ cs = rest := by
  unfold Located.replace
  rw [List.append_left_inj, List.append_right_inj]

/-! ## The replacement -/

/-- What has no backslashes stands for itself. -/
theorem expandFrom_of_no_backslash {whole : List Char} (hcs : '\\' ∉ cs) :
    ∀ {fuel : Nat}, cs.length ≤ fuel → expandFrom whole fuel cs = .ok cs := by
  induction cs with
  | nil =>
    intro fuel _
    cases fuel <;> rfl
  | cons c rest ih =>
    intro fuel hfuel
    obtain ⟨hc, hrest⟩ := not_or.mp (mt List.mem_cons.mpr hcs)
    cases fuel with
    | zero => simp at hfuel
    | succ fuel =>
      have hmore : rest.length ≤ fuel := by simpa using hfuel
      rw [expandFrom.eq_def]
      simp only
      rw [if_pos (Ne.symm hc), ih hrest hmore]
      rfl

/-- A character is in an assignment only if it is in the value, in the key or between them. -/
theorem not_mem_written {file : VersionFile} {c : Char}
    (hkey : c ∉ Release.key file ++ [' ', '=', '"']) (h : c ∉ version) :
    c ∉ written (Release.key file) version := by
  unfold written
  simp only [List.mem_append, List.mem_cons, List.not_mem_nil, or_false, not_or] at hkey ⊢
  exact ⟨⟨⟨hkey.1, hkey.2.1, hkey.2.2.1, hkey.2.1, hkey.2.2.2⟩, h⟩, hkey.2.2.2⟩

/-- **Setting the version** puts its assignment in place of the first assignment of the key, and
fails if there is none. -/
theorem setVersion_eq (file : VersionFile) (path : Text) (text : List Char)
    (h : '\\' ∉ version) :
    setVersion file path version text = match Located.find? (Release.key file) text with
      | none => .error (.versionMissing file path)
      | some located => .ok (located.replace (written (Release.key file) version)) := by
  have hbackslash : '\\' ∉ written (Release.key file) version :=
    not_mem_written (by cases file <;> decide) h
  have hplain : ∀ whole, expand whole (written (Release.key file) version)
      = .ok (written (Release.key file) version) := fun whole =>
    expandFrom_of_no_backslash hbackslash (Nat.le_refl _)
  unfold setVersion
  simp only [hplain]
  cases Located.find? (Release.key file) text with
  | none => rfl
  | some located => rfl

end Launcher.Release
