import Launcher.Proofs.Files.Growth

/-!
# Writing over a file

A file that has been read can be written over. That puts nothing into any way and takes nothing out
of one, so every path leads where it led before: to the new text if it leads to that file, and
otherwise to what was there.

> `walk_put_file` every walk ends as before
> **`exists_overwrite`** what is read at each path after a file has been written over
-/

namespace Launcher

namespace Text

/-- No carriage return is left when every line end has become a line feed. -/
theorem return_not_mem_unifyLineEnds (cs : List Char) : '\r' ∉ unifyLineEnds cs := by
  induction cs using unifyLineEnds.induct with
  | case1 => exact List.not_mem_nil
  | case2 rest ih =>
    rw [unifyLineEnds]
    exact List.not_mem_cons_of_ne_of_not_mem (by decide) ih
  | case3 rest hrest ih =>
    rw [unifyLineEnds]
    · exact List.not_mem_cons_of_ne_of_not_mem (by decide) ih
    · exact hrest
  | case4 c rest hpair hc ih =>
    rw [unifyLineEnds]
    · exact List.not_mem_cons_of_ne_of_not_mem (Ne.symm hc) ih
    · exact hpair
    · exact hc

end Text

theorem Content.return_not_mem_chars {content : Content} {cs : List Char}
    (h : content.chars = .ok cs) : '\r' ∉ cs := by
  cases content with
  | text s =>
    cases h
    exact Text.return_not_mem_unifyLineEnds _
  | octets bytes =>
    simp only [Content.chars] at h
    cases hdecoded : Text.decodeUtf8 bytes with
    | error fault =>
      rw [hdecoded] at h
      cases h
    | ok decoded =>
      rw [hdecoded] at h
      cases h
      exact Text.return_not_mem_unifyLineEnds _

namespace Tree

variable {tree : Tree} {place other : Location} {path : Path} {content : Content}
  {cs : List Char} {s : String} {fault : Fault}

/-- The characters of a file are read at its place. -/
theorem readChars_eq_ok (h : tree.readChars path = .ok cs) :
    ∃ place content, tree.placeOf path = .ok place ∧
      tree.get? place = some (.file content) ∧ content.chars = .ok cs := by
  unfold readChars at h
  split at h
  · cases h
  · next place hplace =>
    split at h
    · cases h
    · cases h
    · next content hfile =>
      split at h
      · next chars hchars =>
        cases h
        exact ⟨place, content, hplace, hfile, hchars⟩
      · cases h

/-- Reading fails for what is in the way or for what the file holds. -/
theorem readChars_error (h : tree.readChars path = .error fault) :
    path.fault? = some fault ∨ fault.isOfFiles = true ∨ ∃ reason, fault = .octets reason := by
  unfold readChars at h
  split at h
  · next hplace =>
    cases h
    exact (placeOf_error hplace).imp_right Or.inl
  · split at h
    · cases h
      exact Or.inr (Or.inl rfl)
    · cases h
      exact Or.inr (Or.inl rfl)
    · split at h
      · cases h
      · cases h
        exact Or.inr (Or.inr ⟨_, rfl⟩)

/-- A walk ends in the last of its names, if that is no double dot. -/
theorem getLast?_of_walk {names : List Text} {last : Text} (hlast : last ≠ "..")
    (h : tree.walk place (names ++ [last]) = .ok other) :
    other.getLast? = some (Path.octetsOf last) := by
  induction names generalizing place with
  | nil =>
    rw [List.nil_append, walk] at h
    split at h
    · split at h
      · cases h
      · -- the name is no double dot, so it is added to the place
        rw [walk] at h
        cases h
        exact List.getLast?_concat
    · cases h
    · cases h
  | cons name rest ih =>
    rw [List.cons_append, walk] at h
    split at h
    · split at h
      · cases h
      · exact ih h
    · cases h
    · cases h

/-- A path that does not lead where something is put leads to what was there before. -/
theorem get?_put_of_placeOf {node : Node} (hother : tree.placeOf path ≠ .ok place)
    (hplace : tree.placeOf path = .ok other) :
    (tree.put place node).get? other = tree.get? other := by
  refine get?_put_of_ne ?_
  intro heq
  exact hother (by rw [hplace, heq])

section Put

variable (hfile : tree.get? place = some (.file content)) (new : Content)
include hfile

theorem ne_nil_of_file : place ≠ [] := ne_nil_of_get? (by rw [hfile]; nofun)

/-- A walk asks of a file only that it is one, so it ends as before. -/
theorem walk_put_file (names : List Text) (start : Location) :
    (tree.put place (.file new)).walk start names = tree.walk start names := by
  induction names generalizing start with
  | nil => rfl
  | cons name rest ih =>
    rw [walk, walk]
    by_cases hstart : start = place
    · rw [hstart, get?_put_self (ne_nil_of_file hfile), hfile]
    · rw [get?_put_of_ne hstart]
      simp only [ih]

/-- A new content leaves every path where it leads. -/
theorem placeOf_put_file (path : Path) :
    (tree.put place (.file new)).placeOf path = tree.placeOf path := by
  unfold placeOf
  rw [walk_put_file hfile new]

/-- Whatever does not lead to the file is read as before. -/
theorem readChars_put_of_ne (hother : tree.placeOf path ≠ .ok place) :
    (tree.put place (.file new)).readChars path = tree.readChars path := by
  unfold readChars
  rw [placeOf_put_file hfile new]
  split
  · rfl
  · next there hplace => rw [get?_put_of_placeOf hother hplace]

/-- A new content of a file is not seen on other paths. -/
theorem look_put_of_ne (hother : tree.placeOf path ≠ .ok place) :
    (tree.put place (.file new)).look path = tree.look path := by
  unfold look
  rw [walk_put_file hfile new]
  split
  · rfl
  · next hfault =>
    split
    · next there hwalk =>
      have hplace : tree.placeOf path = .ok there :=
        placeOf_eq_ok_iff.mpr ⟨by simpa using hfault, hwalk⟩
      rw [get?_put_of_placeOf hother hplace]
    · rfl
    · rfl

/-- What leads to the place of the file leads to the new text. -/
theorem readChars_put_self (hself : tree.placeOf path = .ok place) (hreturn : '\r' ∉ s.toList) :
    (tree.put place (.file (.text s))).readChars path = .ok s.toList := by
  unfold readChars
  rw [placeOf_put_file hfile (.text s), hself]
  simp only [get?_put_self (ne_nil_of_file hfile), Content.chars,
    Text.unifyLineEnds_of_no_return hreturn]

end Put

/-- **A file that has been read can be written over.** Afterwards the text is read from it, and a
path whose last name has other octets leads to what it led to before. -/
theorem exists_overwrite {last : Text} (hread : tree.readChars path = .ok cs)
    (hpath : path.parts.getLast? = some last) (hlast : last ≠ "..") (hreturn : '\r' ∉ s.toList) :
    ∃ after, tree.write path s = .ok after ∧ after.readChars path = .ok s.toList ∧
      ∀ (path' : Path) (last' : Text), path'.parts.getLast? = some last' → last' ≠ ".." →
        Path.octetsOf last' ≠ Path.octetsOf last →
          after.readChars path' = tree.readChars path' ∧ after.look path' = tree.look path' := by
  obtain ⟨place, content, hplace, hfile, -⟩ := readChars_eq_ok hread
  have hwrite : tree.write path s = .ok (tree.put place (.file (.text s))) := by
    unfold write
    rw [hplace]
    simp only [hfile]
  refine ⟨_, hwrite, readChars_put_self hfile hplace hreturn, ?_⟩
  intro path' last' hpath' hlast' hne
  have hother : tree.placeOf path' ≠ .ok place := by
    intro hplace'
    -- the place would end in both names
    obtain ⟨names, hnames⟩ := List.getLast?_eq_some_iff.mp hpath
    obtain ⟨names', hnames'⟩ := List.getLast?_eq_some_iff.mp hpath'
    have hwalk := (placeOf_eq_ok_iff.mp hplace).2
    have hwalk' := (placeOf_eq_ok_iff.mp hplace').2
    rw [hnames] at hwalk
    rw [hnames'] at hwalk'
    have hends := getLast?_of_walk hlast' hwalk'
    rw [getLast?_of_walk hlast hwalk] at hends
    exact hne (Option.some.inj hends).symm
  exact ⟨readChars_put_of_ne hfile _ hother, look_put_of_ne hfile _ hother⟩

end Tree

end Launcher
