import Launcher.Proofs.Config.Document
import Launcher.Proofs.Machine

/-!
# Reading and writing the stored configuration

A machine `Serves` a configuration if that is the one in force, and if the directory of its file
can be made. Making the directory is no change to what is read, and after a proper configuration has
been written the machine serves that one. The file is emptied before it is written, so a
configuration whose text holds half of a surrogate pair, which no file can hold, leaves an empty
file behind, and that is no document.

> `exists_made` what making the directory leaves behind
> **`Serves.of_made`**, **`Serves.written`** the two steps of storing a configuration
> **`Serves.emptied`** what is left of one that cannot be written
> `stored_proper` what is read is proper
-/

namespace Launcher.Config

variable {machine : Machine} {config changed : Config}

/-- Reading the configuration changes nothing. -/
theorem load_on (machine : Machine) : load.on machine = (stored machine, machine) := by
  have hget : (get : Action Machine).on machine = (.ok machine, machine) := rfl
  unfold load
  rw [Action.on_bind_ok hget]
  exact Action.on_liftExcept _ _

theorem onlyFiles_load : Machine.OnlyFiles load := fun machine =>
  ⟨machine.files, by rw [load_on]; rfl⟩

theorem onlyFiles_save (config : Config) : Machine.OnlyFiles (save config) :=
  Machine.onlyFiles_makeDirectory.bind fun _ =>
    (Machine.onlyFiles_liftExcept _).bind Machine.onlyFiles_writeFile

theorem onlyFiles_store (setting : Setting) (given : Value) :
    Machine.OnlyFiles (store setting given) :=
  onlyFiles_load.bind fun _ => (Machine.onlyFiles_liftExcept _).bind onlyFiles_save

/-- The configuration can be read only if the path of its file is not too long. -/
theorem isLongPath_of_stored (h : machine.Placed)
    (hstored : stored machine = .ok config) : Tree.isLongPath machine.configFile = false := by
  by_contra hlong
  have hhas := Machine.has_of_long h (by simpa using hlong)
  obtain ⟨_, hok, -⟩ := exists_of_bind_eq_ok hstored
  rw [hhas] at hok
  cases hok

/-- Without a file the configuration is the standard. -/
theorem stored_of_not_has (h : machine.has machine.configFile = .ok false) :
    stored machine = .ok standard := by
  unfold stored
  rw [h]
  rfl

/-- A file that is there is read. -/
theorem stored_of_has (h : machine.has machine.configFile = .ok true) :
    stored machine = machine.read machine.configFile >>= fun s => ofStoredText s := by
  unfold stored
  rw [h]
  rfl

/-- A file that cannot be looked for is no missing one. -/
theorem stored_of_has_error {fault : Fault} (h : machine.has machine.configFile = .error fault) :
    stored machine = .error fault := by
  unfold stored
  rw [h]
  rfl

/-- Without a file there is nothing to read but the standard, or else the way to the file has too
long a name. -/
theorem stored_cases_of_none (h : machine.Placed)
    (hnone : machine.files.get? machine.configPlace = none) :
    stored machine = .ok standard ∨ ∃ long, stored machine = .error (.nameTooLong long) := by
  rcases hlong : Tree.isLongPath machine.configFile with _ | _
  · have hhas := Machine.has_configFile h hlong
    have hplain := (Machine.configFile_ordinary h).plain
    rcases hwalk : machine.files.walk [] machine.configFile.parts with fault | place
    · rw [hwalk] at hhas
      cases fault with
      | missing | throughFile => exact Or.inl (stored_of_not_has hhas)
      | nameTooLong => exact Or.inr ⟨_, stored_of_has_error hhas⟩
    · have hplace : place = machine.configPlace := Tree.eq_of_walk hplain hwalk
      rw [hwalk, hplace] at hhas
      simp only [hnone] at hhas
      exact Or.inl (stored_of_not_has hhas)
  · exact Or.inr ⟨_, stored_of_has_error (Machine.has_of_long h hlong)⟩

/-- Without a file the configuration is the standard one. -/
theorem stored_of_none (h : machine.Placed)
    (hstored : stored machine = .ok config)
    (hnone : machine.files.get? machine.configPlace = none) : config = standard := by
  rcases stored_cases_of_none h hnone with hstandard | ⟨long, hlong⟩
  · rw [hstored] at hstandard
    exact Except.ok.inj hstandard
  · rw [hstored] at hlong
    cases hlong

section Stands

variable (h : machine.Placed)
  (hstands : machine.files.Stands [] machine.effectiveDirectory.parts)
include h hstands

/-- What is read if no file is there. -/
theorem stored_of_stands_none (hshort : Tree.isLongPath machine.configFile = false)
    (hnone : machine.files.get? machine.configPlace = none) : stored machine = .ok standard := by
  refine stored_of_not_has ?_
  rw [Machine.has_of_stands h hstands hshort, hnone]
  rfl

/-- The string that the file holds is read. -/
theorem read_of_stands_text {s : String}
    (hfile : machine.files.get? machine.configPlace = some (.file (.text s)))
    (hreturn : '\r' ∉ s.toList) : machine.read machine.configFile = .ok s := by
  unfold Machine.read Tree.read Tree.readChars
  rw [Machine.configFile_below h, Machine.placeOf_configFile h hstands]
  simp only [hfile, Content.chars, Text.unifyLineEnds_of_no_return hreturn]
  exact congrArg Except.ok String.ofList_toList

/-- What is read if the file holds a string. -/
theorem stored_of_stands_text (hshort : Tree.isLongPath machine.configFile = false) {s : String}
    (hfile : machine.files.get? machine.configPlace = some (.file (.text s)))
    (hreturn : '\r' ∉ s.toList) : stored machine = ofStoredText s := by
  have hhas : machine.has machine.configFile = .ok true := by
    rw [Machine.has_of_stands h hstands hshort, hfile]
    rfl
  rw [stored_of_has hhas, read_of_stands_text h hstands hfile hreturn]
  rfl

/-- No directory stands in the place of the file if the configuration can be read. -/
theorem ne_directory_of_stored (hstored : stored machine = .ok config) :
    machine.files.get? machine.configPlace ≠ some .directory := by
  intro hdir
  have hhas : machine.has machine.configFile = .ok true := by
    rw [Machine.has_of_stands h hstands (isLongPath_of_stored h hstored), hdir]
    rfl
  have hread : machine.read machine.configFile = .error (.isDirectory machine.configFile.text) := by
    unfold Machine.read Tree.read Tree.readChars
    rw [Machine.configFile_below h, Machine.placeOf_configFile h hstands]
    simp only [hdir]
    rfl
  rw [stored_of_has hhas, hread] at hstored
  cases hstored

/-- A string is written to the file unless a directory stands in its place. -/
theorem putFile_of_stands (hfile : machine.files.get? machine.configPlace ≠ some .directory)
    (s : String) : (Machine.putFile s).on machine
      = (.ok (), machine.withFiles (machine.files.put machine.configPlace (.file (.text s)))) := by
  have habove : machine.files.get? machine.configPlace.dropLast = some .directory := by
    rw [Machine.configPlace_dropLast h]
    exact hstands.last
  have hwrite : machine.files.write machine.configFile s
      = .ok (machine.files.put machine.configPlace (.file (.text s))) := by
    unfold Tree.write
    rw [Machine.placeOf_configFile h hstands]
    simp only [habove]
    rcases hplace : machine.files.get? machine.configPlace with _ | ⟨_ | content⟩
    · rfl
    · exact absurd hplace hfile
    · rfl
  rw [Machine.putFile_on, hwrite]

/-- Nothing is written where a directory stands. -/
theorem putFile_of_stands_directory
    (hdir : machine.files.get? machine.configPlace = some .directory) (s : String) :
    (Machine.putFile s).on machine = (.error (.isDirectory machine.configFile.text), machine) := by
  have hwrite : machine.files.write machine.configFile s
      = .error (.isDirectory machine.configFile.text) := by
    unfold Tree.write
    rw [Machine.placeOf_configFile h hstands]
    simp only [hdir]
  rw [Machine.putFile_on, hwrite]

end Stands

/-! ## Making the directory -/

/-- The second machine is the first with the directory made: the directory and all above it are
there, in the place of the file stands what stood there, and nothing has changed if all of them were
there. -/
structure Made (machine made : Machine) : Prop where
  on : Machine.makeDirectory.on machine = (.ok (), made)
  files : ∃ files, made = machine.withFiles files
  closed : made.files.Closed
  stands : made.files.Stands [] made.effectiveDirectory.parts
  same : made.files.get? made.configPlace = machine.files.get? machine.configPlace
  unchanged : machine.files.Stands [] machine.effectiveDirectory.parts → made = machine

/-- Making the directory leaves the file in force. -/
theorem Made.configFile {made : Machine} (h : Made machine made) :
    made.configFile = machine.configFile := by
  obtain ⟨files, rfl⟩ := h.files
  rfl

/-- Making the directory leaves the directory in force. -/
theorem Made.directory {made : Machine} (h : Made machine made) :
    made.effectiveDirectory = machine.effectiveDirectory := by
  obtain ⟨files, rfl⟩ := h.files
  rfl

theorem Made.placed {made : Machine} (h : Made machine made) (placed : machine.Placed) :
    made.Placed := by
  obtain ⟨files, rfl⟩ := h.files
  exact ⟨placed.inStep, placed.ordinary⟩

/-- The directory of a well-formed tree is made and nothing else changes. -/
theorem exists_made (placed : machine.Placed) (closed : machine.files.Closed)
    (makes : (Machine.makeDirectory.on machine).1 = .ok ()) : ∃ made, Made machine made := by
  rw [Machine.makeDirectory_on] at makes
  obtain ⟨grown, hgrown⟩ : ∃ grown, machine.files.makeDirectories machine.effectiveDirectory
      = (.ok (), grown) := ⟨_, Prod.ext makes rfl⟩
  obtain ⟨hstands, hafter, hkept, hbare⟩ :=
    Tree.directoriesFrom_ok closed rfl (Tree.makeDirectories_ok hgrown).2
  refine ⟨machine.withFiles grown, ?_, ⟨grown, rfl⟩, hafter, hstands, ?_, ?_⟩
  · rw [Machine.makeDirectory_on, hgrown]
  · by_cases hnone : machine.files.get? machine.configPlace = none
    · rw [hnone]
      refine hbare _ hnone ?_
      intro hprefix
      -- the place of the file is longer than that of any directory that is made
      have hlength : machine.configPlace.length ≤ _ := hprefix.length_le
      rw [Machine.configPlace_eq placed] at hlength
      simp [Path.location] at hlength
    · exact hkept _ hnone
  · intro hbefore
    have hsame : grown = machine.files :=
      congrArg Prod.snd
        (hgrown.symm.trans (Tree.makeDirectories_of_stands placed.ordinary.no_fault hbefore))
    rw [hsame]
    rfl

/-- Once the directory has been made, the text of the configuration is written. -/
theorem Made.save_on {made : Machine} (h : Made machine made) {t : Text}
    (ht : config.toStoredText = .ok t) :
    (save config).on machine = (Machine.writeFile t).on made := by
  unfold save
  rw [Action.on_bind_ok h.on, Action.on_bind_ok (Action.on_liftExcept_of_eq ht made)]

/-! ## Machines on which the configuration can be changed -/

/-- The configuration in force on the machine can be read, and its directory made. -/
structure Serves (machine : Machine) (config : Config) : Prop where
  placed : machine.Placed
  closed : machine.files.Closed
  makes : (Machine.makeDirectory.on machine).1 = .ok ()
  stored : stored machine = .ok config

/-- Making the directory is no change to what is read. -/
theorem Serves.of_made {made : Machine} (h : Serves machine config) (hmade : Made machine made) :
    Serves made config := by
  have hplaced := hmade.placed h.placed
  refine ⟨hplaced, hmade.closed, ?_, ?_⟩
  · exact congrArg Prod.fst
      (Tree.makeDirectories_of_stands hplaced.ordinary.no_fault hmade.stands)
  · by_cases hnone : machine.files.get? machine.configPlace = none
    · -- no file was there, and none is there now
      rw [stored_of_none h.placed h.stored hnone]
      refine stored_of_stands_none hplaced hmade.stands ?_ (hmade.same.trans hnone)
      rw [hmade.configFile]
      exact isLongPath_of_stored h.placed h.stored
    · -- a file was there, so nothing had to be made
      have hdir : machine.files.get? machine.effectiveDirectory.location = some .directory := by
        have habove := h.closed _ hnone
        rwa [Machine.configPlace_dropLast h.placed] at habove
      have hlong := hmade.stands.not_long
      rw [hmade.directory] at hlong
      rw [hmade.unchanged (h.closed.stands hlong hdir)]
      exact h.stored

/-- What is written is read: the machine with a string in the file, and nothing else changed. -/
theorem stored_of_put (placed : machine.Placed)
    (hshort : Tree.isLongPath machine.configFile = false)
    (hstands : machine.files.Stands [] machine.effectiveDirectory.parts)
    (hfile : machine.files.get? machine.configPlace ≠ some .directory) {s : String}
    (hreturn : '\r' ∉ s.toList) :
    let after := machine.withFiles (machine.files.put machine.configPlace (.file (.text s)))
    stored after = ofStoredText s ∧ after.read after.configFile = .ok s := by
  intro after
  -- the paths of the machine are the same after the write
  have hplaced : after.Placed := ⟨placed.inStep, placed.ordinary⟩
  have hlength : Tree.isLongPath after.configFile = false := hshort
  have hafter : after.files.Stands [] after.effectiveDirectory.parts := hstands.put hfile
  have hself : after.files.get? after.configPlace = some (.file (.text s)) :=
    Tree.get?_put_self (Tree.ne_nil_of_get? hfile)
  exact ⟨stored_of_stands_text hplaced hafter hlength hself hreturn,
    read_of_stands_text hplaced hafter hself hreturn⟩

/-- A machine whose directory is there serves the proper configuration that is written to its
file. -/
theorem serves_of_written (placed : machine.Placed)
    (closed : machine.files.Closed) (hshort : Tree.isLongPath machine.configFile = false)
    (hstands : machine.files.Stands [] machine.effectiveDirectory.parts)
    (hfile : machine.files.get? machine.configPlace ≠ some .directory) {s : String}
    (hproper : changed.Proper) (hs : changed.toStoredText = .ok s) :
    ∃ after, (Machine.writeFile s).on machine = (.ok (), after) ∧ Serves after changed ∧
      after.read after.configFile = .ok s := by
  obtain ⟨hread, hreturn⟩ := ofStoredText_toStoredText hproper hs
  have hreturn : '\r' ∉ s.toList := fun hmem => hreturn (Text.char_mem_ofChars.mpr hmem)
  have habove : machine.files.get? machine.configPlace.dropLast = some .directory := by
    rw [Machine.configPlace_dropLast placed]
    exact hstands.last
  obtain ⟨hstored, hback⟩ := stored_of_put placed hshort hstands hfile hreturn
  rw [Machine.writeFile_of_encode (Text.encode_ofString s),
    putFile_of_stands placed hstands hfile s]
  refine ⟨_, rfl, ⟨⟨placed.inStep, placed.ordinary⟩, closed.put hfile habove, ?_, ?_⟩, hback⟩
  · exact congrArg Prod.fst
      (Tree.makeDirectories_of_stands placed.ordinary.no_fault (hstands.put hfile))
  · rw [hstored, hread]

/-- Writing a proper configuration makes it the one that is read. -/
theorem Serves.written (h : Serves machine config)
    (hstands : machine.files.Stands [] machine.effectiveDirectory.parts) {s : String}
    (hproper : changed.Proper) (hs : changed.toStoredText = .ok s) :
    ∃ after, (Machine.writeFile s).on machine = (.ok (), after) ∧ Serves after changed := by
  obtain ⟨placed, closed, -, hstored⟩ := h
  obtain ⟨after, hon, hserves, -⟩ := serves_of_written placed closed
    (isLongPath_of_stored placed hstored) hstands
    (ne_directory_of_stored placed hstands hstored) hproper hs
  exact ⟨after, hon, hserves⟩

/-- What reading the configuration gives when its file is empty. -/
def emptyFault : Fault := .document (.malformed .value 1 1 0)

/-- An empty file is no configuration. -/
theorem ofStoredText_empty : ofStoredText [] = .error emptyFault := rfl

/-- Writing a text with halves fails and leaves an empty file. -/
theorem Serves.emptied (h : Serves machine config)
    (hstands : machine.files.Stands [] machine.effectiveDirectory.parts) {t : Text}
    {stuck : Text.Halves} (ht : t.encode = .error stuck) :
    ∃ after, (Machine.writeFile t).on machine = (.error (.halves stuck), after) ∧
      Config.stored after = .error emptyFault := by
  obtain ⟨placed, -, -, hstored⟩ := h
  have hfile := ne_directory_of_stored placed hstands hstored
  have hreturn : '\r' ∉ "".toList := by simp
  obtain ⟨hempty, -⟩ := stored_of_put placed (isLongPath_of_stored placed hstored) hstands hfile
    hreturn
  rw [Machine.writeFile_of_halves ht, putFile_of_stands placed hstands hfile]
  exact ⟨_, rfl, hempty.trans ofStoredText_empty⟩

/-- What is read is proper. -/
theorem stored_proper (h : stored machine = .ok config) : config.Proper := by
  obtain ⟨there, -, hrest⟩ := exists_of_bind_eq_ok h
  split at hrest
  · obtain ⟨s, -, hs⟩ := exists_of_bind_eq_ok hrest
    exact ofStoredText_proper hs
  · cases hrest
    exact proper_standard

/-! ## A machine to try things on -/

/-- A machine with a text as its stored configuration, and with other files. -/
def machineStoring (text : String) (others : List (Location × Node)) : Machine :=
  Machine.fresh ⟨.plain, ["home"]⟩ ⟨.plain, ["work"]⟩ none .linux 80
    ⟨(Path.location ⟨.plain, ["home"]⟩, .directory) ::
      (Path.location ⟨.plain, ["home", ".lodestar"]⟩, .directory) ::
      (Path.location ⟨.plain, ["home", ".lodestar", "config.json"]⟩, .file (.text text)) :: others⟩

theorem machineStoring_has (text : String) (others : List (Location × Node)) :
    (machineStoring text others).has (machineStoring text others).configFile = .ok true := by
  rfl

/-- The configuration file is read as it was put there. -/
theorem machineStoring_read {text : String} (hreturn : '\r' ∉ text.toList)
    (others : List (Location × Node)) :
    (machineStoring text others).read (machineStoring text others).configFile = .ok text := by
  have hread : (machineStoring text others).read (machineStoring text others).configFile
      = .ok (String.ofList (Text.unifyLineEnds text.toList)) := by rfl
  rw [hread, Text.unifyLineEnds_of_no_return hreturn, String.ofList_toList]

/-- The machine has the configuration that its file holds. -/
theorem machineStoring_stored {text : String} (hreturn : '\r' ∉ text.toList)
    (others : List (Location × Node)) :
    stored (machineStoring text others) = ofStoredText text := by
  rw [stored_of_has (machineStoring_has text others), machineStoring_read hreturn]
  rfl

end Launcher.Config
