import Launcher.Proofs.Config.Update
import Launcher.Proofs.Files.Growth

/-!
# Configurations by directory

Every directory has a file for a configuration, whether it is there or not, so a tree of files keeps
a map from directories to what reading their configuration gives: a configuration, or the fault of a
file that holds none (`Shelved`). Reading the configuration in force looks it up in the map
(`stored_of_shelved`). Making directories is no change to the map, and writing a configuration
changes it in one place: the directory in force. One that cannot be written for a half of a
surrogate pair leaves the fault of an empty file in that place.
-/

namespace Launcher.Config

/-- The configuration that the content of a file gives. -/
def ofContent (content : Content) : Except Fault Config :=
  match content.chars with
  | .ok cs => ofStoredText (Text.ofChars cs)
  | .error fault => .error (.octets fault)

/-- What reading gives where the file of a configuration may stand: the standard if nothing does. A
directory in that place has no configuration; reading it is a fault of the files. -/
def Means : Option Node → Except Fault Config → Prop
  | none, kept => kept = .ok standard
  | some (.file content), kept => ofContent content = kept
  | some .directory, _ => True

/-- The place of the file of a configuration in a directory. -/
def placeIn (directory : Location) : Location := directory ++ [Path.octetsOf Machine.configName]

theorem placeIn_injective : Function.Injective placeIn := fun _ _ h =>
  List.append_cancel_right h

/-- The tree keeps for each directory what reading its configuration gives. -/
structure Shelved (files : Tree) (configs : Location → Except Fault Config) : Prop where
  closed : files.Closed
  means : ∀ directory, Means (files.get? (placeIn directory)) (configs directory)

/-- What the tree keeps for a directory. -/
def keptIn (files : Tree) (directory : Location) : Except Fault Config :=
  match files.get? (placeIn directory) with
  | some (.file content) => ofContent content
  | _ => .ok standard

/-- The tree holds what is kept in it. -/
theorem shelved_keptIn {files : Tree} (hclosed : files.Closed) : Shelved files (keptIn files) := by
  refine ⟨hclosed, fun directory => ?_⟩
  unfold keptIn
  rcases files.get? (placeIn directory) with _ | _ | content
  · rfl
  · trivial
  · rfl

variable {machine : Machine} {files grown : Tree} {configs : Location → Except Fault Config}
  {config changed : Config} {s : String} {t : Text}

/-- Directories that are made are no change to what is kept. -/
theorem Shelved.grows (h : Shelved files configs) (hgrows : files.Grows grown) :
    Shelved grown configs where
  closed := hgrows.closed h.closed
  means := fun directory => by
    have hmeans := h.means directory
    by_cases hnone : files.get? (placeIn directory) = none
    · rcases hgrows.new _ hnone with hstill | hmade
      · rwa [hstill, ← hnone]
      · rw [hmade]
        trivial
    · rwa [hgrows.kept _ hnone]

/-- A file that is written changes what is kept for its own directory. -/
theorem Shelved.written (h : Shelved files configs) {path : Path} (hpath : path.Ordinary)
    {after : Tree} (hwrite : files.write (Machine.fileIn path) s = .ok after)
    {kept : Except Fault Config} (hmeans : ofContent (.text s) = kept) :
    Shelved after (Function.update configs path.location kept) := by
  have hfile : (Machine.fileIn path).Ordinary := hpath.child (by decide) (by decide)
  have hlocation : (Machine.fileIn path).location = placeIn path.location := List.map_append
  obtain ⟨rfl, hplace, hclosed⟩ := Tree.write_ok h.closed hfile.plain hwrite
  refine ⟨hclosed, fun directory => ?_⟩
  rw [hlocation] at hplace ⊢
  by_cases heq : directory = path.location
  · rw [heq, Function.update_self, Tree.get?_put_self hplace]
    exact hmeans
  · have hne : placeIn directory ≠ placeIn path.location := fun hsame =>
      heq (placeIn_injective hsame)
    rw [Tree.get?_put_of_ne hne, Function.update_of_ne heq]
    exact h.means directory

/-- What reading the configuration gives if a node stands in the place of its file. -/
def readNode (path : Path) : Node → Except Fault Config
  | .directory => .error (.isDirectory path.text)
  | .file content => ofContent content

/-- What stands in the place of the file is read, or else the way to it has too long a name. -/
theorem stored_cases_of_some (placed : machine.Placed)
    (hclosed : machine.files.Closed) {node : Node}
    (hsome : machine.files.get? machine.configPlace = some node) :
    stored machine = readNode machine.configFile node ∨
      ∃ long, stored machine = .error (.nameTooLong long) := by
  have hordinary := Machine.configFile_ordinary placed
  have hthere : machine.files.get? ([] ++ machine.configFile.parts.map Path.octetsOf)
      = some node := hsome
  rcases hlong : Tree.isLongPath machine.configFile with _ | _
  · have hhas := Machine.has_configFile placed hlong
    rcases hclosed.walk_cases hordinary.plain (by rw [hthere]; nofun) with hwalk | hwalk
    · rw [hwalk] at hhas
      simp only [hthere, Option.isSome_some] at hhas
      left
      rw [stored_of_has hhas]
      unfold Machine.read Tree.read Tree.readChars
      rw [Machine.configFile_below placed,
        Tree.placeOf_eq_ok_iff.mpr ⟨hordinary.no_fault, hwalk⟩]
      cases node with
      | directory => simp only [hthere]; rfl
      | file content =>
        simp only [hthere, readNode, ofContent]
        cases content.chars with
        | error fault => rfl
        | ok cs =>
          show ofStoredText (Text.ofString (String.ofList cs)) = _
          rw [Text.ofString_ofList]
    · rw [hwalk] at hhas
      exact Or.inr ⟨_, stored_of_has_error hhas⟩
  · exact Or.inr ⟨_, stored_of_has_error (Machine.has_of_long placed hlong)⟩

/-- Reading the configuration in force gives what is kept for its directory, or a fault of the
files. -/
theorem stored_of_shelved (placed : machine.Placed) (h : Shelved machine.files configs) :
    stored machine = configs machine.effectiveDirectory.location ∨
      ∃ fault, fault.isOfFiles = true ∧ stored machine = .error fault := by
  have hmeans := h.means machine.effectiveDirectory.location
  have hplace : placeIn machine.effectiveDirectory.location = machine.configPlace :=
    (Machine.configPlace_eq placed).symm
  rw [hplace] at hmeans
  rcases hnode : machine.files.get? machine.configPlace with _ | node
  · rw [hnode] at hmeans
    rw [show configs machine.effectiveDirectory.location = .ok standard from hmeans]
    exact (stored_cases_of_none placed hnode).imp_right fun ⟨_, hlong⟩ => ⟨_, rfl, hlong⟩
  · rcases stored_cases_of_some placed h.closed hnode with hread | ⟨_, hlong⟩
    · rw [hread]
      cases node with
      | directory => exact Or.inr ⟨_, rfl, rfl⟩
      | file content =>
        rw [hnode] at hmeans
        exact Or.inl hmeans
    · exact Or.inr ⟨_, rfl, hlong⟩

/-! ## Changing a setting -/

/-- How a change of a setting ends: with a fault of the files, and then the map is as before; with
the fault of a configuration that cannot be read; with a refusal, and then the place of the
directory is left by it; or with the change made in that place. -/
inductive Stores (configs : Location → Except Fault Config) (directory : Location)
    (change : Setting × Value) :
    Except Fault Unit → (Location → Except Fault Config) → Prop where
  | failed {fault : Fault} (h : fault.isOfFiles = true) :
    Stores configs directory change (.error fault) configs
  | unread {fault : Fault} (hkept : configs directory = .error fault) :
    Stores configs directory change (.error fault) configs
  | refused {config : Config} {fault : Fault} (hkept : configs directory = .ok config)
    (h : config.accept change = .error fault) :
    Stores configs directory change (.error fault)
      (Function.update configs directory (config.leftBy change))
  | accepted {config changed : Config} (hkept : configs directory = .ok config)
    (h : config.accept change = .ok changed) :
    Stores configs directory change (.ok ()) (Function.update configs directory (.ok changed))

/-- A refusal that does not empty the file is no change. -/
theorem Stores.refused_same {directory : Location} {change : Setting × Value} {fault : Fault}
    (hkept : configs directory = .ok config) (h : config.accept change = .error fault)
    (hempties : config.empties change = false) :
    Stores configs directory change (.error fault) configs := by
  have hsame := Stores.refused hkept h
  rwa [leftBy_eq_ok_iff.mpr ⟨rfl, hempties⟩, ← hkept, Function.update_eq_self] at hsame

/-- The text of a configuration is written, or leaves an empty file if it holds half of a pair. -/
theorem Shelved.writeFile (h : Shelved machine.files configs) (placed : machine.Placed)
    {change : Setting × Value}
    (hkept : configs machine.effectiveDirectory.location = .ok config)
    (hprepared : config.prepared change = .ok (changed, t)) (hproper : changed.Proper) :
    ∃ result files kept, (Machine.writeFile t).on machine = (result, machine.withFiles files) ∧
      Shelved files kept ∧
      Stores configs machine.effectiveDirectory.location change result kept := by
  obtain ⟨hassign, ht⟩ := prepared_eq_ok_iff.mp hprepared
  have hfault := (Machine.configFile_ordinary placed).no_fault
  have hwritten : ∀ {s after kept}, machine.files.write machine.configFile s = .ok after →
      ofContent (.text s) = kept →
        Shelved after (Function.update configs machine.effectiveDirectory.location kept) := by
    intro s after kept hwrite hmeans
    rw [placed.inStep.configFile] at hwrite
    exact h.written placed.ordinary hwrite hmeans
  rcases hencode : t.encode with stuck | s
  · -- the file is emptied first
    obtain ⟨hrefused, hempties⟩ := refused_of_stuck hprepared hencode
    rw [Machine.writeFile_of_halves hencode, Machine.putFile_on]
    rcases hwrite : machine.files.write machine.configFile "" with fault | after
    · exact ⟨_, machine.files, configs, rfl, h, .failed (Tree.write_error hfault hwrite)⟩
    · refine ⟨_, after, _, rfl, hwritten hwrite rfl, ?_⟩
      have hleft : config.leftBy change = .error emptyFault := if_pos hempties
      have hstores := Stores.refused hkept hrefused
      rwa [hleft] at hstores
  · obtain rfl := Text.encode_eq_ok_iff.mp hencode
    rw [Machine.writeFile_of_encode hencode, Machine.putFile_on]
    rcases hwrite : machine.files.write machine.configFile s with fault | after
    · exact ⟨_, machine.files, configs, rfl, h, .failed (Tree.write_error hfault hwrite)⟩
    · obtain ⟨hread, hreturn⟩ := ofStoredText_toStoredText hproper ht
      have hmeans : ofContent (.text s) = .ok changed := by
        have hreturn : '\r' ∉ s.toList := fun hmem => hreturn (Text.char_mem_ofChars.mpr hmem)
        unfold ofContent Content.chars
        simp only [Text.unifyLineEnds_of_no_return hreturn]
        exact hread
      exact ⟨_, after, _, rfl, hwritten hwrite hmeans,
        .accepted hkept (accept_eq_ok_iff.mpr ⟨s, hprepared⟩)⟩

/-- Writing the configuration that a change leads to. -/
theorem Shelved.save (h : Shelved machine.files configs) (placed : machine.Placed)
    {change : Setting × Value} (hkept : configs machine.effectiveDirectory.location = .ok config)
    (hassign : config.assign change.1 change.2 = .ok changed) (hproper : changed.Proper) :
    ∃ result files kept, (save changed).on machine = (result, machine.withFiles files) ∧
      Shelved files kept ∧
      Stores configs machine.effectiveDirectory.location change result kept := by
  have hgrows := h.grows (Tree.makeDirectories_grows machine.files machine.effectiveDirectory)
  rcases hmade : machine.files.makeDirectories machine.effectiveDirectory with ⟨fault | _, grown⟩
  all_goals
    have hmake := Machine.makeDirectory_on machine
    rw [hmade] at hgrows hmake
    unfold Config.save
  · have hfault : fault.isOfFiles = true :=
      Tree.makeDirectories_error placed.ordinary.no_fault (by rw [hmade])
    exact ⟨_, grown, configs, Action.on_bind_error hmake, hgrows, .failed hfault⟩
  rw [Action.on_bind_ok hmake]
  have hlift := Action.on_liftExcept changed.toStoredText (machine.withFiles grown)
  rcases htext : changed.toStoredText with fault | t
  · -- the directory is made although nothing can be written into it
    have hprepared : config.prepared change = .error fault := by
      unfold prepared
      rw [hassign]
      simp only [bind, Except.bind, htext]
    obtain ⟨hrefused, hempties⟩ := refused_of_prepared hprepared
    rw [htext] at hlift
    exact ⟨_, grown, configs, Action.on_bind_error hlift, hgrows,
      .refused_same hkept hrefused hempties⟩
  rw [htext] at hlift
  rw [Action.on_bind_ok hlift]
  have hgrown : Shelved (machine.withFiles grown).files configs := hgrows
  exact hgrown.writeFile ⟨placed.inStep, placed.ordinary⟩ hkept
    (prepared_eq_ok_iff.mpr ⟨hassign, htext⟩) hproper

/-- **Changing a setting** changes what is kept for the directory in force, if the change is
accepted, and otherwise nothing, unless it empties the file. -/
theorem Shelved.store (h : Shelved machine.files configs) (placed : machine.Placed)
    (setting : Setting) (given : Value) :
    ∃ result files kept, (store setting given).on machine = (result, machine.withFiles files) ∧
      Shelved files kept ∧
      Stores configs machine.effectiveDirectory.location (setting, given) result kept := by
  have hload := load_on machine
  unfold Config.store
  rcases stored_of_shelved placed h with hstored | ⟨fault, hfault, hstored⟩
  · rcases hkept : configs machine.effectiveDirectory.location with fault | config
    · rw [hstored, hkept] at hload
      exact ⟨_, machine.files, configs, Action.on_bind_error hload, h, .unread hkept⟩
    rw [hkept] at hstored
    rw [hstored] at hload
    rw [Action.on_bind_ok hload]
    rcases hassign : config.assign setting given with fault | changed
    · have hprepared : config.prepared (setting, given) = .error fault := by
        unfold prepared
        rw [hassign]
        rfl
      obtain ⟨hrefused, hempties⟩ := refused_of_prepared hprepared
      exact ⟨_, machine.files, configs, Action.on_bind_error (Action.on_liftExcept _ _), h,
        .refused_same hkept hrefused hempties⟩
    · rw [Action.on_bind_ok (Action.on_liftExcept (.ok changed) machine)]
      exact h.save placed hkept hassign ((stored_proper hstored).assign hassign)
  · rw [hstored] at hload
    exact ⟨_, machine.files, configs, Action.on_bind_error hload, h, .failed hfault⟩

end Launcher.Config
