import Launcher.Proofs.Files.Path
import Launcher.Proofs.Files.Tree

/-!
# Actions on a machine

An action does its steps one after the other and ends with the first that fails. Directory and file
of the configuration are set together, so they stay in step. Below the directory in force, if that
has an ordinary path and is there, the file of the configuration is read and written at its own
place.

> `setDirectory_inStep`, `within_inStep` directory and file of the configuration stay in step
> `Placed` the configuration has an ordinary place
> `walk_configFile` the way to its file, if the directory is there
-/

namespace Launcher

namespace Action

variable {α β : Type} {act : Action α} {next : α → Action β} {machine after : Machine}

/-- An action written out is what it does. -/
theorem on_mk (run : Machine → Except Fault α × Machine) (machine : Machine) :
    Action.on (ExceptT.mk run) machine = run machine := rfl

/-- After the first step comes the next, on the machine that the first one leaves. -/
theorem on_bind (act : Action α) (next : α → Action β) (machine : Machine) :
    (act >>= next).on machine
      = (ExceptT.bindCont next (act.on machine).1).run (act.on machine).2 := rfl

/-- The next step follows a step that succeeds. -/
theorem on_bind_ok {a : α} (h : act.on machine = (.ok a, after)) :
    (act >>= next).on machine = (next a).on after := by
  rw [on_bind, h]
  rfl

/-- Nothing follows a step that fails. -/
theorem on_bind_error {fault : Fault} (h : act.on machine = (.error fault, after)) :
    (act >>= next).on machine = (.error fault, after) := by
  rw [on_bind, h]
  rfl

/-- What an action gives can be made into something else afterwards. -/
theorem on_bind_pure (act : Action α) (make : α → β) (machine : Machine) :
    (act >>= fun a => pure (make a)).on machine
      = ((act.on machine).1.map make, (act.on machine).2) := by
  rw [on_bind]
  rcases act.on machine with ⟨fault | a, after⟩ <;> rfl

/-- A result that does not depend on the machine leaves it as it is. -/
theorem on_liftExcept (result : Except Fault α) (machine : Machine) :
    (liftM result : Action α).on machine = (result, machine) := by
  cases result with
  | error fault => rfl
  | ok a => rfl

theorem on_liftExcept_of_eq {result known : Except Fault α} (h : result = known)
    (machine : Machine) : (liftM result : Action α).on machine = (known, machine) := by
  rw [on_liftExcept, h]

end Action

namespace Machine

/-- The machine with other files. -/
def withFiles (machine : Machine) (files : Tree) : Machine := { machine with files }

/-- Making the directory changes nothing but the files. -/
theorem makeDirectory_on (machine : Machine) :
    makeDirectory.on machine = ((machine.files.makeDirectories machine.effectiveDirectory).1,
      machine.withFiles (machine.files.makeDirectories machine.effectiveDirectory).2) := rfl

/-- Writing the file changes nothing but the files, and nothing at all if it fails. -/
theorem putFile_on (s : String) (machine : Machine) :
    (putFile s).on machine = match machine.files.write machine.configFile s with
      | .error fault => (.error fault, machine)
      | .ok written => (.ok (), machine.withFiles written) := by
  have hget : (get : Action Machine).on machine = (.ok machine, machine) := rfl
  have hlift := Action.on_liftExcept (machine.files.write machine.configFile s) machine
  unfold putFile
  rw [Action.on_bind_ok hget]
  rcases hwrite : machine.files.write machine.configFile s with fault | written
  · rw [hwrite] at hlift
    exact Action.on_bind_error hlift
  · rw [hwrite] at hlift
    rw [Action.on_bind_ok hlift]
    rfl

/-- The action changes nothing on a machine but its files. -/
def OnlyFiles {α : Type} (act : Action α) : Prop :=
  ∀ machine : Machine, ∃ files, (act.on machine).2 = machine.withFiles files

section OnlyFiles

variable {α β : Type} {act : Action α} {next : α → Action β}

/-- One action after another changes only files if both do. -/
theorem OnlyFiles.bind (h : OnlyFiles act) (hnext : ∀ a, OnlyFiles (next a)) :
    OnlyFiles (act >>= next) := by
  intro machine
  obtain ⟨files, hfiles⟩ := h machine
  rcases hact : act.on machine with ⟨fault | a, after⟩
  · rw [Action.on_bind_error hact]
    rw [hact] at hfiles
    exact ⟨files, hfiles⟩
  · rw [hact] at hfiles
    obtain rfl : after = machine.withFiles files := hfiles
    obtain ⟨more, hmore⟩ := hnext a (machine.withFiles files)
    rw [Action.on_bind_ok hact, hmore]
    exact ⟨more, rfl⟩

theorem onlyFiles_liftExcept (result : Except Fault α) : OnlyFiles (liftM result : Action α) :=
  fun machine => ⟨machine.files, by rw [Action.on_liftExcept]; rfl⟩

/-- Making the directory changes only files. -/
theorem onlyFiles_makeDirectory : OnlyFiles makeDirectory := fun _ => ⟨_, rfl⟩

theorem onlyFiles_putFile (s : String) : OnlyFiles (putFile s) := fun machine => by
  rw [putFile_on]
  split
  · exact ⟨machine.files, rfl⟩
  · exact ⟨_, rfl⟩

/-- Writing the configuration changes only files, also when it stops at half of a pair. -/
theorem onlyFiles_writeFile (t : Text) : OnlyFiles (writeFile t) := by
  unfold writeFile
  split
  · exact onlyFiles_putFile _
  · exact (onlyFiles_putFile "").bind fun _ machine => ⟨machine.files, rfl⟩

end OnlyFiles

/-- A text of characters is written. -/
theorem writeFile_of_encode {t : Text} {s : String} (ht : t.encode = .ok s) :
    writeFile t = putFile s := by
  unfold writeFile
  rw [ht]

/-- A text with halves empties the file before it turns out that it cannot be written. -/
theorem writeFile_of_halves {t : Text} {stuck : Text.Halves} (ht : t.encode = .error stuck)
    (machine : Machine) :
    (writeFile t).on machine = match (putFile "").on machine with
      | (.error fault, after) => (.error fault, after)
      | (.ok (), after) => (.error (.halves stuck), after) := by
  unfold writeFile
  rw [ht]
  simp only
  rw [Action.on_bind]
  rcases (putFile "").on machine with ⟨fault | ⟨⟩, after⟩
  · rfl
  · rfl

/-- The directory is set together with its file. -/
theorem setDirectory_on (machine : Machine) (given : Value) :
    (setDirectory given).on machine =
      if given.isNull then (.ok (), machine.storingIn (defaultDirectory machine.home))
      else match machine.directory given with
        | .error fault => (.error fault, machine)
        | .ok path => (.ok (), machine.storingIn path) := by
  have hget : (get : Action Machine).on machine = (.ok machine, machine) := rfl
  unfold setDirectory
  rw [Action.on_bind_ok hget]
  split
  · rfl
  · have hlift := Action.on_liftExcept (machine.directory given) machine
    rcases hdirectory : machine.directory given with fault | path
    · rw [hdirectory] at hlift
      exact Action.on_bind_error hlift
    · rw [hdirectory] at hlift
      rw [Action.on_bind_ok hlift]
      rfl

/-- Another directory is in force for the action, and afterwards the one from before. -/
theorem within_on {α : Type} (given : Value) (act : Action α) (machine : Machine) :
    (within given act).on machine =
      if given.isNull then act.on machine
      else match machine.directory given with
        | .error fault => (.error fault, machine)
        | .ok path =>
          ((act.on { machine with overrides := path :: machine.overrides }).1,
            { (act.on { machine with overrides := path :: machine.overrides }).2 with
              overrides := machine.overrides }) := by
  unfold within
  split
  · rfl
  · rw [Action.on_mk]
    rcases machine.directory given with fault | path
    · rfl
    · rfl

/-! ## Directory and file in step -/

variable {machine : Machine}

/-- Whatever directory is set, its file is set with it. -/
theorem inStep_storingIn (machine : Machine) (directory : Path) :
    (machine.storingIn directory).InStep := rfl

/-- A process finds directory and file in step. -/
theorem inStep_restarted (machine : Machine) : machine.restarted.InStep := rfl

/-- A machine begins with directory and file in step. -/
theorem inStep_fresh (home work : Path) (catalogVariable : Option Text) (platform : Platform)
    (terminalWidth : Nat) (files : Tree) :
    (fresh home work catalogVariable platform terminalWidth files).InStep := rfl

/-- What changes only files leaves directory and file in step. -/
theorem OnlyFiles.inStep {α : Type} {act : Action α} (hact : OnlyFiles act) (h : machine.InStep) :
    (act.on machine).2.InStep := by
  obtain ⟨files, hfiles⟩ := hact machine
  rw [hfiles]
  exact h

/-- Setting the directory leaves directory and file in step, whether it succeeds or not. -/
theorem setDirectory_inStep (h : machine.InStep) (given : Value) :
    ((setDirectory given).on machine).2.InStep := by
  rw [setDirectory_on]
  split
  · exact inStep_storingIn _ _
  · split
    · exact h
    · exact inStep_storingIn _ _

/-- With another directory in force for a time, they stay in step if the action leaves them so. -/
theorem within_inStep {α : Type} {act : Action α}
    (hact : ∀ machine : Machine, machine.InStep → (act.on machine).2.InStep) (h : machine.InStep)
    (given : Value) : ((within given act).on machine).2.InStep := by
  rw [within_on]
  split
  · exact hact machine h
  · split
    · exact h
    · next path _ => exact hact { machine with overrides := path :: machine.overrides } h

/-- In step, the file in force is the one in the directory in force. -/
theorem InStep.configFile (h : machine.InStep) :
    machine.configFile = fileIn machine.effectiveDirectory := by
  unfold Machine.configFile effectiveDirectory
  cases machine.overrides.head? with
  | none => exact h
  | some directory => rfl

/-! ## The place of the configuration -/

/-- The place of the file of the stored configuration, from the root down. -/
def configPlace (machine : Machine) : Location := machine.configFile.location

/-- Directory and file of the configuration are in step, and the directory in force has an ordinary
path. -/
structure Placed (machine : Machine) : Prop where
  inStep : machine.InStep
  ordinary : machine.effectiveDirectory.Ordinary

section Placed

variable (h : machine.Placed)
include h

theorem configFile_ordinary : machine.configFile.Ordinary := by
  rw [h.inStep.configFile]
  exact h.ordinary.child (by decide) (by decide)

/-- The file in force is the one in the directory in force, whether or not that is an override. -/
theorem configFile_parts :
    machine.configFile.parts = machine.effectiveDirectory.parts ++ [configName] := by
  rw [h.inStep.configFile]
  rfl

/-- Where the file in force stands in the tree. -/
theorem configPlace_eq :
    machine.configPlace
      = machine.effectiveDirectory.location ++ [Path.octetsOf configName] := by
  rw [configPlace, Path.location, configFile_parts h, List.map_append]
  rfl

/-- The file in force stands in the directory in force. -/
theorem configPlace_dropLast :
    machine.configPlace.dropLast = machine.effectiveDirectory.location := by
  rw [configPlace_eq h, List.dropLast_concat]

/-- A path that is too long is a fault of looking for the file. -/
theorem has_of_long (hlong : Tree.isLongPath machine.configFile = true) :
    machine.has machine.configFile = .error (.nameTooLong machine.configFile.text) := by
  unfold has
  rw [(configFile_ordinary h).no_fault, hlong]
  rfl

/-- The file in force does not depend on the current directory. -/
theorem configFile_below (directory : Path) :
    machine.configFile.below directory = machine.configFile :=
  if_neg (configFile_ordinary h).rooted

/-- Whether the file is there is told by the way to it. -/
theorem has_configFile (hshort : Tree.isLongPath machine.configFile = false) :
    machine.has machine.configFile = match machine.files.walk [] machine.configFile.parts with
      | .ok place => .ok (machine.files.get? place).isSome
      | .error .nameTooLong => .error (.nameTooLong machine.configFile.text)
      | .error _ => .ok false := by
  unfold has
  rw [hshort, configFile_below h, if_neg (by simp)]
  unfold Tree.has Tree.look
  rw [(configFile_ordinary h).no_fault, if_neg (by simp)]
  rcases machine.files.walk [] machine.configFile.parts with fault | place
  · cases fault with
    | missing | throughFile | nameTooLong => rfl
  · rfl

variable (hstands : machine.files.Stands [] machine.effectiveDirectory.parts)
include hstands

/-- The way to the file of the configuration, if its directory is there. -/
theorem walk_configFile :
    machine.files.walk [] machine.configFile.parts = .ok machine.configPlace := by
  rw [configPlace, Path.location, configFile_parts h]
  exact Tree.walk_of_stands hstands h.ordinary.plain (by decide) (by decide)

/-- Where directories stand up to the file in force, its path leads to its place. -/
theorem placeOf_configFile :
    machine.files.placeOf machine.configFile = .ok machine.configPlace := by
  unfold Tree.placeOf
  rw [(configFile_ordinary h).no_fault]
  simp only [walk_configFile h hstands]

/-- The file in force is there exactly when the tree has something in its place. -/
theorem has_of_stands (hshort : Tree.isLongPath machine.configFile = false) :
    machine.has machine.configFile = .ok (machine.files.get? machine.configPlace).isSome := by
  rw [has_configFile h hshort, walk_configFile h hstands]

end Placed

end Machine

end Launcher
