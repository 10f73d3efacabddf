import Launcher.Proofs.Config.Script

/-!
# Files as a map from directories to configurations

A machine `Agrees` with a map if its files keep the configurations of the map, and the directory
chosen last and those in force are the same. What one call does on such a machine is what the map
tells, or nothing for a fault of the files; so it is with whole sessions, by induction. On the way
into a part of a session the directory of that part is put on the stack of the machine, and on the
way out the stack is the one from before, however the part ends.

> `Agrees.call` one call
> `Script.play_tells` a session on a machine that agrees with a map
> **`session_follows_map`** a session from the start
> `halfScript_changes` a session in which a call that fails changes what is read
-/

namespace Launcher.Config

/-- The machine keeps what the map says, with the given directories in force from the innermost
outwards. -/
structure Agrees (home work : Path) (entered : List Path) (machine : Machine) (shelf : Shelf) :
    Prop where
  same_home : machine.home = home
  same_work : machine.work = work
  same_entered : machine.overrides = entered
  same_chosen : machine.configDirectory = shelf.chosen
  in_step : machine.InStep
  home_ordinary : home.Ordinary
  ordinary : ∀ path ∈ shelf.chosen :: entered, path.Ordinary
  keeps : Shelved machine.files shelf.configs

variable {home work : Path} {entered : List Path} {machine : Machine} {shelf : Shelf}

/-! ## One call -/

/-- The directory that a value gives on a machine is the one that its path leads to, unless the
files are against it. -/
theorem directory_cases (machine : Machine) (given : Value) :
    machine.directory given = directoryOf machine.home machine.work given ∨
      ∃ fault, fault.isOfFiles = true ∧ machine.directory given = .error fault := by
  unfold Machine.directory directoryOf Machine.expand
  simp only [bind, Except.bind]
  rcases Path.ofValue given with fault | named
  · exact Or.inl rfl
  rcases hexpanded : named.expandHome machine.home with fault | expanded
  · simp only [hexpanded]
    exact Or.inl trivial
  simp only [hexpanded]
  rcases hresolved : expanded.resolve machine.work with fault | path
  · exact Or.inl rfl
  simp only
  cases Tree.isLongPath path with
  | true => exact Or.inr ⟨_, rfl, rfl⟩
  | false =>
    simp only [Bool.false_eq_true, if_false]
    rcases hlook : machine.files.look path with fault | _ | _ | content
    · exact Or.inr ⟨_, Tree.look_error hlook, rfl⟩
    · exact Or.inl rfl
    · exact Or.inl rfl
    · exact Or.inr ⟨_, rfl, rfl⟩

theorem ordinary_defaultDirectory (h : home.Ordinary) :
    (Machine.defaultDirectory home).Ordinary := h.child (by decide) (by decide)

namespace Agrees

variable (h : Agrees home work entered machine shelf)
include h

/-- The directory in force is that of the innermost override, otherwise the one chosen last. -/
theorem effectiveDirectory_eq : machine.effectiveDirectory = entered.head?.getD shelf.chosen := by
  unfold Machine.effectiveDirectory
  rw [h.same_entered, h.same_chosen]

theorem effectiveDirectory_ordinary : machine.effectiveDirectory.Ordinary := by
  rw [h.effectiveDirectory_eq]
  cases entered with
  | nil => exact h.ordinary _ List.mem_cons_self
  | cons path rest => exact h.ordinary path (by simp)

theorem placed : machine.Placed := ⟨h.in_step, h.effectiveDirectory_ordinary⟩

/-- The shelf looks for the configuration where the machine does. -/
theorem location_eq : machine.effectiveDirectory.location = shelf.inForce entered.head? := by
  rw [h.effectiveDirectory_eq]
  rfl

/-- Another directory is chosen. -/
theorem choose {path : Path} (hpath : path.Ordinary) :
    Agrees home work entered (machine.storingIn path) { shelf with chosen := path } :=
  { h with
    same_chosen := rfl
    in_step := rfl
    ordinary := List.forall_mem_cons.mpr ⟨hpath, fun other hother =>
      h.ordinary other (List.mem_cons_of_mem _ hother)⟩ }

/-- The files change, and with them what is kept. -/
theorem withFiles {files : Tree} {configs : Location → Except Fault Config}
    (hfiles : Shelved files configs) :
    Agrees home work entered (machine.withFiles files) { shelf with configs } :=
  { h with keeps := hfiles }

/-- Naming a directory gives what the shelf knows of it, or a fault of the files. -/
theorem directory_cases (given : Value) :
    machine.directory given = directoryOf home work given ∨
      ∃ fault, fault.isOfFiles = true ∧ machine.directory given = .error fault := by
  rw [← h.same_home, ← h.same_work]
  exact Config.directory_cases machine given

/-- Choosing a directory does what the shelf says. -/
theorem choose_tells (given : Value) :
    ∃ next, (Call.choose given).Tells home work entered.head? shelf
        ((Call.choose given).action.on machine).1 next ∧
      Agrees home work entered ((Call.choose given).action.on machine).2 next := by
  rw [Call.action, Action.on_bind_pure, Machine.setDirectory_on]
  by_cases hnull : given.isNull = true
  · have hdefault : Machine.defaultDirectory machine.home = Machine.defaultDirectory home := by
      rw [h.same_home]
    rw [if_pos hnull, hdefault]
    refine ⟨_, Or.inl ?_, h.choose (ordinary_defaultDirectory h.home_ordinary)⟩
    rw [Call.told, if_pos hnull]
    rfl
  rw [if_neg hnull]
  rcases h.directory_cases given with hsame | ⟨fault, hfault, hdirectory⟩
  · rcases hdirectory : machine.directory given with fault | path
    · refine ⟨shelf, Or.inl ?_, h⟩
      rw [Call.told, if_neg hnull, ← hsame, hdirectory]
      rfl
    · refine ⟨_, Or.inl ?_, h.choose (Machine.ordinary_of_directory hdirectory)⟩
      rw [Call.told, if_neg hnull, ← hsame, hdirectory]
      rfl
  · rw [hdirectory]
    exact ⟨shelf, Or.inr ⟨rfl, fault, hfault, rfl⟩, h⟩

/-- Setting a value does what the shelf says. -/
theorem store_tells (setting : Setting) (given : Value) :
    ∃ next, (Call.store setting given).Tells home work entered.head? shelf
        ((Call.store setting given).action.on machine).1 next ∧
      Agrees home work entered ((Call.store setting given).action.on machine).2 next := by
  obtain ⟨result, files, kept, hon, hkept, hstores⟩ :=
    h.keeps.store h.placed setting given
  rw [Call.action, Action.on_bind_pure, hon]
  refine ⟨_, ?_, h.withFiles hkept⟩
  cases hstores with
  | failed hfault => exact Or.inr ⟨rfl, _, hfault, rfl⟩
  | unread hentry =>
    rw [h.location_eq] at hentry
    exact Or.inl (by rw [told_store_unread hentry]; rfl)
  | refused hentry haccept =>
    rw [h.location_eq] at hentry ⊢
    exact Or.inl (by rw [told_store hentry, haccept]; rfl)
  | accepted hentry haccept =>
    rw [h.location_eq] at hentry ⊢
    exact Or.inl (by rw [told_store hentry, haccept]; rfl)

/-- Reading the configuration gives what the shelf holds and changes nothing. -/
theorem load_tells :
    Call.load.Tells home work entered.head? shelf (Call.load.action.on machine).1 shelf ∧
      Agrees home work entered (Call.load.action.on machine).2 shelf := by
  rw [Call.action, Action.on_bind_pure, load_on]
  refine ⟨?_, h⟩
  rcases stored_of_shelved h.placed h.keeps with hstored | ⟨fault, hfault, hstored⟩
  · rw [hstored, h.location_eq]
    exact Or.inl rfl
  · rw [hstored]
    exact Or.inr ⟨rfl, fault, hfault, rfl⟩

/-- **One call** is answered as the map tells, and the machine still agrees with it. -/
theorem call (call : Call) :
    ∃ next, call.Tells home work entered.head? shelf (call.action.on machine).1 next ∧
      Agrees home work entered (call.action.on machine).2 next := by
  cases call with
  | choose given => exact h.choose_tells given
  | store setting given => exact h.store_tells setting given
  | load => exact ⟨shelf, h.load_tells⟩

/-- Entering an override is naming its directory. -/
theorem enters {given : Value} (hnull : ¬ given.isNull = true) :
    Enters home work entered.head? given ((machine.directory given).map some) := by
  rcases h.directory_cases given with hsame | ⟨fault, hfault, hdirectory⟩
  · exact Or.inl (by rw [entering, if_neg hnull, hsame])
  · exact Or.inr ⟨fault, hfault, by rw [hdirectory]; rfl⟩

/-- A directory is in force from now on. -/
theorem enter {path : Path} (hpath : path.Ordinary) :
    Agrees home work (path :: entered) { machine with overrides := path :: machine.overrides }
      shelf :=
  { h with
    same_entered := by rw [h.same_entered]
    ordinary := fun other hother => by
      rcases List.mem_cons.mp hother with rfl | hother
      · exact h.ordinary _ List.mem_cons_self
      · rcases List.mem_cons.mp hother with rfl | hother
        · exact hpath
        · exact h.ordinary _ (List.mem_cons_of_mem _ hother) }

/-- The directories in force are those from before again. -/
theorem leave {path : Path} {after : Machine} {next : Shelf}
    (hafter : Agrees home work (path :: entered) after next) :
    Agrees home work entered { after with overrides := machine.overrides } next :=
  { hafter with
    same_entered := h.same_entered
    ordinary := fun other hother => hafter.ordinary other <| by
      rcases List.mem_cons.mp hother with rfl | hother
      · exact List.mem_cons_self
      · exact List.mem_cons_of_mem _ (List.mem_cons_of_mem _ hother) }

end Agrees

/-! ## A whole session -/

/-- **A session on a machine that agrees with a map** is answered as the map tells, and the machine
agrees with the map again when the session is over. -/
theorem Script.play_tells (script : Script) : ∀ {entered : List Path} {machine : Machine}
    {shelf : Shelf}, Agrees home work entered machine shelf →
      ∃ last, script.Tells home work entered.head? shelf (script.play machine).1 last ∧
        Agrees home work entered (script.play machine).2 last := by
  induction script with
  | done => exact fun h => ⟨_, .done, h⟩
  | call first rest ih =>
    intro entered machine shelf h
    obtain ⟨next, htells, hagrees⟩ := h.call first
    obtain ⟨last, hmore, hlast⟩ := ih hagrees
    exact ⟨last, .call htells hmore, hlast⟩
  | within given inner raised rest ihInner ihRest =>
    intro entered machine shelf h
    by_cases hnull : given.isNull = true
    · -- the directory in force stays
      rw [play_within_of_null inner rest raised hnull]
      obtain ⟨middle, htells, hagrees⟩ := ihInner h
      obtain ⟨last, hmore, hlast⟩ := ihRest hagrees
      have henters : Enters home work entered.head? given (.ok entered.head?) :=
        Or.inl (by rw [entering, if_pos hnull])
      exact ⟨last, .within henters htells hmore, hlast⟩
    have henters := h.enters hnull
    rcases hdirectory : machine.directory given with fault | path
    · rw [play_within_of_error inner rest raised hnull hdirectory]
      rw [hdirectory] at henters
      obtain ⟨last, hmore, hlast⟩ := ihRest h
      exact ⟨last, .leftOut henters hmore, hlast⟩
    · rw [play_within_of_ok inner rest raised hnull hdirectory rfl rfl]
      rw [hdirectory] at henters
      obtain ⟨middle, htells, hagrees⟩ :=
        ihInner (h.enter (Machine.ordinary_of_directory hdirectory))
      obtain ⟨last, hmore, hlast⟩ := ihRest (h.leave hagrees)
      exact ⟨last, .within henters htells hmore, hlast⟩

/-- What is kept when the first session begins: no directory has been chosen yet. -/
def Shelf.first (home : Path) (files : Tree) : Shelf :=
  ⟨Machine.defaultDirectory home, keptIn files⟩

/-- A machine agrees with its first shelf before anything is done. -/
theorem agrees_fresh {files : Tree} (catalogVariable : Option Text) (platform : Platform)
    (terminalWidth : Nat) (hhome : home.Ordinary) (hclosed : files.Closed) :
    Agrees home work []
      (Machine.fresh home work catalogVariable platform terminalWidth files)
      (.first home files) where
  same_home := rfl
  same_work := rfl
  same_entered := rfl
  same_chosen := rfl
  in_step := rfl
  home_ordinary := hhome
  ordinary := List.forall_mem_singleton.mpr (ordinary_defaultDirectory hhome)
  keeps := shelved_keptIn hclosed

/-- **The files are a map from directories to configurations.** A session on a fresh machine is
answered as the map tells that its files give, and the machine agrees with the map again when the
session is over. If no call meets a fault of the files, that says exactly which answers come; a call
that meets one changes nothing on the map. Neither does any other call that fails, but for those
that change a setting of a configuration whose path holds half of a surrogate pair then: they empty
its file. -/
theorem session_follows_map {files : Tree} (script : Script) (catalogVariable : Option Text)
    (platform : Platform) (terminalWidth : Nat) (hhome : home.Ordinary) (hclosed : files.Closed) :
    let machine := Machine.fresh home work catalogVariable platform terminalWidth files
    let played := script.play machine
    let told := script.told home work none (.first home files)
    (∃ last, script.Tells home work none (.first home files) played.1 last ∧
      Agrees home work [] played.2 last) ∧
    ((∀ fault, .error fault ∈ played.1 → fault.isOfFiles = false) →
      played.1 = told.1 ∧ Agrees home work [] played.2 told.2) ∧
    ∀ (around : Option Path) (shelf : Shelf) (call : Call) (fault : Fault),
      (call.told home work around shelf).1 = .error fault →
        ((call.told home work around shelf).2 = shelf ↔ ¬ call.empties around shelf) := by
  obtain ⟨last, htells, hagrees⟩ := script.play_tells
    (agrees_fresh catalogVariable platform terminalWidth hhome hclosed)
  refine ⟨⟨last, htells, hagrees⟩, fun hfiles => ?_, fun _ _ _ _ => Call.told_fault_iff⟩
  have htold := htells.eq_told hfiles
  exact ⟨congrArg Prod.fst htold, congrArg Prod.snd htold ▸ hagrees⟩

/-! ## A session with two directories -/

/-- A session that fails to change a setting in a directory, leaves that directory with a fault, and
changes the setting outside of it. -/
def trialScript : Script :=
  .within (.text "/data") (.call (.store .limit (.int 0)) (.call .load .done))
      (some .wrongType) <|
    .call (.store .limit (.int 3)) <|
    .call .load .done

/-- The machine without files, with that directory in force. -/
def bareData : Machine := { bareMachine with overrides := [⟨.plain, ["data"]⟩] }

theorem load_bareData : load.on bareData = (.ok standard, bareData) := by
  have hnone : bareData.has bareData.configFile = .ok false := rfl
  rw [load_on, stored_of_not_has hnone]

theorem store_bareData :
    (store .limit (.int 0)).on bareData = (.error (.configValue .limit), bareData) := by
  unfold store
  rw [Action.on_bind_ok load_bareData]
  rfl

/-- How a script goes on after a reading. -/
theorem play_load (rest : Script) (machine : Machine) :
    (Script.call .load rest).play machine
      = ((stored machine).map some :: (rest.play machine).1, (rest.play machine).2) := by
  rw [play_call, Call.action, Action.on_bind_pure, load_on]

/-- How a script goes on after a setting. -/
theorem play_store (setting : Setting) (given : Value) (rest : Script) (machine : Machine) :
    (Script.call (.store setting given) rest).play machine
      = (((store setting given).on machine).1.map (fun _ => none) ::
          (rest.play ((store setting given).on machine).2).1,
          (rest.play ((store setting given).on machine).2).2) := by
  rw [play_call, Call.action, Action.on_bind_pure]

/-- What the calls of the script answer. -/
theorem trialScript_play : (trialScript.play bareMachine).1
    = [.error (.configValue .limit), .ok (some standard), .ok none,
        .ok (some (standard.put .limit (.int 3)))] := by
  have hdirectory : bareMachine.directory (.text "/data") = .ok ⟨.plain, ["data"]⟩ := rfl
  have hinner : Script.play (.call (.store .limit (.int 0)) (.call .load .done)) bareData
      = ([.error (.configValue .limit), .ok (some standard)], bareData) := by
    have hstored : stored bareData = .ok standard := stored_of_not_has rfl
    rw [play_store, store_bareData, play_load, hstored, play_done]
    rfl
  have hlast : (Script.play (.call (.store .limit (.int 3)) (.call .load .done)) bareMachine).1
      = [.ok none, .ok (some (standard.put .limit (.int 3)))] := by
    obtain ⟨after, hstore, hserves⟩ := bareMachine_serves.store_accepted accept_limit
    rw [play_store, hstore, play_load, hserves.stored, play_done]
    rfl
  have hleave : { bareData with overrides := bareMachine.overrides } = bareMachine := rfl
  have hnull : ¬ (Value.text "/data").isNull = true := nofun
  rw [trialScript, play_within_of_ok _ _ _ hnull hdirectory rfl hinner, hleave, hlast]
  rfl

/-- That session on a machine without files meets no fault of the files, and is answered as the map
tells. -/
theorem trialScript_follows_map :
    bareMachine.home.Ordinary ∧ Tree.empty.Closed ∧
      (trialScript.play bareMachine).1
        = (trialScript.told bareMachine.home bareMachine.work none
            (.first bareMachine.home Tree.empty)).1 := by
  have hhome : bareMachine.home.Ordinary := ⟨by decide, by decide, by decide⟩
  have hfiles : ∀ fault, .error fault ∈ (trialScript.play bareMachine).1 →
      fault.isOfFiles = false := by
    rw [trialScript_play]
    intro fault hmem
    simp only [List.mem_cons, Except.error.injEq, reduceCtorEq, or_false, List.not_mem_nil] at hmem
    rw [hmem]
    rfl
  exact ⟨hhome, Tree.closed_empty,
    ((session_follows_map trialScript none .linux 80 hhome Tree.closed_empty).2.1 hfiles).1⟩

/-- A path that is half of a surrogate pair. -/
def halfPath : Text := Text.loneHalf

/-- A call that fails changes what is read: the standard is in force, a path that is half of a pair
is refused, and afterwards the configuration cannot be read. -/
theorem halfScript_changes : ∃ stuck,
    (Script.play (.call .load <| .call (.store .catalogPath (.text halfPath)) <| .call .load .done)
      bareMachine).1 = [.ok (some standard), .error (.halves stuck), .error emptyFault] := by
  have hassign : standard.assign .catalogPath (.text halfPath)
      = .ok (standard.put .catalogPath (.text halfPath)) := by rfl
  have hempties : standard.empties (.catalogPath, .text halfPath) = true :=
    (empties_iff proper_standard).mpr ⟨_, hassign, by rfl, by rfl⟩
  obtain ⟨stuck, haccept⟩ := exists_halves_of_empties hempties
  obtain ⟨after, hstore, -, hempty⟩ := bareMachine_serves.store_refused haccept
  refine ⟨stuck, ?_⟩
  rw [play_load, bareMachine_serves.stored, play_store, hstore, play_load, hempty hempties,
    play_done]
  rfl

end Launcher.Config
