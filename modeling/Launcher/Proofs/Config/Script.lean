import Launcher.Proofs.Config.Shelf

/-!
# Sessions with several directories

A session chooses directories, changes settings and reads the configuration, in any order and with
other directories in force for parts of it (`Script`). `Script.play` is what comes of it on a
machine. `Script.told` is what comes of it if there is nothing but a map from directories to
configurations, the directory chosen last, and the innermost directory in force around each call: a
setting that is changed is changed in one place of the map, reading looks up one place, and a call
that fails changes nothing, but for one that empties the file of a configuration
(`Call.told_fault_iff`).

Neither files nor a stack of directories are part of that second picture, so a fault of the files is
not told. `Script.Tells` leaves room for one: the call that meets it has no effect on the map.

> `Call.told_fault_iff` the calls that fail and change the map
> `Script.play_inStep` directory and file of the configuration are in step after every session
> `Script.Tells.eq_told` without faults of the files there is only what is told
-/

namespace Launcher.Config

/-! ## Sessions on a machine -/

/-- A call that has to do with directories and their configurations. -/
inductive Call where
  | choose (given : Value)
  | store (setting : Setting) (given : Value)
  | load

/-- What comes of a call: a configuration if it reads one, or a fault. -/
abbrev Answer := Except Fault (Option Config)

/-- What a call does on a machine. -/
def Call.action : Call → Action (Option Config)
  | .choose given => do
    Machine.setDirectory given
    return none
  | .store setting given => do
    Config.store setting given
    return none
  | .load => do
    return some (← Config.load)

/-- A session: calls one after the other, and parts with another directory in force. Such a part may
be left with a fault that is raised at its end, which is dealt with outside of it. -/
inductive Script where
  | done
  | call (call : Call) (rest : Script)
  | within (given : Value) (inner : Script) (raised : Option Fault) (rest : Script)

/-- The way in which a part of a session is left. -/
def ending : Option Fault → Except Fault Unit
  | none => .ok ()
  | some fault => .error fault

/-- What comes of the calls of a session on a machine, and the machine after it. A directory that
cannot be in force is answered with its fault, and the part that needs it is left out. -/
def Script.play : Script → Machine → List Answer × Machine
  | .done, machine => ([], machine)
  | .call first rest, machine =>
    let (answer, after) := first.action.on machine
    let (answers, last) := rest.play after
    (answer :: answers, last)
  | .within given inner raised rest, machine =>
    -- the answers given inside are kept, however the part ends
    let part : Action Unit := ExceptT.mk fun inside => (ending raised, (inner.play inside).2)
    let answers := match ((Machine.within given get).on machine).1 with
      | .ok inside => (inner.play inside).1
      | .error fault => [.error fault]
    let (others, last) := rest.play ((Machine.within given part).on machine).2
    (answers ++ others, last)

section Play

variable {given : Value} {machine : Machine} (inner rest : Script) (raised : Option Fault)

theorem play_done (machine : Machine) : Script.done.play machine = ([], machine) := rfl

/-- How a script goes on after a call. -/
theorem play_call (first : Call) (rest : Script) (machine : Machine) :
    (Script.call first rest).play machine
      = ((first.action.on machine).1 :: (rest.play (first.action.on machine).2).1,
          (rest.play (first.action.on machine).2).2) := rfl

/-- Without a directory there is no override to be gone back from. -/
theorem play_within_of_null (hnull : given.isNull = true) (machine : Machine) :
    (Script.within given inner raised rest).play machine
      = ((inner.play machine).1 ++ (rest.play (inner.play machine).2).1,
          (rest.play (inner.play machine).2).2) := by
  simp only [Script.play, Machine.within_on, if_pos hnull]
  rfl

/-- Where the directory of an override is refused, its script is skipped. -/
theorem play_within_of_error {fault : Fault} (hnull : ¬ given.isNull = true)
    (h : machine.directory given = .error fault) :
    (Script.within given inner raised rest).play machine
      = (.error fault :: (rest.play machine).1, (rest.play machine).2) := by
  simp only [Script.play, Machine.within_on, if_neg hnull, h]
  rfl

/-- An override is in force for its script and gone after it. -/
theorem play_within_of_ok {path : Path} (hnull : ¬ given.isNull = true)
    (h : machine.directory given = .ok path) {inside after : Machine} {answers : List Answer}
    (hinside : inside = { machine with overrides := path :: machine.overrides })
    (hinner : inner.play inside = (answers, after)) :
    (Script.within given inner raised rest).play machine
      = (answers ++ (rest.play { after with overrides := machine.overrides }).1,
          (rest.play { after with overrides := machine.overrides }).2) := by
  subst hinside
  have hanswers := congrArg Prod.fst hinner
  have hafter := congrArg Prod.snd hinner
  simp only at hanswers hafter
  simp only [Script.play, Machine.within_on, if_neg hnull, h, ← hanswers, ← hafter]
  rfl

end Play

/-- After a call directory and file of the configuration are in step. -/
theorem Call.action_inStep (call : Call) {machine : Machine} (h : machine.InStep) :
    (call.action.on machine).2.InStep := by
  cases call with
  | choose given =>
    rw [Call.action, Action.on_bind_pure]
    exact Machine.setDirectory_inStep h given
  | store setting given =>
    rw [Call.action, Action.on_bind_pure]
    exact (onlyFiles_store setting given).inStep h
  | load =>
    rw [Call.action, Action.on_bind_pure]
    exact onlyFiles_load.inStep h

/-- **Directory and file of the configuration stay in step** through every session, whatever is
chosen, changed and in force for a time, and whatever fails. -/
theorem Script.play_inStep (script : Script) : ∀ {machine : Machine}, machine.InStep →
    (script.play machine).2.InStep := by
  induction script with
  | done => exact id
  | call first rest ih =>
    intro machine h
    exact ih (first.action_inStep h)
  | within given inner raised rest ihInner ihRest =>
    intro machine h
    let part : Action Unit := ExceptT.mk fun inside => (ending raised, (inner.play inside).2)
    have hpart : ∀ inside : Machine, inside.InStep → (part.on inside).2.InStep := fun _ hinside =>
      ihInner hinside
    exact ihRest (Machine.within_inStep hpart h given)

/-! ## Sessions on a map -/

/-- The directory chosen last, and what reading the configuration of each directory gives. -/
structure Shelf where
  chosen : Path
  configs : Location → Except Fault Config

/-- The directory in force: the innermost one around, otherwise the one chosen last. -/
def Shelf.inForce (shelf : Shelf) (around : Option Path) : Location :=
  (around.getD shelf.chosen).location

/-- The map with another entry for the directory in force. -/
def Shelf.putting (shelf : Shelf) (around : Option Path) (kept : Except Fault Config) : Shelf :=
  { shelf with configs := Function.update shelf.configs (shelf.inForce around) kept }

/-- The directory that a value gives. -/
def directoryOf (home work : Path) (given : Value) : Except Fault Path := do
  (← (← Path.ofValue given).expandHome home).resolve work

/-- The value that a change gives a setting; any value counts as true or false. -/
def valueFor (setting : Setting) (given : Value) : Except Fault Value :=
  match setting with
  | .includeBuiltins => .ok (.bool given.isTrue)
  | _ => readSetting setting given

/-- What comes of a call, and the map after it. -/
def Call.told (home work : Path) (around : Option Path) (shelf : Shelf) : Call → Answer × Shelf
  | .choose given =>
    if given.isNull then (.ok none, { shelf with chosen := Machine.defaultDirectory home })
    else match directoryOf home work given with
      | .error fault => (.error fault, shelf)
      | .ok path => (.ok none, { shelf with chosen := path })
  | .store setting given =>
    match shelf.configs (shelf.inForce around) with
    | .error fault => (.error fault, shelf)
    | .ok config =>
      match valueFor setting given with
      | .error fault => (.error fault, shelf)
      | .ok v =>
        let changed := config.put setting v
        if Json.isWritable changed.toStored then
          match (Json.write .indented changed.toStored).encode with
          | .ok _ => (.ok none, shelf.putting around (.ok changed))
          | .error stuck => (.error (.halves stuck), shelf.putting around (.error emptyFault))
        else (.error (.tooManyDigits none), shelf)
  | .load => ((shelf.configs (shelf.inForce around)).map some, shelf)

/-- The call changes a setting of a configuration that can be read, and empties its file. -/
def Call.empties (around : Option Path) (shelf : Shelf) : Call → Prop
  | .store setting given => ∃ config, shelf.configs (shelf.inForce around) = .ok config ∧
      config.empties (setting, given) = true
  | _ => False

/-- The directory in force around a part of a session; null leaves it as it is. -/
def entering (home work : Path) (around : Option Path) (given : Value) :
    Except Fault (Option Path) :=
  if given.isNull then .ok around else (directoryOf home work given).map some

/-- What comes of the calls of a session, and the map after it. -/
def Script.told (home work : Path) : Script → Option Path → Shelf → List Answer × Shelf
  | .done, _, shelf => ([], shelf)
  | .call first rest, around, shelf =>
    let (answer, next) := first.told home work around shelf
    let (answers, last) := rest.told home work around next
    (answer :: answers, last)
  | .within given inner _ rest, around, shelf =>
    match entering home work around given with
    | .error fault =>
      let (others, last) := rest.told home work around shelf
      (.error fault :: others, last)
    | .ok inside =>
      let (answers, middle) := inner.told home work inside shelf
      let (others, last) := rest.told home work around middle
      (answers ++ others, last)

/-! ## Calls that fail -/

/-- Changing a setting is putting the value that it takes, if the configuration can be written. -/
theorem prepared_eq (config : Config) (setting : Setting) (given : Value) :
    config.prepared (setting, given) = (valueFor setting given).bind fun v =>
      if Json.isWritable (config.put setting v).toStored then
        .ok (config.put setting v, Json.write .indented (config.put setting v).toStored)
      else .error (.tooManyDigits none) := by
  have hassign : config.assign setting given
      = (valueFor setting given).map (config.put setting) := by
    cases setting <;> rfl
  unfold prepared
  rw [hassign]
  cases valueFor setting given with
  | error fault => rfl
  | ok v =>
    show (toStoredText _ >>= fun t => _) = ite _ _ _
    unfold toStoredText
    split <;> rfl

section

variable {home work : Path} {around : Option Path} {shelf : Shelf} {setting : Setting}
  {given : Value} {fault : Fault} {config : Config}

/-- Where the configuration cannot be read, setting a value fails with that fault. -/
theorem told_store_unread (hkept : shelf.configs (shelf.inForce around) = .error fault) :
    (Call.store setting given).told home work around shelf = (.error fault, shelf) := by
  rw [Call.told, hkept]

/-- A change of a configuration that can be read is told by what it leads to. -/
theorem told_store_prepared (hkept : shelf.configs (shelf.inForce around) = .ok config) :
    (Call.store setting given).told home work around shelf =
      match config.prepared (setting, given) with
      | .error fault => (.error fault, shelf)
      | .ok (changed, t) => match t.encode with
        | .ok _ => (.ok none, shelf.putting around (.ok changed))
        | .error stuck => (.error (.halves stuck), shelf.putting around (.error emptyFault)) := by
  rw [Call.told, hkept, prepared_eq]
  rcases valueFor setting given with fault | v
  · rfl
  · simp only [Except.bind]
    split
    · rfl
    · rfl

/-- It is told by what is accepted, and by what a refusal leaves. -/
theorem told_store (hkept : shelf.configs (shelf.inForce around) = .ok config) :
    (Call.store setting given).told home work around shelf =
      match config.accept (setting, given) with
      | .error fault => (.error fault, shelf.putting around (config.leftBy (setting, given)))
      | .ok changed => (.ok none, shelf.putting around (.ok changed)) := by
  have hsame : shelf.putting around (.ok config) = shelf := by
    rw [Shelf.putting, ← hkept, Function.update_eq_self]
  rw [told_store_prepared hkept]
  rcases hprepared : config.prepared (setting, given) with fault | ⟨changed, t⟩
  · obtain ⟨hrefused, hempties⟩ := refused_of_prepared hprepared
    rw [hrefused, leftBy_eq_ok_iff.mpr ⟨rfl, hempties⟩, hsame]
  · rcases hencode : t.encode with stuck | s
    · obtain ⟨hrefused, hempties⟩ := refused_of_stuck hprepared hencode
      have hleft : config.leftBy (setting, given) = .error emptyFault := if_pos hempties
      rw [hrefused, hleft]
      simp only [hencode]
    · obtain rfl := Text.encode_eq_ok_iff.mp hencode
      rw [accept_eq_ok_iff.mpr ⟨s, hprepared⟩]
      simp only [hencode]

/-- **A call that fails leaves the map as it is** exactly if it does not empty a file. -/
theorem Call.told_fault_iff {call : Call}
    (h : (call.told home work around shelf).1 = .error fault) :
    (call.told home work around shelf).2 = shelf ↔ ¬ call.empties around shelf := by
  cases call with
  | choose given =>
    refine iff_of_true ?_ id
    simp only [Call.told] at h ⊢
    split
    · next hnull =>
      rw [if_pos hnull] at h
      cases h
    · next hnull =>
      rw [if_neg hnull] at h
      split
      · rfl
      · next path hdirectory =>
        rw [hdirectory] at h
        cases h
  | load => exact iff_of_true rfl id
  | store setting given =>
    rcases hkept : shelf.configs (shelf.inForce around) with reason | config
    · rw [told_store_unread hkept]
      refine iff_of_true rfl ?_
      rintro ⟨config, hconfig, -⟩
      rw [hkept] at hconfig
      cases hconfig
    · rw [told_store hkept] at h ⊢
      rcases haccept : config.accept (setting, given) with reason | changed
      · have hsame : shelf.putting around (config.leftBy (setting, given)) = shelf ↔
            config.leftBy (setting, given) = .ok config := by
          rw [← hkept]
          constructor
          · intro heq
            have hentry := congrFun (congrArg Shelf.configs heq) (shelf.inForce around)
            simpa [Shelf.putting] using hentry
          · intro heq
            rw [heq, Shelf.putting, Function.update_eq_self]
        simp only [hsame, leftBy_eq_ok_iff, true_and]
        constructor
        · rintro hfalse ⟨other, hother, htrue⟩
          rw [hkept] at hother
          cases hother
          rw [hfalse] at htrue
          cases htrue
        · intro hnot
          by_contra htrue
          exact hnot ⟨config, hkept, by simpa using htrue⟩
      · rw [haccept] at h
        cases h

end

/-! ## Faults of the files -/

section

variable (home work : Path)

/-- The call is answered as the map says, or with a fault of the files and no change. -/
def Call.Tells (around : Option Path) (shelf : Shelf) (call : Call) (answer : Answer)
    (next : Shelf) : Prop :=
  (answer, next) = call.told home work around shelf ∨
    next = shelf ∧ ∃ fault, fault.isOfFiles = true ∧ answer = .error fault

/-- A part of a session has the directory in force that its value gives, or it is left out for a
fault of the files. -/
def Enters (around : Option Path) (given : Value) (result : Except Fault (Option Path)) : Prop :=
  result = entering home work around given ∨
    ∃ fault, fault.isOfFiles = true ∧ result = .error fault

/-- The answers to the calls of a session are as the map tells, but for faults of the files; and the
map after it. -/
inductive Script.Tells : Option Path → Shelf → Script → List Answer → Shelf → Prop where
  | done {around : Option Path} {shelf : Shelf} : Tells around shelf .done [] shelf
  | call {around : Option Path} {shelf next last : Shelf} {first : Call} {rest : Script}
    {answer : Answer} {answers : List Answer}
    (tells : first.Tells home work around shelf answer next)
    (more : Tells around next rest answers last) :
    Tells around shelf (.call first rest) (answer :: answers) last
  | within {around inside : Option Path} {shelf middle last : Shelf} {given : Value}
    {inner rest : Script} {raised : Option Fault} {answers others : List Answer}
    (enters : Enters home work around given (.ok inside))
    (tells : Tells inside shelf inner answers middle)
    (more : Tells around middle rest others last) :
    Tells around shelf (.within given inner raised rest) (answers ++ others) last
  | leftOut {around : Option Path} {shelf last : Shelf} {given : Value} {inner rest : Script}
    {raised : Option Fault} {fault : Fault} {others : List Answer}
    (enters : Enters home work around given (.error fault))
    (more : Tells around shelf rest others last) :
    Tells around shelf (.within given inner raised rest) (.error fault :: others) last

end

variable {home work : Path} {shelf : Shelf}

/-- Without a fault of the files there is only one way to answer the calls of a session. -/
theorem Script.Tells.eq_told {around : Option Path} {last : Shelf} {script : Script}
    {answers : List Answer} (h : script.Tells home work around shelf answers last)
    (hfiles : ∀ fault, .error fault ∈ answers → fault.isOfFiles = false) :
    (answers, last) = script.told home work around shelf := by
  induction h with
  | done => rfl
  | call tells more ih =>
    rcases tells with hsame | ⟨-, fault, hfault, rfl⟩
    · have hrest := ih fun fault hmem => hfiles fault (List.mem_cons_of_mem _ hmem)
      simp only [Script.told, ← hsame, ← hrest]
    · exact absurd (hfiles fault List.mem_cons_self) (by rw [hfault]; nofun)
  | within enters tells more ihInner ihRest =>
    rcases enters with hsame | ⟨fault, -, hfault⟩
    · have hinner := ihInner fun fault hmem => hfiles fault (List.mem_append_left _ hmem)
      have hrest := ihRest fun fault hmem => hfiles fault (List.mem_append_right _ hmem)
      simp only [Script.told, ← hsame, ← hinner, ← hrest]
    · cases hfault
  | leftOut enters more ih =>
    rcases enters with hsame | ⟨fault, hfault, hsame⟩
    · have hrest := ih fun fault hmem => hfiles fault (List.mem_cons_of_mem _ hmem)
      simp only [Script.told, ← hsame, ← hrest]
    · cases hsame
      exact absurd (hfiles _ List.mem_cons_self) (by rw [hfault]; nofun)

end Launcher.Config
