import Launcher.Proofs.Config.Stored
import Launcher.Proofs.Json.Halves

/-!
# Changing the stored configuration

A request makes its changes one after the other, and every change that is accepted is stored before
the next one is looked at. So a request that is refused has stored what came before the refused
change, and reading the configuration afterwards gives what these changes lead to. It gives the
configuration from before the request only if they lead back to it.

Nothing is asked of the machine but that its configuration can be read and its directory made; with
that, no step fails but for a value that is refused, or for a configuration whose path holds half of
a surrogate pair. The file is emptied before it turns out that this path cannot be written.

> `accept` the configuration after one change
> `empties`, `empties_iff` the changes that empty the file
> `Serves.store_accepted`, `Serves.store_refused` one change on a machine
> `storeAll_on` several changes, up to the first that is refused
> **`update_refused`** what a request that is refused leaves behind
-/

namespace Launcher.Config

variable {machine : Machine} {config changed : Config}

/-! ## One change -/

/-- The configuration that a change leads to, and the text that it is to be stored as. -/
def prepared (config : Config) (change : Setting × Value) : Except Fault (Config × Text) := do
  let changed ← config.assign change.1 change.2
  let t ← changed.toStoredText
  .ok (changed, t)

/-- The configuration with a new value for one setting, if the value is accepted and can be
written. -/
def accept (config : Config) (change : Setting × Value) : Except Fault Config := do
  let (changed, t) ← config.prepared change
  match t.encode with
  | .ok _ => .ok changed
  | .error stuck => .error (.halves stuck)

/-- The value is accepted, but what is to be written holds half of a pair. -/
def empties (config : Config) (change : Setting × Value) : Bool :=
  match config.prepared change with
  | .ok (_, t) => t.hasHalf
  | .error _ => false

variable {change : Setting × Value} {fault : Fault} {t : Text}

/-- A change gives a document exactly when its value is accepted and can be written. -/
theorem prepared_eq_ok_iff : config.prepared change = .ok (changed, t) ↔
    config.assign change.1 change.2 = .ok changed ∧ changed.toStoredText = .ok t := by
  unfold prepared
  rcases config.assign change.1 change.2 with reason | given
  · simp [bind, Except.bind]
  · rcases hgiven : given.toStoredText with reason | text
    · simp only [bind, Except.bind, hgiven, Except.ok.injEq, false_iff, not_and, reduceCtorEq]
      rintro rfl
      simp [hgiven]
    · simp only [bind, Except.bind, hgiven, Except.ok.injEq, Prod.mk.injEq]
      refine and_congr_right ?_
      rintro rfl
      simp [hgiven]

theorem hasHalf_key (setting : Setting) : setting.key.hasHalf = false := by
  cases setting <;> rfl

/-- Of a proper configuration only the path can hold half of a pair. -/
theorem Proper.holdsHalf_toStored (h : config.Proper) :
    Json.holdsHalf config.toStored = Json.holdsHalf config.catalogPath := by
  have hnone : ∀ setting ≠ Setting.catalogPath, Json.holdsHalf (config.value setting) = false := by
    intro setting hne
    have hallows := h setting
    cases setting with
    | prefixBonus | titleMultiplier | keywordMultiplier =>
      obtain ⟨x, hx⟩ := hallows
      rw [hx]
      rfl
    | limit | pageSize | debounceMs =>
      obtain ⟨n, -, hn⟩ := hallows
      rw [hn]
      rfl
    | includeBuiltins =>
      obtain ⟨b, hb⟩ := hallows
      rw [hb]
      rfl
    | catalogPath => exact absurd rfl hne
  rw [toStored_eq h, Json.holdsHalf, Json.fieldsHoldHalf_eq, storedFields, List.any_map]
  rw [Bool.eq_iff_iff, List.any_eq_true]
  constructor
  · rintro ⟨setting, -, hhalf⟩
    simp only [Function.comp_apply, hasHalf_key, Bool.false_or] at hhalf
    by_cases hpath : setting = .catalogPath
    · rw [hpath] at hhalf
      exact hhalf
    · rw [hnone setting hpath] at hhalf
      cases hhalf
  · intro hhalf
    refine ⟨.catalogPath, ?_, ?_⟩
    · rcases h .catalogPath with hnull | ⟨htrue, -⟩
      · have hpath : config.catalogPath = .null := hnull
        rw [hpath] at hhalf
        exact absurd hhalf Bool.false_ne_true
      · have hpath : config.catalogPath.isTrue = true := htrue
        simp [storedSettings, hpath]
    · simp only [Function.comp_apply, hasHalf_key, Bool.false_or]
      exact hhalf

/-- The document of a configuration, if all of it can be written. -/
theorem toStoredText_eq_ok_iff : config.toStoredText = .ok t ↔
    Json.isWritable config.toStored = true ∧ t = Json.write .indented config.toStored := by
  unfold toStoredText
  split
  · next hwritable => simp [hwritable, eq_comm]
  · next hwritable => simp [hwritable]

/-- The text that a proper configuration is stored as holds half of a pair exactly if its path
does. -/
theorem Proper.hasHalf_toStoredText (h : config.Proper) (ht : config.toStoredText = .ok t) :
    t.hasHalf = Json.holdsHalf config.catalogPath := by
  rw [(toStoredText_eq_ok_iff.mp ht).2, Json.hasHalf_write Json.Layout.spaced_indented,
    h.holdsHalf_toStored]

/-- **A change empties the file** exactly if it is accepted, and the configuration that it leads to
can be written but for its path, which holds half of a pair. -/
theorem empties_iff (h : config.Proper) : config.empties change = true ↔
    ∃ changed, config.assign change.1 change.2 = .ok changed ∧
      Json.isWritable changed.toStored = true ∧ Json.holdsHalf changed.catalogPath = true := by
  constructor
  · intro htrue
    unfold empties at htrue
    split at htrue
    · next changed t hprepared =>
      obtain ⟨hassign, ht⟩ := prepared_eq_ok_iff.mp hprepared
      refine ⟨changed, hassign, (toStoredText_eq_ok_iff.mp ht).1, ?_⟩
      rw [← (h.assign hassign).hasHalf_toStoredText ht, htrue]
    · cases htrue
  · rintro ⟨changed, hassign, hwritable, hpath⟩
    have ht := toStoredText_eq_ok_iff.mpr ⟨hwritable, rfl⟩
    unfold empties
    rw [prepared_eq_ok_iff.mpr ⟨hassign, ht⟩]
    exact ((h.assign hassign).hasHalf_toStoredText ht).trans hpath

/-- A change is accepted exactly when its document has no half of a pair in it. -/
theorem accept_eq_ok_iff : config.accept change = .ok changed ↔
    ∃ s, config.prepared change = .ok (changed, Text.ofString s) := by
  unfold accept
  rcases config.prepared change with reason | ⟨given, t⟩
  · simp [bind, Except.bind]
  · rcases ht : t.encode with stuck | s
    · simp only [bind, Except.bind, ht, Except.ok.injEq, Prod.mk.injEq, reduceCtorEq, false_iff]
      rintro ⟨s, -, rfl⟩
      rw [Text.encode_ofString] at ht
      cases ht
    · simp only [bind, Except.bind, ht, Except.ok.injEq, Prod.mk.injEq]
      rw [Text.encode_eq_ok_iff] at ht
      exact ⟨fun h => ⟨s, h, ht⟩, fun ⟨_, h, _⟩ => h⟩

/-- What is refused before anything is written does not empty the file. -/
theorem refused_of_prepared (h : config.prepared change = .error fault) :
    config.accept change = .error fault ∧ config.empties change = false := by
  unfold accept empties
  rw [h]
  exact ⟨rfl, rfl⟩

/-- A text that cannot be written empties the file. -/
theorem refused_of_stuck {stuck : Text.Halves} (h : config.prepared change = .ok (changed, t))
    (ht : t.encode = .error stuck) :
    config.accept change = .error (.halves stuck) ∧ config.empties change = true := by
  unfold accept empties
  rw [h]
  simp only [bind, Except.bind, ht, true_and]
  by_contra hfalse
  obtain ⟨s, hs⟩ := Text.exists_encode_iff.mpr (by simpa using hfalse)
  rw [hs] at ht
  cases ht

/-- A change that empties the file is refused for the halves that cannot be written. -/
theorem exists_halves_of_empties (h : config.empties change = true) :
    ∃ stuck, config.accept change = .error (.halves stuck) := by
  unfold empties at h
  split at h
  · next changed t hprepared =>
    rcases hencode : t.encode with stuck | s
    · exact ⟨stuck, (refused_of_stuck hprepared hencode).1⟩
    · rw [Text.exists_encode_iff.mp ⟨s, hencode⟩] at h
      cases h
  · cases h

/-- A change is accepted if its value is and the configuration that it leads to can be written. -/
theorem Proper.accept_eq_ok (h : config.Proper)
    (hassign : config.assign change.1 change.2 = .ok changed)
    (hwritable : Json.isWritable changed.toStored = true)
    (hpath : Json.holdsHalf changed.catalogPath = false) : config.accept change = .ok changed := by
  have ht := toStoredText_eq_ok_iff.mpr ⟨hwritable, rfl⟩
  have hhalf := (h.assign hassign).hasHalf_toStoredText ht
  rw [hpath] at hhalf
  obtain ⟨s, hs⟩ := Text.exists_encode_iff.mpr hhalf
  rw [Text.encode_eq_ok_iff] at hs
  exact accept_eq_ok_iff.mpr ⟨s, prepared_eq_ok_iff.mpr ⟨hassign, hs ▸ ht⟩⟩

/-- The configuration that a machine serves is the one that is read. -/
theorem Serves.load_on (h : Serves machine config) : load.on machine = (.ok config, machine) := by
  rw [Config.load_on, h.stored]

/-- A change that is accepted is stored. -/
theorem Serves.store_accepted (h : Serves machine config)
    (haccept : config.accept change = .ok changed) :
    ∃ after, (store change.1 change.2).on machine = (.ok (), after) ∧ Serves after changed := by
  obtain ⟨s, hprepared⟩ := accept_eq_ok_iff.mp haccept
  obtain ⟨hassign, hs⟩ := prepared_eq_ok_iff.mp hprepared
  have hproper : changed.Proper := (stored_proper h.stored).assign hassign
  obtain ⟨made, hmade⟩ := exists_made h.placed h.closed h.makes
  obtain ⟨after, hafter, hdone⟩ := (h.of_made hmade).written hmade.stands hproper hs
  refine ⟨after, ?_, hdone⟩
  unfold store
  rw [Action.on_bind_ok h.load_on, Action.on_bind_ok (Action.on_liftExcept_of_eq hassign machine),
    hmade.save_on hs, hafter]

/-- A change that is refused leaves the configuration as it is, unless it empties the file. -/
theorem Serves.store_refused (h : Serves machine config)
    (haccept : config.accept change = .error fault) :
    ∃ after, (store change.1 change.2).on machine = (.error fault, after) ∧
      (config.empties change = false → Serves after config) ∧
      (config.empties change = true → Config.stored after = .error emptyFault) := by
  unfold store
  rw [Action.on_bind_ok h.load_on]
  rcases hprepared : config.prepared change with reason | ⟨changed, t⟩
  · -- the value is refused, or what it leads to has too many digits
    obtain ⟨hrefused, hempties⟩ := refused_of_prepared hprepared
    obtain rfl : reason = fault := Except.error.inj (hrefused.symm.trans haccept)
    have hnot : ¬ config.empties change = true := by rw [hempties]; nofun
    unfold prepared at hprepared
    rcases bind_eq_error_iff.mp hprepared with hassign | ⟨given, hassign, hwrite⟩
    · refine ⟨machine, ?_, fun _ => h, fun htrue => absurd htrue hnot⟩
      rw [Action.on_bind_error (Action.on_liftExcept_of_eq hassign machine)]
    · -- the directory is made before it turns out that the configuration cannot be written
      obtain ⟨made, hmade⟩ := exists_made h.placed h.closed h.makes
      have hs : given.toStoredText = .error reason := by
        rcases bind_eq_error_iff.mp hwrite with hs | ⟨s, -, hok⟩
        · exact hs
        · cases hok
      refine ⟨made, ?_, fun _ => h.of_made hmade, fun htrue => absurd htrue hnot⟩
      unfold save
      rw [Action.on_bind_ok (Action.on_liftExcept_of_eq hassign machine),
        Action.on_bind_ok hmade.on, Action.on_bind_error (Action.on_liftExcept_of_eq hs made)]
  · rcases hencode : t.encode with stuck | s
    · -- the value is accepted, but its text cannot be written
      obtain ⟨hassign, ht⟩ := prepared_eq_ok_iff.mp hprepared
      obtain ⟨hrefused, hempties⟩ := refused_of_stuck hprepared hencode
      obtain rfl : .halves stuck = fault := Except.error.inj (hrefused.symm.trans haccept)
      obtain ⟨made, hmade⟩ := exists_made h.placed h.closed h.makes
      obtain ⟨after, hafter, hempty⟩ := (h.of_made hmade).emptied hmade.stands hencode
      refine ⟨after, ?_, fun hfalse => absurd hempties (by rw [hfalse]; nofun), fun _ => hempty⟩
      rw [Action.on_bind_ok (Action.on_liftExcept_of_eq hassign machine), hmade.save_on ht, hafter]
    · obtain rfl := Text.encode_eq_ok_iff.mp hencode
      rw [accept_eq_ok_iff.mpr ⟨s, hprepared⟩] at haccept
      cases haccept

/-! ## Several changes -/

/-- What reading the configuration gives after a change that was refused. -/
def leftBy (config : Config) (change : Setting × Value) : Except Fault Config :=
  if config.empties change then .error emptyFault else .ok config

/-- A change leaves a configuration exactly where it does not empty the file. -/
theorem leftBy_eq_ok_iff {other : Config} : config.leftBy change = .ok other ↔
    config = other ∧ config.empties change = false := by
  unfold leftBy
  cases config.empties change with
  | true => simp
  | false => simp

/-- Either all changes are accepted and stored, or those before the first one that is refused. -/
theorem storeAll_on (changes : List (Setting × Value)) : ∀ {machine config},
    Serves machine config →
      (∃ reached after, changes.foldlM accept config = .ok reached ∧
        (storeAll changes).on machine = (.ok (), after) ∧ Serves after reached) ∨
      ∃ kept refused rest reached fault after, changes = kept ++ refused :: rest ∧
        kept.foldlM accept config = .ok reached ∧ accept reached refused = .error fault ∧
        (storeAll changes).on machine = (.error fault, after) ∧
        stored after = reached.leftBy refused := by
  induction changes with
  | nil => exact fun h => Or.inl ⟨_, _, rfl, rfl, h⟩
  | cons change rest ih =>
    intro machine config h
    cases haccept : config.accept change with
    | error fault =>
      obtain ⟨after, hstore, hkept, hempty⟩ := h.store_refused haccept
      refine Or.inr ⟨[], change, rest, config, fault, after, rfl, rfl, haccept, ?_, ?_⟩
      · rw [storeAll, Action.on_bind_error hstore]
      · unfold leftBy
        split
        · next hempties => exact hempty hempties
        · next hempties => exact (hkept (by simpa using hempties)).stored
    | ok changed =>
      obtain ⟨next, hstore, hserves⟩ := h.store_accepted haccept
      have hfold : ∀ kept : List (Setting × Value), (change :: kept).foldlM accept config
          = kept.foldlM accept changed := fun kept => by
        rw [List.foldlM_cons, haccept]
        rfl
      rw [storeAll, Action.on_bind_ok hstore, hfold]
      rcases ih hserves with hall |
        ⟨kept, refused, rest, reached, fault, after, hsplit, hkept, hrest⟩
      · exact Or.inl hall
      · refine Or.inr ⟨change :: kept, refused, rest, reached, fault, after, ?_, ?_, hrest⟩
        · rw [hsplit, List.cons_append]
        · rw [hfold, hkept]

/-- **A request that is refused** has stored the changes before the first one that is refused, and
nothing else, unless the refused one empties the file. So the configuration is the one from before
the request exactly if the stored changes lead back to it and the refused one leaves it. -/
theorem update_refused (h : Serves machine config) {updates : Updates}
    (hfault : ((update updates).on machine).1 = .error fault) :
    ∃ kept refused rest reached, updates.changes = kept ++ refused :: rest ∧
      kept.foldlM accept config = .ok reached ∧ accept reached refused = .error fault ∧
      (load.on ((update updates).on machine).2).1 = reached.leftBy refused ∧
      ((load.on ((update updates).on machine).2).1 = .ok config ↔
        reached = config ∧ reached.empties refused = false) := by
  unfold update at *
  rcases storeAll_on updates.changes h with ⟨reached, after, -, hon, -⟩ |
    ⟨kept, refused, rest, reached, fault', after, hsplit, hkept, hrefused, hon, hleft⟩
  · rw [hon] at hfault
    cases hfault
  · rw [hon] at hfault ⊢
    cases hfault
    refine ⟨kept, refused, rest, reached, hsplit, hkept, hrefused, ?_⟩
    rw [load_on, hleft]
    exact ⟨rfl, leftBy_eq_ok_iff⟩

/-! ## A machine without files -/

/-- A machine on which nothing is stored yet. -/
def bareMachine : Machine :=
  Machine.fresh ⟨.plain, ["home"]⟩ ⟨.plain, ["work"]⟩ none .linux 80 Tree.empty

theorem bareMachine_placed : bareMachine.Placed := ⟨rfl, by decide, by decide, by decide⟩

theorem bareMachine_serves : Serves bareMachine standard where
  placed := bareMachine_placed
  closed := Tree.closed_empty
  makes := by rfl
  stored := stored_of_not_has (by rfl)

/-- A number of results and a number of rows; the second is refused. -/
def smallPage : Updates := { limit := .int 3, pageSize := .int 0 }

theorem accept_limit : accept standard (.limit, .int 3) = .ok (standard.put .limit (.int 3)) :=
  proper_standard.accept_eq_ok rfl (by rfl) (by rfl)

theorem accept_noRows (config : Config) :
    accept config (.pageSize, .int 0) = .error (.configValue .pageSize) := by
  rfl

theorem empties_noRows (config : Config) : config.empties (.pageSize, .int 0) = false := by
  rfl

/-- A request with one change, which is refused, leaves the configuration as it is. -/
theorem noRows_refused :
    Serves bareMachine standard ∧
      ((update { pageSize := .int 0 }).on bareMachine).1 = .error (.configValue .pageSize) ∧
      (load.on ((update { pageSize := .int 0 }).on bareMachine).2).1 = .ok standard := by
  have hserves := bareMachine_serves
  obtain ⟨after, hstore, -⟩ := hserves.store_refused (accept_noRows standard)
  have hfault : ((update { pageSize := .int 0 }).on bareMachine).1
      = .error (.configValue .pageSize) := congrArg Prod.fst (Action.on_bind_error hstore)
  refine ⟨hserves, hfault, ?_⟩
  obtain ⟨kept, refused, rest, reached, hsplit, hkept, -, -, hsame⟩ := update_refused hserves hfault
  have hnone : kept = [] := by
    have hlength : 1 = (kept ++ refused :: rest).length := congrArg List.length hsplit
    rw [List.length_append, List.length_cons] at hlength
    exact List.length_eq_zero_iff.mp (by omega)
  rw [hnone] at hkept
  cases hkept
  have hflag : refused = (.pageSize, .int 0) := by
    rw [hnone] at hsplit
    exact (List.cons.inj hsplit).1.symm
  exact hsame.mpr ⟨rfl, hflag ▸ empties_noRows standard⟩

/-- The number of results is stored although the request is refused. -/
theorem limit_stored :
    Serves bareMachine standard ∧
      ((update smallPage).on bareMachine).1 = .error (.configValue .pageSize) ∧
      (load.on ((update smallPage).on bareMachine).2).1 ≠ .ok standard := by
  have hserves := bareMachine_serves
  obtain ⟨next, hfirst, hnext⟩ := hserves.store_accepted accept_limit
  obtain ⟨after, hsecond, hkept, -⟩ := hnext.store_refused (accept_noRows _)
  have hafter := hkept (empties_noRows _)
  have hon : (update smallPage).on bareMachine = (.error (.configValue .pageSize), after) :=
    (Action.on_bind_ok hfirst).trans (Action.on_bind_error hsecond)
  rw [hon]
  refine ⟨hserves, rfl, ?_⟩
  rw [hafter.load_on]
  intro h
  have hlimit : Value.int 3 = Value.int 8 := congrArg Config.limit (Except.ok.inj h)
  cases hlimit

end Launcher.Config
