import Launcher.Proofs.CommandLine.Steps
import Launcher.Proofs.Request

/-!
# The search on the command line

The search on the command line is taken apart into what it reads (the stored configuration), what it
opens (a session on the catalog) and what it writes: where the stored configuration can be read and
the catalog loaded, it writes the results of one search of the index of that catalog, the cursor on
the first of them, after the warnings of loading it.

A value and a path may name the same catalog file in two ways; `Catalog.Leads` says that they do,
and then both give the same catalog.

> `openSession_on` opening a session on the catalog of a command
> **`runSearch_on`** what the command comes to: one search, and writing what it has found
-/

namespace Launcher

/-- The value leads to the same catalog file as a path, or both lead to none. -/
inductive Catalog.Leads (machine : Machine) : Value → Option Path → Prop where
  | nowhere : Leads machine .null none
  | file {given : Value} {named path : Path} (names : Path.ofValue given = .ok named)
    (same : named.expandHome machine.home = path.expandHome machine.home) :
    Leads machine given (some path)

/-- Where the home directory has a root, a path has no tilde left after one has been replaced. -/
theorem Path.expandHome_idem {path home expanded : Path} (hroot : home.root ≠ .here)
    (h : path.expandHome home = .ok expanded) : expanded.expandHome home = .ok expanded := by
  unfold expandHome at h
  split at h
  · next first rest hhere hparts =>
    split_ifs at h with htilde hother
    · cases h
      -- the home directory stands in front now
      unfold expandHome
      split
      · next hr _ => exact absurd hr hroot
      · rfl
    · cases h
      unfold expandHome
      rw [hhere, hparts]
      simp only
      rw [if_neg htilde, if_neg hother]
  · next hno =>
    cases h
    unfold expandHome
    split
    · next first rest hhere hparts => exact absurd hparts (hno first rest hhere)
    · rfl

namespace Catalog

variable {machine : Machine}

/-- A value leads to the path that the machine makes of it. -/
theorem leads_of_expand {given : Value} {path : Path} (hhome : machine.home.root ≠ .here)
    (h : machine.expand given = .ok path) : Leads machine given (some path) := by
  obtain ⟨written, hwritten, hpath⟩ := exists_of_bind_eq_ok h
  exact .file hwritten (hpath.trans (Path.expandHome_idem hhome hpath).symm)

end Catalog

namespace CommandLine

variable {shell : Shell} {options : SearchOptions} {config : Config} {x : Float}
  {path? : Option Path}
  {entries : List Entry}

/-- A limit that is positive becomes the limit of the configuration. -/
theorem withTop_eq {top? : Option Int} (htop : ∀ top ∈ top?, 1 ≤ top) :
    withTop config top? = .ok (config.limitedTo top?) := by
  cases top? with
  | none => rfl
  | some top =>
    have hone : 1 ≤ top := htop top rfl
    unfold withTop
    simp only [if_neg (show ¬top ≤ 0 by omega)]
    rfl

/-- Another limit leaves the catalog file. -/
theorem catalogFile_limitedTo (machine : Machine) (config : Config) (top? : Option Int)
    (catalog : Option Path) :
    catalogFile machine (config.limitedTo top?) catalog = catalogFile machine config catalog := by
  cases top? <;> rfl

theorem takesBuiltins_limitedTo (config : Config) (top? : Option Int) (noBuiltins : Bool) :
    takesBuiltins (config.limitedTo top?) noBuiltins = takesBuiltins config noBuiltins := by
  cases top? <;> rfl

/-- A value that leads to the file leads to the catalog of that file. -/
theorem loadGiven_of_leads {machine : Machine} {given : Value}
    (h : Catalog.Leads machine given path?) :
    Catalog.loadGiven machine given = catalogIn machine path? := by
  cases h with
  | nowhere => rfl
  | @file given named path names same =>
    have hnull : given.isNull = false := by
      cases given with
      | text s => rfl
      | _ => cases names
    show _ = Catalog.load machine path
    unfold Catalog.loadGiven Catalog.load
    rw [hnull, if_neg Bool.false_ne_true, names]
    simp only [same]

/-- What the catalog of a command is resolved to, and the warnings on the way. -/
def commandCatalog (machine : Machine) (config : Config) (noBuiltins : Bool)
    (path? : Option Path) : Warned (List Entry) :=
  Catalog.withBuiltins (Catalog.included machine.platform (takesBuiltins config noBuiltins))
    (catalogIn machine path?)

/-- A value that leads to the file is resolved to the catalog of the command. -/
theorem resolve_of_leads {machine : Machine} {given : Value} (h : Catalog.Leads machine given path?)
    (config : Config) (noBuiltins : Bool) :
    Catalog.resolve machine given
        (Catalog.included machine.platform (takesBuiltins config noBuiltins))
      = commandCatalog machine config noBuiltins path? :=
  congrArg (Catalog.withBuiltins _) (loadGiven_of_leads h)

/-- Another limit leaves the catalog. -/
theorem commandCatalog_limitedTo (machine : Machine) (config : Config) (top? : Option Int)
    (noBuiltins : Bool) (path? : Option Path) :
    commandCatalog machine (config.limitedTo top?) noBuiltins path?
      = commandCatalog machine config noBuiltins path? := by
  unfold commandCatalog
  rw [takesBuiltins_limitedTo]

/-- Opening a session: the file is found, the catalog loaded with its warnings, and the session
started. -/
theorem openSession_on {catalog : Option Path} {noBuiltins : Bool} {session : Session}
    (hpath : catalogFile shell.machine config catalog = .ok path?)
    (hloads : (commandCatalog shell.machine config noBuiltins path?).result = .ok entries)
    (hstart : Session.start config entries = .ok session) :
    (openSession config catalog noBuiltins).on shell = (.ok (session, path?), { shell with
      warnings := shell.warnings
        ++ (commandCatalog shell.machine config noBuiltins path?).warnings }) := by
  have hget : (get : Task Shell).on shell = (.ok shell, shell) := rfl
  unfold openSession
  rw [Task.on_bind_ok hget, Task.on_bind_ok (Task.orFault_on hpath shell)]
  show (Task.warned (commandCatalog shell.machine config noBuiltins path?) >>= fun entries =>
      Task.orFault (Session.start config entries) >>= fun session =>
        pure (session, path?)).on shell = _
  rw [Task.on_bind_ok (Task.warned_on hloads shell), Task.on_bind_ok (Task.orFault_on hstart _)]
  rfl

/-- **The search on the command line** comes to writing what one search of the index of the catalog
gives, the cursor on the first row, after the warnings of loading the catalog. -/
theorem runSearch_on (hstored : Config.stored shell.machine = .ok config)
    (hx : config.debounceMs.asDouble = .ok x) (htop : ∀ top ∈ options.top, 1 ≤ top)
    (hpath : catalogFile shell.machine config options.catalog = .ok path?)
    (hloads : (commandCatalog shell.machine config options.noBuiltins path?).result = .ok entries)
    (hnodup : (entries.map Entry.id).Nodup) :
    let index := Index.ofDistinct config.weights entries hnodup
    ∃ found results,
      index.search (.text options.query) ((options.top.map Value.int).getD config.limit)
        = .ok found ∧
      index.results found = .ok results ∧
      (runSearch options).on shell
        = (writeResults options path? entries.length results (Request.firstRow? found)).on
            { shell with warnings := shell.warnings
              ++ (commandCatalog shell.machine config options.noBuiltins path?).warnings } := by
  intro index
  have hproper := (Config.stored_proper hstored).limitedTo htop
  rw [← config.debounceMs_limitedTo options.top] at hx
  obtain ⟨fresh, session, found, results, hstart, hsearched, hindex, hfound, hshown, hresults,
    hrow⟩ := Request.start_searched hproper hx hnodup options.query
  rw [config.weights_limitedTo] at hindex
  rw [hindex, config.limit_limitedTo] at hfound
  rw [hindex] at hshown
  refine ⟨found, results, hfound, hshown, ?_⟩
  -- the limit of the configuration matters neither to the file nor to the built-in entries
  rw [← catalogFile_limitedTo shell.machine config options.top] at hpath
  rw [← commandCatalog_limitedTo shell.machine config options.top] at hloads ⊢
  have hload : (Task.onMachine Config.load).on shell = (.ok (.ok config), shell) := by
    rw [Task.onMachine_on, Config.load_on, hstored]
  have hopen := openSession_on hpath hloads hstart
  have hsize : session.index.size = entries.length := by
    rw [hindex]
    rfl
  unfold runSearch
  rw [Task.on_bind_ok hload, Task.on_bind_ok (Task.orFault_on rfl shell),
    Task.on_bind_ok (Task.orUsage_on (withTop_eq htop) shell), Task.on_bind_ok hopen]
  simp only
  rw [Task.on_bind_ok (Task.orFault_on hsearched _), Task.on_bind_ok (Task.orFault_on hresults _),
    hsize, hrow]

/-! ## A machine to try things on -/

/-- Typing rests for a tenth of a second, and the built-in entries are left out. -/
def restingConfig : Config :=
  { debounceMs := .int 100, catalogPath := .text "catalog.json", includeBuiltins := .bool false }

/-- The document of that configuration. -/
def restingText : String :=
  "\x7b\n  \"prefix_bonus\": 0.5,\n  \"title_multiplier\": 0.3,\n" ++
    "  \"keyword_multiplier\": 0.2,\n  \"limit\": 8,\n  \"page_size\": 8,\n" ++
    "  \"debounce_ms\": 100,\n  \"include_builtins\": false,\n" ++
    "  \"catalog_path\": \"catalog.json\"\n\x7d"

/-- The files of a catalog in the current directory. -/
def catalogFiles (catalog : String) : List (Location × Node) :=
  [(Path.location ⟨.plain, ["work"]⟩, .directory),
    (Path.location ⟨.plain, ["work", "catalog.json"]⟩, .file (.text catalog))]

/-- The catalog file stands beside the configuration. -/
theorem catalogFiles_has (text catalog : String) :
    (Config.machineStoring text (catalogFiles catalog)).has Catalog.vastPath = .ok true := by
  rfl

/-- The catalog file is read as it was put there. -/
theorem catalogFiles_read (text catalog : String) :
    (Config.machineStoring text (catalogFiles catalog)).read Catalog.vastPath
      = .ok (String.ofList (Text.unifyLineEnds catalog.toList)) := by
  rfl

/-- A machine with that configuration and with a catalog of four records. -/
def restingMachine : Machine :=
  Config.machineStoring restingText (catalogFiles Catalog.mixedText)

theorem proper_restingConfig : restingConfig.Proper := by
  intro setting
  cases setting with
  | prefixBonus | titleMultiplier | keywordMultiplier => exact ⟨_, rfl⟩
  | limit | pageSize | debounceMs => exact ⟨_, by decide, rfl⟩
  | catalogPath => exact Or.inr ⟨by decide, trivial⟩
  | includeBuiltins => exact ⟨_, rfl⟩

/-- The configuration of the machine waits for typing to rest. -/
theorem restingMachine_stored : Config.stored restingMachine = .ok restingConfig := by
  have hwritten : restingConfig.toStoredText = .ok ↑restingText := by
    have hdocument : Json.write .indented restingConfig.toStored = restingText := by
      unfold restingText
      rw [Text.ofString_append, Text.ofString_append, Text.ofString_append]
      decide +kernel
    unfold Config.toStoredText
    rw [if_pos (by decide), hdocument]
  obtain ⟨hback, hreturn⟩ := Config.ofStoredText_toStoredText proper_restingConfig hwritten
  exact (Config.machineStoring_stored (mt Text.char_mem_ofChars.mpr hreturn) _).trans hback

/-- The catalog of the machine has the mixed records. -/
theorem restingMachine_holds :
    Catalog.Holds restingMachine (.text "catalog.json") Catalog.mixedRecords :=
  Catalog.holds_mixedRecords (catalogFiles_has _ _) (catalogFiles_read _ _)

theorem restingMachine_expand : restingMachine.expand (.text "catalog.json")
    = .ok Catalog.vastPath := by
  rw [Machine.expand, Catalog.ofValue_vastPath]
  exact Catalog.vastPath_expandHome

theorem restingMachine_leads :
    Catalog.Leads restingMachine (.text "catalog.json") (some Catalog.vastPath) :=
  Catalog.leads_of_expand (by decide) restingMachine_expand

theorem restingMachine_catalogFile :
    catalogFile restingMachine restingConfig none = .ok (some Catalog.vastPath) := by
  show (restingMachine.expand (.text "catalog.json")).map some = _
  rw [restingMachine_expand]
  rfl

/-- The catalog that is left of the four records. -/
def restingEntries : List Entry :=
  Catalog.included .linux (takesBuiltins restingConfig false) ++
    Catalog.kept [] Catalog.mixedRecords

theorem restingMachine_resolves : (Catalog.resolve restingMachine (.text "catalog.json")
    (Catalog.included .linux (takesBuiltins restingConfig false))).result = .ok restingEntries :=
  (Catalog.resolve_keeps_first_accepted .linux (takesBuiltins restingConfig false)
    restingMachine_holds Catalog.readable_mixedRecords).1

end CommandLine

end Launcher
