import Launcher.Proofs.CommandLine.Results

/-!
# Command line and requests search alike

The search on the command line writes the results of one search of the index of its catalog
(`runSearch_on`), and a request for the same catalog gives the results of the same search
(`Request.search_eq`, `same_search`). So what is written for the one are the results of the other,
row by row, for every configuration with a delay that a double can hold.

What may keep them from being written is not the search. Halves of surrogate pairs cannot be written
at all. And for a reader the file of the catalog is named first, in a line in which the path is read
as markup: a file whose path closes a tag that is not open ends the command before any row, though
a request finds the entries in it.

> **`search_agrees`** the rows that are written are the results of the request
> `bracketed_search_differs` a file that cannot be named
-/

namespace Launcher.CommandLine

open Launcher.Terminal Launcher.Text

variable {shell : Shell} {options : SearchOptions} {config : Config} {x : Float}
  {path? : Option Path} {entries : List Entry}

/-- A request gives the results of a search of the index of the resolved catalog, and the command
line comes to writing the same results, after the same warnings. -/
theorem same_search {given : Value} (hstored : Config.stored shell.machine = .ok config)
    (hx : config.debounceMs.asDouble = .ok x) (htop : ∀ top ∈ options.top, 1 ≤ top)
    (hpath : catalogFile shell.machine config options.catalog = .ok path?)
    (hgiven : Catalog.Leads shell.machine given path?)
    (hloads : (Catalog.resolve shell.machine given
      (Catalog.included shell.machine.platform
        (takesBuiltins config options.noBuiltins))).result = .ok entries) :
    ∃ index found results warnings, Index.build config.weights entries = .ok index ∧
      index.search (.text options.query) ((options.top.map Value.int).getD config.limit)
        = .ok found ∧
      index.results found = .ok results ∧
      Request.search shell.machine
          { entries := none, catalogPath := given
            includeBuiltins := takesBuiltins config options.noBuiltins
            config := .stored .null .null }
          (.ofText options.query) (Request.topValue options.top)
        = ⟨warnings, .ok results⟩ ∧
      (runSearch options).on shell
        = (writeResults options path? index.size results (Request.firstRow? found)).on
            { shell with warnings := shell.warnings ++ warnings } := by
  have hnodup := Request.nodup_of_resolve hloads
  obtain ⟨found, results, hfound, hresults, hrequest⟩ :=
    Request.search_eq hstored hx htop hloads options.query
  rw [resolve_of_leads hgiven] at hloads hrequest
  obtain ⟨found', results', hfound', hresults', hcommand⟩ :=
    runSearch_on hstored hx htop hpath hloads hnodup
  -- both are the same search of the same index
  obtain rfl : found' = found := Except.ok.inj (hfound'.symm.trans hfound)
  obtain rfl : results' = results := Except.ok.inj (hresults'.symm.trans hresults)
  exact ⟨_, found', results', _, Index.build_of_nodup config.weights hnodup, hfound, hresults,
    hrequest, hcommand⟩

/-- **Command line and requests search alike.** For every stored configuration that can be read and
whose delay has a double, every catalog that can be loaded, with or without the built-in entries,
every query and every positive limit or none, a request for the stored configuration, the same
catalog and the same limit gives the results of a search of the index of the resolved catalog, with
the stored weights and the limit asked for, or else the stored one. The search on the command line
succeeds exactly with what is written of these results, row by row, and gives the same warnings. If
no text in the query and in the results holds half of a surrogate pair, it succeeds for other
programs, and for a reader exactly if the line that names the file of the catalog can be written. -/
theorem search_agrees {given : Value} (hstored : Config.stored shell.machine = .ok config)
    (hx : config.debounceMs.asDouble = .ok x) (htop : ∀ top ∈ options.top, 1 ≤ top)
    (hpath : catalogFile shell.machine config options.catalog = .ok path?)
    (hgiven : Catalog.Leads shell.machine given path?)
    (hloads : (Catalog.resolve shell.machine given
      (Catalog.included shell.machine.platform
        (takesBuiltins config options.noBuiltins))).result = .ok entries) :
    ∃ index found results warnings, Index.build config.weights entries = .ok index ∧
      index.search (.text options.query) ((options.top.map Value.int).getD config.limit)
        = .ok found ∧
      index.results found = .ok results ∧
      Request.search shell.machine
          { entries := none, catalogPath := given
            includeBuiltins := takesBuiltins config options.noBuiltins
            config := .stored .null .null }
          (.ofText options.query) (Request.topValue options.top)
        = ⟨warnings, .ok results⟩ ∧
      (∀ after, (runSearch options).on shell = (.ok (), after) ↔
        ∃ s : String, IsWritten shell.machine options path? index.size results s ∧
          after = { shell with
            output := shell.output ++ s, warnings := shell.warnings ++ warnings }) ∧
      (hasHalf options.query = false → AreWritable results →
        ((∃ after, (runSearch options).on shell = (.ok (), after)) ↔
          (options.format = .rich →
            ∃ s : String, IsHead shell.machine path? index.size s))) := by
  obtain ⟨index, found, results, warnings, hindex, hfound, hresults, hrequest, hcommand⟩ :=
    same_search hstored hx htop hpath hgiven hloads
  have hwrites : Task.Writes shell.machine _
      (IsWritten shell.machine options path? index.size results) :=
    writes_results options path? index.size (Index.length_results hresults)
  have hexact : ∀ after, (runSearch options).on shell = (.ok (), after) ↔
      ∃ s : String, IsWritten shell.machine options path? index.size results s ∧
        after = { shell with
          output := shell.output ++ s, warnings := shell.warnings ++ warnings } := by
    intro after
    rw [hcommand]
    exact hwrites _ after rfl
  refine ⟨index, found, results, warnings, hindex, hfound, hresults, hrequest, hexact,
    fun hquery hwritable => ?_⟩
  have hwritten : (∃ after, (runSearch options).on shell = (.ok (), after)) ↔
      ∃ s : String, IsWritten shell.machine options path? index.size results s := by
    simp only [hexact]
    exact ⟨fun ⟨_, s, hs, _⟩ => ⟨s, hs⟩, fun ⟨s, hs⟩ => ⟨_, s, hs, rfl⟩⟩
  rw [hwritten]
  exact exists_isWritten_iff hquery path? index.size hwritable

/-- A search for two of the entries at most, with the catalog that is configured. -/
def restingOptions : SearchOptions := { query := "calc", top := some 2 }

/-- What is found there for the query of that search. -/
theorem restingEntries_results {index : Index} {found : List (Match Float)} {results : List Result}
    (hindex : Index.build restingConfig.weights restingEntries = .ok index)
    (hfound : index.search (.text "calc") (.int 2) = .ok found)
    (hresults : index.results found = .ok results) :
    index.size = 2 ∧ results.map (fun result => (result.title, result.subtitle))
      = [(ofString "Calculator", none)] := by
  have hcomputed : ((Index.build restingConfig.weights restingEntries).toOption.bind fun index =>
      (index.search (.text "calc") (.int 2)).toOption.bind fun found =>
        (index.results found).toOption.map fun results =>
          (index.size, results.map fun result => (result.title, result.subtitle)))
      = some (2, [(ofString "Calculator", none)]) := by
    decide +kernel
  rw [hindex] at hcomputed
  simp only [Except.toOption, Option.bind_some, hfound, hresults, Option.map_some,
    Option.some.injEq, Prod.mk.injEq] at hcomputed
  exact hcomputed

/-- The command writes the table of what the request finds. -/
theorem resting_search_agrees : ∃ x index found results warnings s,
    Config.stored restingMachine = .ok restingConfig ∧
    restingConfig.debounceMs.asDouble = .ok x ∧ (∀ top ∈ restingOptions.top, 1 ≤ top) ∧
    catalogFile restingMachine restingConfig restingOptions.catalog = .ok (some Catalog.vastPath) ∧
    Catalog.Leads restingMachine (.text "catalog.json") (some Catalog.vastPath) ∧
    (Catalog.resolve restingMachine (.text "catalog.json")
      (Catalog.included .linux (takesBuiltins restingConfig restingOptions.noBuiltins))).result
        = .ok restingEntries ∧
    Index.build restingConfig.weights restingEntries = .ok index ∧
    index.search (.text "calc") (.int 2) = .ok found ∧ index.results found = .ok results ∧
    Request.search restingMachine
        { entries := none, catalogPath := .text "catalog.json"
          includeBuiltins := takesBuiltins restingConfig restingOptions.noBuiltins
          config := .stored .null .null }
        (.ofText "calc") (.int 2) = ⟨warnings, .ok results⟩ ∧
    (runSearch restingOptions).on ⟨restingMachine, "", []⟩
      = (.ok (), ⟨restingMachine, s, warnings⟩) ∧
    IsWritten restingMachine restingOptions (some Catalog.vastPath) index.size results s := by
  obtain ⟨x, hx⟩ : ∃ x, restingConfig.debounceMs.asDouble = .ok x := ⟨_, rfl⟩
  have htop : ∀ top ∈ restingOptions.top, 1 ≤ top := by
    intro top hmem
    cases hmem
    decide
  obtain ⟨index, found, results, warnings, hindex, hfound, hresults, hrequest, hexact, hsucceeds⟩ :=
    @search_agrees ⟨restingMachine, "", []⟩ restingOptions restingConfig x _ _ _
      restingMachine_stored hx htop restingMachine_catalogFile restingMachine_leads
      restingMachine_resolves
  obtain ⟨hsize, htexts⟩ := restingEntries_results hindex hfound hresults
  have hwritable : AreWritable results := by
    intro result hresult
    have hmem := List.mem_map_of_mem (f := fun result : Result => (result.title, result.subtitle))
      hresult
    rw [htexts, List.mem_singleton] at hmem
    obtain ⟨htitle, hsubtitle⟩ := Prod.mk.inj hmem
    rw [htitle, hsubtitle]
    exact ⟨rfl, nofun⟩
  obtain ⟨after, hafter⟩ := (hsucceeds rfl hwritable).mpr fun _ => by
    have hline : loadedLine restingMachine 2 Catalog.vastPath
        = .ok ↑"Loaded 2 catalog entries. (./catalog.json)" := by rfl
    obtain ⟨s, hs⟩ : ∃ s : String, Task.IsPrinted restingMachine
        (styled "dim" "Loaded 2 catalog entries. (./catalog.json)") s :=
      Task.exists_isPrinted_line switches_dim (by decide)
    rw [hsize]
    exact ⟨s, _, hline, hs⟩
  obtain ⟨s, hwritten, rfl⟩ := (hexact after).mp hafter
  rw [String.empty_append, List.nil_append] at hafter
  exact ⟨x, index, found, results, warnings, s, restingMachine_stored, hx, htop,
    restingMachine_catalogFile, restingMachine_leads, restingMachine_resolves, hindex, hfound,
    hresults, hrequest, hafter, hwritten⟩

/-- A machine with a catalog of the given text in the file `x].json` of a directory `[`. -/
def machineInBrackets (text : String) : Machine :=
  Machine.fresh ⟨.plain, ["home"]⟩ ⟨.plain, ["work"]⟩ none .linux 80
    ⟨[(Path.location ⟨.plain, ["work"]⟩, .directory),
      (Path.location ⟨.plain, ["work", "["]⟩, .directory),
      (Path.location ⟨.plain, ["work", "[", "x].json"]⟩, .file (.text text))]⟩

/-- The path of that file. -/
def bracketedPath : Path := ⟨.here, ["[", "x].json"]⟩

theorem machineInBrackets_has (text : String) :
    (machineInBrackets text).has bracketedPath = .ok true := by
  rfl

theorem machineInBrackets_read (text : String) : (machineInBrackets text).read bracketedPath
    = .ok (String.ofList (unifyLineEnds text.toList)) := by
  rfl

/-- There is no stored configuration on the machine. -/
theorem machineInBrackets_stored (text : String) :
    Config.stored (machineInBrackets text) = .ok Config.standard :=
  Config.stored_of_not_has (by rfl)

/-- The machine whose catalog there lists the four records. -/
def bracketedMachine : Machine := machineInBrackets Catalog.mixedText

/-- A search in that file. -/
def bracketedOptions : SearchOptions :=
  { query := "calc", catalog := some bracketedPath, top := some 2, noBuiltins := true }

theorem bracketedPath_expandHome :
    bracketedPath.expandHome bracketedMachine.home = .ok bracketedPath := by
  rfl

theorem ofValue_bracketed : Path.ofValue (.text "[/x].json") = .ok bracketedPath := by
  have hpath : Path.ofText "[/x].json" = bracketedPath := by decide
  exact congrArg Except.ok hpath

/-- The catalog behind the path in brackets has its entry. -/
theorem bracketedMachine_resolves : (Catalog.resolve bracketedMachine (.text "[/x].json")
    (Catalog.included .linux false)).result = .ok restingEntries :=
  (Catalog.resolve_keeps_first_accepted .linux false
    (Catalog.holds_mixedText ofValue_bracketed bracketedPath_expandHome
      (machineInBrackets_has _) (machineInBrackets_read _))
    Catalog.readable_mixedRecords).1

/-- The line that names the file is no markup. -/
theorem shown_bracketed :
    shown (styled "dim" "Loaded 2 catalog entries. (./[/x].json)") = .error .markup := by
  have hfault : (match shown (styled "dim" "Loaded 2 catalog entries. (./[/x].json)") with
      | .error .markup => true
      | _ => false) = true := by decide +kernel
  generalize shown (styled "dim" "Loaded 2 catalog entries. (./[/x].json)") = result at hfault ⊢
  split at hfault
  · rfl
  · cases hfault

/-- What a request finds in that file, the search on the command line does not show: it names the
file first, whose path closes a tag that is not open. -/
theorem bracketed_search_differs :
    ∃ results warnings, results ≠ [] ∧
      Request.search bracketedMachine
          { entries := none, catalogPath := .text "[/x].json", includeBuiltins := false
            config := .stored .null .null }
          (.ofText "calc") (.int 2) = ⟨warnings, .ok results⟩ ∧
      (runSearch bracketedOptions).on ⟨bracketedMachine, "", []⟩
        = (.error (.fault .markup), ⟨bracketedMachine, "", warnings⟩) := by
  have hstored : Config.stored bracketedMachine = .ok Config.standard :=
    machineInBrackets_stored _
  obtain ⟨x, hx⟩ : ∃ x, Config.standard.debounceMs.asDouble = .ok x := ⟨_, rfl⟩
  have htop : ∀ top ∈ bracketedOptions.top, 1 ≤ top := by
    intro top hmem
    cases hmem
    decide
  have hleads : Catalog.Leads bracketedMachine (.text "[/x].json") (some bracketedPath) :=
    .file ofValue_bracketed rfl
  have hpath : catalogFile bracketedMachine Config.standard bracketedOptions.catalog
      = .ok (some bracketedPath) := rfl
  obtain ⟨index, found, results, warnings, hindex, hfound, hresults, hrequest, hcommand⟩ :=
    @same_search ⟨bracketedMachine, "", []⟩ bracketedOptions Config.standard x
      (some bracketedPath) restingEntries _ hstored hx htop hpath hleads bracketedMachine_resolves
  obtain ⟨hsize, htexts⟩ := restingEntries_results hindex hfound hresults
  refine ⟨results, warnings, ?_, hrequest, ?_⟩
  · rintro rfl
    exact absurd htexts (by simp)
  · have hline : loadedLine bracketedMachine index.size bracketedPath
        = .ok ↑"Loaded 2 catalog entries. (./[/x].json)" := by
      rw [hsize]
      rfl
    rw [List.nil_append] at hcommand
    exact hcommand.trans (writeResults_on_error rfl hline shown_bracketed)

end Launcher.CommandLine
