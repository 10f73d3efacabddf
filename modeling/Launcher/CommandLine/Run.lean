import Launcher.Request
import Launcher.CommandLine.Command
import Launcher.CommandLine.Porcelain
import Launcher.Terminal.Output
import Launcher.Terminal.Table

/-!
# Running commands

A command works on a machine, writes output and gives warnings. It ends with an exit status, with a
usage error, or with a fault that it does not handle; what it has written before remains.

`search` and `pick` start a session with the stored configuration and let it search one query;
`config` changes the stored configuration and shows it.

Modelled are `search`, `pick`, `config` and `main` with `_build_controller`, `_run_query`,
`_render_results`, `_parse_boolean` and `_styled`, as they run with an output that is a pipe and
takes UTF-8. What is written to the log besides warnings is left out.
-/

namespace Launcher.CommandLine

open Launcher.Decimal Launcher.Terminal Launcher.Text

/-- How a command ends early. -/
inductive Ending where
  | exit (status : Nat)
  /-- The command line cannot be carried out, with the reason if it lies in a value. -/
  | usage (reason : Option Fault)
  | fault (fault : Fault)

/-- A machine, what has been written, and the warnings so far. -/
structure Shell where
  machine : Machine
  output : String
  warnings : List Warning

/-- Part of a command. -/
abbrev Task (α : Type) := ExceptT Ending (StateM Shell) α

namespace Task

/-- Writes lines together; when one of them holds half of a pair none is written. -/
def writeLines (lines : List Text) : Task Unit :=
  match encode (lines.flatMap (· ++ "\n")) with
  | .ok s => modify fun shell => { shell with output := shell.output ++ s }
  | .error stuck => throw (.fault (.halves stuck))

/-- Writes a line without sequences that switch colours. -/
def echo (t : Text) : Task Unit := writeLines [withoutColours t]

/-- A result, or the end of the command. -/
def orFault {α : Type} : Except Fault α → Task α
  | .ok a => pure a
  | .error fault => throw (.fault fault)

/-- A result, or a usage error. -/
def orUsage {α : Type} : Except Fault α → Task α
  | .ok a => pure a
  | .error fault => throw (.usage (some fault))

/-- Writes the lines of a text with markup. -/
def print (t : Text) : Task Unit := do
  let codes ← orFault (shown t)
  writeLines (shownLines (← get).machine.terminalWidth codes)

/-- Writes the lines of a table. -/
def printTable (table : Table) : Task Unit := do
  writeLines (table.lines (← get).machine.terminalWidth)

/-- Does something on the machine. -/
def onMachine {α : Type} (act : Action α) : Task (Except Fault α) := do
  let shell ← get
  let (result, machine) := Action.on act shell.machine
  set { shell with machine }
  pure result

/-- A result with warnings, or the end of the command; the warnings are given in any case. -/
def warned {α : Type} (result : Warned α) : Task α := do
  modify fun shell => { shell with warnings := shell.warnings ++ result.warnings }
  orFault result.result

end Task

/-- The version of the launcher. -/
def version : Text := "0.1.0"

/-- The words for true. -/
def trueWords : List Text := ["1", "true", "t", "yes", "y", "on"]

/-- The words for false. -/
def falseWords : List Text := ["0", "false", "f", "no", "n", "off"]

/-- The truth value that a word stands for. -/
def parseBoolean (given : Text) : Except Fault Bool :=
  let word := lower (trim given)
  if word ∈ trueWords then .ok true
  else if word ∈ falseWords then .ok false
  else .error (.badBoolean given)

/-- The file that the catalog of a command comes from: the one given, otherwise the one that is
configured. -/
def catalogFile (machine : Machine) (config : Config) : Option Path → Except Fault (Option Path)
  | some path => .ok (some path)
  | none => Catalog.configuredPath? machine config.catalogPath

/-- The catalog in a file, and the empty one where there is no file. -/
def catalogIn (machine : Machine) : Option Path → Warned (List Entry)
  | none => ⟨[], .ok []⟩
  | some path => Catalog.load machine path

/-- The built-in entries are part of the catalog of a command. -/
def takesBuiltins (config : Config) (noBuiltins : Bool) : Bool :=
  config.includeBuiltins.isTrue && !noBuiltins

/-- A session with the catalog of a command, and the file that the catalog comes from. -/
def openSession (config : Config) (catalog : Option Path) (noBuiltins : Bool) :
    Task (Session × Option Path) := do
  let machine := (← get).machine
  let path ← Task.orFault (catalogFile machine config catalog)
  let builtins := if takesBuiltins config noBuiltins then builtinEntries machine.platform else []
  let entries ← Task.warned (Catalog.withBuiltins builtins (catalogIn machine path))
  let session ← Task.orFault (Session.start config entries)
  pure (session, path)

/-- The cells of a result; `marked` says that the cursor is on it. -/
def resultCells (number : Nat) (marked : Bool) (result : Result) : Except Fault (List Cell) := do
  let title := escape result.title
  let texts : List (Text × Bool) :=
    [(selectionMark true marked, marked), (toString number, false), (fixed 3 result.score, false),
      (if marked then styled "bold green" title else title, marked),
      (escape (truncate true 60 result.subtitle), false)]
  texts.mapM fun (text, isStyled) => (shown text).map (⟨·, isStyled⟩)

/-- The cursor is on a row. -/
def isMarked (selection : Option Number) (row : Nat) : Bool :=
  selection.any fun place => place.equals (.whole row)

/-- The columns of the table of results. -/
def resultColumns : List Column := [
  ⟨[], some 1, .left, .ellipsis⟩,
  ⟨"#", none, .right, .ellipsis⟩,
  ⟨"Score", none, .right, .ellipsis⟩,
  ⟨"Title", none, .left, .fold⟩,
  ⟨"Subtitle", none, .left, .fold⟩]

/-- The table of results. -/
def resultTable (results : List Result) (selection : Option Number) : Except Fault Table := do
  let rows ← (results.zipIdx 1).mapM fun (result, number) =>
    resultCells number (isMarked selection (number - 1)) result
  .ok ⟨resultColumns, rows⟩

/-- Writes results for a reader. -/
def showResults (query : Text) (results : List Result) (selection : Option Number) :
    Task Unit := do
  Task.print (styled "bold cyan" "Lodestar search results")
  let heading : Text := if query.isEmpty then "(default ordering)" else escape query
  Task.print (styled "dim" ("Query: " ++ heading))
  let table ← Task.orFault (resultTable results selection)
  Task.printTable table

/-- How many entries a catalog has, and where it comes from. -/
def loadedLine (machine : Machine) (size : Nat) (path : Path) : Except Fault Text := do
  let resolved ← path.resolve machine.work
  .ok ("Loaded " ++ toString size ++ " catalog entr" ++ (if size = 1 then "y" else "ies") ++
    ". (" ++ resolved.shownFrom (some machine.work) ++ ")")

/-- The configuration with another limit, which must be positive. -/
def withTop (config : Config) : Option Int → Except Fault Config
  | none => .ok config
  | some top =>
    if top ≤ 0 then .error (.notPositive "top") else .ok { config with limit := .int top }

/-- Writes what a search has found in a catalog of some size; for a reader also where the catalog
comes from. -/
def writeResults (options : SearchOptions) (path : Option Path) (size : Nat)
    (results : List Result) (selection : Option Number) : Task Unit :=
  match options.format with
  | .porcelain => (porcelainRows results).forM Task.echo
  | .rich => do
    if let some path := path then
      let line ← Task.orFault (loadedLine (← get).machine size path)
      Task.print (styled "dim" line)
    if size = 0 then
      Task.print (styled "yellow" "Catalog contains no entries.")
    else if results.isEmpty then
      Task.print (styled "yellow" "No matching entries found.")
    else showResults options.query results selection

/-- Searches and shows the results. -/
def runSearch (options : SearchOptions) : Task Unit := do
  let stored ← Task.orFault (← Task.onMachine Config.load)
  let config ← Task.orUsage (withTop stored options.top)
  let (fresh, path) ← openSession config options.catalog options.noBuiltins
  let session ← Task.orFault (Request.searched fresh (.ofText options.query))
  let results ← Task.orFault session.results
  writeResults options path session.index.size results session.cursor.index

/-- The cursor after it has moved down a number of times. -/
def moveDown : Nat → Cursor → Except Fault Cursor
  | 0, cursor => .ok cursor
  | n + 1, cursor => do moveDown n (← cursor.apply .next)

/-- Searches, moves the cursor down and writes the action under it. -/
def runPick (options : PickOptions) : Task Unit := do
  let config ← Task.orFault (← Task.onMachine Config.load)
  let (fresh, _) ← openSession config options.catalog options.noBuiltins
  let searched ← Task.orFault (Request.searched fresh (.ofText options.query))
  let cursor ← Task.orFault (moveDown options.next searched.cursor)
  let session := { searched with cursor }
  match ← Task.orFault session.selected? with
  | some entry => Task.echo (Json.write .oneLine entry.action)
  | none => do
    Task.print (styled "yellow" "Nothing selected.")
    throw (.exit 1)

/-- What `config` is asked to change. -/
def ConfigOptions.updates (options : ConfigOptions) (builtins : Option Bool) : Config.Updates :=
  let float (x : Option Float) : Value := (x.map Value.float).getD .null
  let int (n : Option Int) : Value := (n.map Value.int).getD .null
  { prefixBonus := float options.prefixBonus
    titleMultiplier := float options.titleMultiplier
    keywordMultiplier := float options.keywordMultiplier
    limit := int options.limit
    pageSize := int options.pageSize
    debounceMs := int options.debounceMs
    catalogPath := (options.catalog.map Value.text).getD .null
    clearCatalog := options.clearCatalog
    includeBuiltins := (builtins.map Value.bool).getD .null }

/-- The lines that tell what has been changed. -/
def changeLines (updates : Config.Updates) : List Text :=
  let told (given : Value) (before after : Text) : List Text :=
    if given.isNull then [] else [before ++ given.shown ++ after]
  told updates.prefixBonus "Prefix bonus set to " "." ++
    told updates.titleMultiplier "Title multiplier set to " "." ++
    told updates.keywordMultiplier "Keyword multiplier set to " "." ++
    told updates.limit "Default result limit set to " "." ++
    told updates.pageSize "Page size set to " "." ++
    told updates.debounceMs "Debounce interval set to " " ms." ++
    told updates.catalogPath "Default catalog set to " "." ++
    (if updates.clearCatalog then [ofString "Default catalog cleared."] else []) ++
    (match updates.includeBuiltins with
      | .null => []
      | given => ["Built-in commands " ++ (if given.isTrue then "enabled" else "disabled") ++ "."])

/-- A configuration for a reader. -/
def summary (config : Config) : Text :=
  "Prefix bonus: " ++ config.prefixBonus.shown ++
    "\nTitle multiplier: " ++ config.titleMultiplier.shown ++
    "\nKeyword multiplier: " ++ config.keywordMultiplier.shown ++
    "\nResult limit: " ++ config.limit.shown ++
    "\nPage size: " ++ config.pageSize.shown ++
    "\nDebounce: " ++ config.debounceMs.shown ++ " ms" ++
    "\nCatalog: " ++ (if config.catalogPath.isTrue then config.catalogPath.shown else "none") ++
    "\nBuilt-in commands: " ++ (if config.includeBuiltins.isTrue then "yes" else "no")

/-- Changes the stored configuration and shows it. -/
def runConfig (options : ConfigOptions) : Task Unit := do
  let builtins ← match options.builtins with
    | none => pure none
    | some given => do pure (some (← Task.orUsage (parseBoolean given)))
  let updates := options.updates builtins
  match ← Task.onMachine (Config.update updates) with
  | .ok () => pure ()
  | .error fault =>
    if fault.isRejection then
      Task.print (styled "red" fault.message)
      throw (.exit 1)
    else throw (.fault fault)
  (changeLines updates).forM fun line => Task.print (styled "green" line)
  if options.showAll || updates.isEmpty then
    let config ← Task.orFault (← Task.onMachine Config.load)
    Task.print (styled "dim" (summary config))

/-- Runs a command. -/
def runCommand : Command → Task Unit
  | .search options => runSearch options
  | .pick options => runPick options
  | .config options => runConfig options

/-- Sets the directory of the stored configuration if one is given. -/
def useDirectory : Option Text → Task Unit
  | none => pure ()
  | some text => do
    match ← Task.onMachine (Machine.setDirectory (.text text)) with
    | .ok () => pure ()
    | .error (.notDirectory path) => throw (.usage (some (.notDirectory path)))
    | .error fault => throw (.fault fault)

/-- Carries out a command line. -/
def runInvocation : Invocation → Task Unit
  | .version => Task.print ("Lodestar v" ++ version)
  | .refused => throw (.usage none)
  | .command directory name words => do
    useDirectory directory
    match Command.read? name words with
    | none => throw (.usage none)
    | some command => runCommand command

/-- What a command line has brought about. -/
structure Report where
  ending : Ending
  output : String
  warnings : List Warning

/-- Carries out a command line on a machine, as a process of its own. -/
def run (machine : Machine) (words : List Text) : Report × Machine :=
  let (result, shell) := (runInvocation (Invocation.read words)).run.run ⟨machine.restarted, "", []⟩
  let ending := match result with
    | .ok () => Ending.exit 0
    | .error ending => ending
  (⟨ending, shell.output, shell.warnings⟩, shell.machine)

end Launcher.CommandLine
