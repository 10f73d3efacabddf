import Launcher.Files.Path
import Launcher.CommandLine.Numeral
import Launcher.CommandLine.Options
import Launcher.CommandLine.Similarity

/-!
# Commands

The command line begins with options for every command, followed by the name of a command and what
belongs to it. A first word that names no command is a query for `search`, unless it looks like a
misspelt name.

Modelled are the options that `main`, `search`, `pick` and `config` declare, and the choice of a
command in `DefaultSearchGroup`. The help pages are left out, and so is the wording of a refusal
that does not lie in a value.
-/

namespace Launcher.CommandLine

open Launcher.Decimal Launcher.Text

/-- How results are written. -/
inductive Format where
  | rich
  | porcelain
deriving DecidableEq, Repr

/-- What `search` is asked for. -/
structure SearchOptions where
  query : Text := []
  catalog : Option Path := none
  top : Option Int := none
  noBuiltins : Bool := false
  format : Format := .rich

/-- What `pick` is asked for. -/
structure PickOptions where
  query : Text := []
  catalog : Option Path := none
  next : Nat := 0
  noBuiltins : Bool := false

/-- What `config` is asked for. -/
structure ConfigOptions where
  showAll : Bool := false
  prefixBonus : Option Float := none
  titleMultiplier : Option Float := none
  keywordMultiplier : Option Float := none
  limit : Option Int := none
  pageSize : Option Int := none
  debounceMs : Option Int := none
  catalog : Option Text := none
  clearCatalog : Bool := false
  builtins : Option Text := none

/-- A command with its options. -/
inductive Command where
  | search (options : SearchOptions)
  | pick (options : PickOptions)
  | config (options : ConfigOptions)

/-- The names of the commands. -/
def commandNames : List Text := ["search", "pick", "config"]

/-- The options for every command. -/
def mainGrammar : Grammar where
  rules :=
    [{ key := "version", long := "--version", short := some 'v' },
      { key := "config-dir", long := "--config-dir", takesValue := true }]
  mixed := false

/-- The options of `search`. -/
def searchGrammar : Grammar where
  rules :=
    [{ key := "catalog", long := "--catalog", short := some 'c', takesValue := true },
      { key := "top", long := "--top", short := some 'k', takesValue := true },
      { key := "no-builtins", long := "--no-builtins" },
      { key := "format", long := "--format", takesValue := true }]
  mixed := true

/-- The options of `pick`. -/
def pickGrammar : Grammar where
  rules :=
    [{ key := "catalog", long := "--catalog", short := some 'c', takesValue := true },
      { key := "next", long := "--next", short := some 'n', takesValue := true },
      { key := "no-builtins", long := "--no-builtins" }]
  mixed := true

/-- The options of `config`. -/
def configGrammar : Grammar where
  rules :=
    [{ key := "show", long := "--show" },
      { key := "prefix-bonus", long := "--set-prefix-bonus", takesValue := true },
      { key := "title-multiplier", long := "--set-title-multiplier", takesValue := true },
      { key := "keyword-multiplier", long := "--set-keyword-multiplier", takesValue := true },
      { key := "limit", long := "--set-limit", takesValue := true },
      { key := "page-size", long := "--set-page-size", takesValue := true },
      { key := "debounce-ms", long := "--set-debounce-ms", takesValue := true },
      { key := "catalog", long := "--set-catalog", takesValue := true },
      { key := "clear-catalog", long := "--clear-catalog" },
      { key := "builtins", long := "--set-builtins", takesValue := true }]
  mixed := true

namespace Parsed

/-- A value that is read from its text, none if it is not given; refused if it cannot be read. -/
def valueAs? {α : Type} (parsed : Parsed) (key : String) (reading : Text → Option α) :
    Option (Option α) :=
  match parsed.value? key with
  | none => some none
  | some text => (reading text).map some

/-- A whole number. -/
def int? (parsed : Parsed) (key : String) : Option (Option Int) :=
  parsed.valueAs? key readWhole?

/-- A number. -/
def float? (parsed : Parsed) (key : String) : Option (Option Float) :=
  parsed.valueAs? key readNumber?

/-- The only word, empty if there is none. -/
def query? (parsed : Parsed) : Option Text :=
  match parsed.words with
  | [] => some []
  | [word] => some word
  | _ => none

end Parsed

/-- The format with a name. -/
def Format.ofName? (name : Text) : Option Format :=
  if name = "rich" then some .rich else if name = "porcelain" then some .porcelain else none

/-- What `search` is asked for. -/
def SearchOptions.read? (words : List Text) : Option SearchOptions := do
  let parsed ← Parsed.read? searchGrammar words
  let query ← parsed.query?
  let top ← parsed.int? "top"
  let format ← parsed.valueAs? "format" Format.ofName?
  some { query, top, catalog := (parsed.value? "catalog").map Path.ofText,
         noBuiltins := parsed.hasFlag "no-builtins", format := format.getD .rich }

/-- What `pick` is asked for; the cursor only moves down. -/
def PickOptions.read? (words : List Text) : Option PickOptions := do
  let parsed ← Parsed.read? pickGrammar words
  let query ← parsed.query?
  let next ← parsed.int? "next"
  if (next.getD 0) < 0 then none
  some { query, next := (next.getD 0).toNat, catalog := (parsed.value? "catalog").map Path.ofText,
         noBuiltins := parsed.hasFlag "no-builtins" }

/-- What `config` is asked for. -/
def ConfigOptions.read? (words : List Text) : Option ConfigOptions := do
  let parsed ← Parsed.read? configGrammar words
  if !parsed.words.isEmpty then none
  let prefixBonus ← parsed.float? "prefix-bonus"
  let titleMultiplier ← parsed.float? "title-multiplier"
  let keywordMultiplier ← parsed.float? "keyword-multiplier"
  let limit ← parsed.int? "limit"
  let pageSize ← parsed.int? "page-size"
  let debounceMs ← parsed.int? "debounce-ms"
  some { showAll := parsed.hasFlag "show", prefixBonus, titleMultiplier, keywordMultiplier, limit,
         pageSize, debounceMs, catalog := parsed.value? "catalog",
         clearCatalog := parsed.hasFlag "clear-catalog", builtins := parsed.value? "builtins" }

/-- The command of a name with what belongs to it. -/
def Command.read? (name : Text) (words : List Text) : Option Command :=
  if name = "search" then (SearchOptions.read? words).map .search
  else if name = "pick" then (PickOptions.read? words).map .pick
  else (ConfigOptions.read? words).map .config

/-- What the first word of a command line means. -/
inductive FirstWord where
  /-- The name of a command. -/
  | name
  /-- A query for `search`. -/
  | query
  /-- Something with a dash in front, left over after the options have ended. -/
  | dashed
  /-- A name that is nearly one of a command. -/
  | misspelt
deriving DecidableEq, Repr

/-- What the first word means. -/
def FirstWord.of (word : Text) : FirstWord :=
  if word ∈ commandNames then .name
  else if word.head? = some (.char '-') then .dashed
  else if commandNames.any fun name => isNear name word then .misspelt
  else .query

/-- What a whole command line asks for. -/
inductive Invocation where
  /-- The version. -/
  | version
  /-- A command; its words are read after the configuration directory has been set. -/
  | command (directory : Option Text) (name : Text) (words : List Text)
  /-- Nothing that can be done. -/
  | refused

/-- Reads the options for every command; none when there is no word after them. -/
def Invocation.read (words : List Text) : Invocation :=
  match Parsed.read? mainGrammar words with
  | none => .refused
  | some parsed =>
    if parsed.hasFlag "version" then .version
    else match parsed.words with
      | [] => .refused
      | word :: rest =>
        let directory := parsed.value? "config-dir"
        match FirstWord.of word with
        | .name => .command directory word rest
        | .query => .command directory "search" (word :: rest)
        | .misspelt => .refused
        | .dashed =>
          match Parsed.read? mainGrammar (word :: rest) with
          | some again => if again.hasFlag "version" then .version else .refused
          | none => .refused

end Launcher.CommandLine
