import Launcher.Text

/-!
# Options on a command line

A command knows its options by rules. A long name begins with two dashes and may carry its value
behind an equals sign; short names are single letters behind one dash, several of them may stand
together, and the first that takes a value takes what is left of the word. A value that is not
attached is the next word, whatever it looks like. Two dashes alone end the options. Where words and
options do not mix, the first word ends the options too.

`Parsed.read?` goes through the words once; it gives nothing when an option is unknown, lacks its
value, or has one that it does not take.

The launcher leaves this to its option parser. Of that parser the forms are modelled that the four
commands use.
-/

namespace Launcher.CommandLine

/-- An option: its names and whether it takes a value. -/
structure OptionRule where
  key : String
  long : Text
  short : Option Code := none
  takesValue : Bool := false

/-- The options of a command, and whether options may follow words. -/
structure Grammar where
  rules : List OptionRule
  mixed : Bool

/-- What has been read: options in their order, and words. A flag has an empty value. -/
structure Parsed where
  options : List (String × Text)
  words : List Text

namespace Parsed

/-- The value that counts is the last one given. -/
def value? (parsed : Parsed) (key : String) : Option Text :=
  (parsed.options.reverse.find? (·.1 == key)).map (·.2)

/-- The flag is given. -/
def hasFlag (parsed : Parsed) (key : String) : Bool := (parsed.value? key).isSome

end Parsed

/-- The state between two words of a command line. -/
structure Reader where
  options : List (String × Text) := []
  words : List Text := []
  /-- The option whose value is the next word. -/
  awaiting : Option String := none
  /-- Options have ended. -/
  ended : Bool := false

namespace Reader

/-- Adds an option and its value. -/
def addOption (reader : Reader) (key : String) (value : Text) : Reader :=
  { reader with options := reader.options ++ [(key, value)], awaiting := none }

/-- Adds a word. -/
def addWord (reader : Reader) (word : Text) (ended : Bool) : Reader :=
  { reader with words := reader.words ++ [word], ended }

/-- Reads letters behind one dash. -/
def readLetters? (rules : List OptionRule) (reader : Reader) : Text → Option Reader
  | [] => some reader
  | c :: rest => do
    let rule ← rules.find? (·.short == some c)
    if rule.takesValue then
      if rest.isEmpty then some { reader with awaiting := some rule.key }
      else some (reader.addOption rule.key rest)
    else readLetters? rules (reader.addOption rule.key []) rest

/-- Reads a long name, with its value if one is attached. -/
def readLong? (rules : List OptionRule) (reader : Reader) (word : Text) : Option Reader := do
  let name := word.takeWhile (· != .char '=')
  let rule ← rules.find? (·.long == name)
  match word.drop name.length, rule.takesValue with
  | [], true => some { reader with awaiting := some rule.key }
  | [], false => some (reader.addOption rule.key [])
  | _ :: value, true => some (reader.addOption rule.key value)
  | _ :: _, false => none

/-- Reads the next word of a command line. -/
def step? (grammar : Grammar) (reader : Reader) (word : Text) : Option Reader :=
  match reader.awaiting with
  | some key => some (reader.addOption key word)
  | none =>
    if reader.ended then some (reader.addWord word true)
    else match word with
      | [.char '-', .char '-'] => some { reader with ended := true }
      | .char '-' :: .char '-' :: _ => readLong? grammar.rules reader word
      | .char '-' :: c :: rest => readLetters? grammar.rules reader (c :: rest)
      | _ => some (reader.addWord word (!grammar.mixed))

end Reader

/-- Reads a command line. -/
def Parsed.read? (grammar : Grammar) (words : List Text) : Option Parsed := do
  let reader ← words.foldlM (Reader.step? grammar) {}
  if reader.awaiting.isSome then none else some ⟨reader.options, reader.words⟩

end Launcher.CommandLine
