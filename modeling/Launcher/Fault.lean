import Launcher.Value.Shown
import Launcher.Json.Reader
import Launcher.Text.Utf8
import Launcher.Config.Setting
import Launcher.Catalog.Kind

/-!
# Faults

Why an operation gives no result. A fault is kept as its cause; `Fault.message` is the only place
that holds wording.

`CatalogFault` holds what can be wrong with an entry of the catalog in itself. A fault for which
`Fault.isRejection` holds means that a value was refused; the others come from a value of a wrong
type, from numbers that no double can hold, or from the files.
-/

namespace Launcher

/-- What is wrong with the form of a record. -/
inductive RecordFlaw where
  | notAnObject
  | keywordsNotList
  | keywordsNotTexts
  | subtitleNotText
deriving DecidableEq, Repr

/-- The wording of a flaw. -/
def RecordFlaw.message : RecordFlaw → Text
  | .notAnObject => "expected an object"
  | .keywordsNotList => "keywords must be a list"
  | .keywordsNotTexts => "keywords must be strings"
  | .subtitleNotText => "subtitle must be a string"

/-- Why an entry does not belong into a catalog. -/
inductive CatalogFault where
  | emptyId
  | emptyTitle
  | weight (given : Value)
  | invalid (flaw : RecordFlaw)
  | kind (given : Value)
  | duplicateId (id : Text)

/-- The text of a fault of the catalog. -/
def CatalogFault.message : CatalogFault → Text
  | .emptyId => "Catalog entry id must not be empty."
  | .emptyTitle => "Catalog entry title must not be empty."
  | .weight given => "base_weight must be between 0 and 1 (got " ++ given.shown ++ ")."
  | .invalid flaw => "Catalog entry is invalid: " ++ flaw.message
  | .kind given =>
    "Unsupported entry kind '" ++ given.shown ++ "'. Allowed values: " ++
      List.intercalate ", " (Kind.all.map Kind.name) ++ "."
  | .duplicateId id => "Duplicate catalog entry id '" ++ id ++ "'."

/-- The files that carry the version of a release. -/
inductive VersionFile where
  | package
  | project
deriving DecidableEq, Repr

/-- Why an operation gives no result. -/
inductive Fault where
  /-- An entry does not belong into the catalog. -/
  | catalog (fault : CatalogFault)
  /-- A request was refused for the reason given. -/
  | request (reason : Fault)
  /-- A number that must be positive is not. -/
  | notPositive (name : Text)
  /-- A number that must not be negative is. -/
  | negative (name : Text)
  /-- A configuration is not an object. -/
  | configNotObject
  /-- A setting was given a value that it cannot have. -/
  | configValue (setting : Setting)
  /-- A text is not a truth value. -/
  | badBoolean (text : Text)
  /-- A text is not a whole number. -/
  | badInteger (text : Text)
  /-- A text is not a number. -/
  | badNumber (text : Text)
  /-- What is not a number has no whole part. -/
  | noWholePart
  /-- A whole number is too long to be read, or to be written if its digits have not been counted.
  -/
  | tooManyDigits (count? : Option Nat)
  /-- There is no such navigation command. -/
  | unknownCommand (given : Value)
  /-- A value stands where a navigation command belongs. -/
  | unsupportedCommand (given : Value)
  /-- Whoever runs the searches reports a failure. -/
  | worker (message : Text)
  /-- A value has a type that the operation does not take. -/
  | wrongType
  /-- A value lacks what the operation asks of it. -/
  | noSuchMember
  /-- An object lacks a key. -/
  | noSuchKey
  /-- A number is beyond the largest double. -/
  | numberTooLarge
  /-- A position is out of range. -/
  | outOfRange
  /-- A text is not a document. -/
  | document (fault : Json.Fault)
  /-- Octets are not UTF-8. -/
  | octets (fault : Text.Utf8Fault)
  /-- Halves of pairs are to be written. -/
  | halves (stuck : Text.Halves)
  /-- A path leads to something that is not a directory. -/
  | notDirectory (path : Text)
  /-- A path leads through something that is not a directory. -/
  | throughFile (path : Text)
  /-- A path leads to a directory where a file was expected. -/
  | isDirectory (path : Text)
  /-- Something stands where a directory is to be made. -/
  | fileExists (path : Text)
  /-- Nothing stands where a file was expected. -/
  | fileMissing (path : Text)
  /-- A name in a path is longer than any name of a file. -/
  | nameTooLong (path : Text)
  /-- A path holds the character with number zero. -/
  | nullInPath
  /-- A path holds half of a pair that no name of a file has. -/
  | halfInPath
  /-- There is no user of that name. -/
  | unknownUser
  /-- A file does not set its version. -/
  | versionMissing (file : VersionFile) (path : Text)
  /-- A text is not a version. -/
  | invalidVersion (text : Text)
  /-- A replacement refers to something that was not found. -/
  | template
  /-- A markup tag is closed that is not open. -/
  | markup

namespace Fault

/-- The text of a fault; faults that are told apart by their cause alone have none. -/
def message : Fault → Text
  | .catalog fault => fault.message
  | .request reason => reason.message
  | .notPositive name => name ++ " must be greater than 0"
  | .negative name => name ++ " must be >= 0"
  | .configNotObject => "Config JSON must be an object."
  | .configValue setting => "Config value for " ++ setting.key ++ " is invalid."
  | .badBoolean text => "Invalid boolean value '" ++ text ++ "'. Use true/false."
  | .badInteger text =>
    "invalid literal for int() with base 10: " ++ (Text.quoted text).take 200
  | .badNumber text => "could not convert string to float: " ++ Text.quoted text
  | .noWholePart => "cannot convert float NaN to integer"
  | .tooManyDigits (some count) => (Json.Fault.tooManyDigits count).message
  | .tooManyDigits none =>
    "Exceeds the limit (" ++ toString Decimal.maxDigits ++ " digits) for integer string " ++
      "conversion; use sys.set_int_max_str_digits() to increase the limit"
  | .unknownCommand given => given.literal ++ " is not a valid Navigation"
  | .unsupportedCommand given => "Unsupported navigation command: " ++ given.literal
  | .worker message => message
  | .document fault => fault.message
  | .octets fault => fault.message
  | .halves stuck => stuck.message
  | .notDirectory path => "Path is not a directory: " ++ path
  | .throughFile path => "[Errno 20] Not a directory: " ++ Text.quoted path
  | .isDirectory path => "[Errno 21] Is a directory: " ++ Text.quoted path
  | .fileExists path => "[Errno 17] File exists: " ++ Text.quoted path
  | .fileMissing path => "[Errno 2] No such file or directory: " ++ Text.quoted path
  | .nameTooLong path => "[Errno 36] File name too long: " ++ Text.quoted path
  | .nullInPath => "lstat: embedded null character in path"
  | .versionMissing .package path =>
    "Expected exactly one __version__ assignment in " ++ path
  | .versionMissing .project path => "Expected exactly one version field in " ++ path
  | .invalidVersion text => "Invalid version '" ++ text ++ "'. Expected like 0.2.0"
  | .wrongType | .noSuchMember | .noSuchKey | .numberTooLarge | .outOfRange | .unknownUser
  | .template | .markup | .halfInPath => []

/-- A value was refused: it has the right type, but not a value that can be used. -/
def isRejection : Fault → Bool
  | .catalog _ | .request _ | .notPositive _ | .negative _ | .configNotObject | .configValue _
  | .badBoolean _ | .badInteger _ | .badNumber _ | .noWholePart | .tooManyDigits _
  | .unknownCommand _ | .unsupportedCommand _ | .worker _ | .document _ | .octets _
  | .nullInPath | .halves _ | .halfInPath => true
  | _ => false

end Fault

/-- A computation that succeeds does so step by step. -/
theorem exists_of_bind_eq_ok {ε α β : Type} {first : Except ε α} {next : α → Except ε β} {b : β}
    (h : first >>= next = .ok b) : ∃ a, first = .ok a ∧ next a = .ok b := by
  cases first with
  | error fault => cases h
  | ok a => exact ⟨a, rfl, h⟩

/-- A computation fails at the first of its steps that fails. -/
theorem bind_eq_error_iff {ε α β : Type} {first : Except ε α} {next : α → Except ε β} {fault : ε} :
    first >>= next = .error fault ↔
      first = .error fault ∨ ∃ a, first = .ok a ∧ next a = .error fault := by
  cases first with
  | error reason =>
    exact ⟨fun h => Or.inl (by cases h; rfl), by rintro (h | ⟨a, h, -⟩) <;> cases h; rfl⟩
  | ok a =>
    constructor
    · exact fun h => Or.inr ⟨a, rfl, h⟩
    · rintro (h | ⟨b, h, hnext⟩)
      · cases h
      · cases h
        exact hnext

end Launcher
