import Launcher.Value
import Launcher.Decimal.Shortest
import Launcher.Text.Quoted

/-!
# Values in messages

A message shows a text as it is and any other value in the notation of `Value.literal`: `None`,
`True` and `False`, numbers, quoted texts, lists in brackets and objects in braces.
-/

namespace Launcher.Value

open Launcher.Decimal Launcher.Text

mutual

/-- A value in literal notation. -/
def literal : Value → Text
  | .null => "None"
  | .bool b => if b then "True" else "False"
  | .int n => toString n
  | .float x => messageStyle.write x
  | .text t => quoted t
  | .list items => "[" ++ List.intercalate ", " (literals items) ++ "]"
  | .object fields => "\x7b" ++ List.intercalate ", " (fieldLiterals fields) ++ "\x7d"

/-- The values of a list in literal notation. -/
def literals : List Value → List Text
  | [] => []
  | v :: rest => literal v :: literals rest

/-- The fields of an object in literal notation. -/
def fieldLiterals : List (Text × Value) → List Text
  | [] => []
  | (k, v) :: rest => (quoted k ++ ": " ++ literal v) :: fieldLiterals rest

end

/-- A value as a message shows it. -/
def shown : Value → Text
  | .text t => t
  | v => literal v

end Launcher.Value
