import Launcher.Decimal.Fixed
import Launcher.Search.Index
import Launcher.Text.Split

/-!
# Rows for other programs

A row has four fields with tabs between them: its number, its score with three places, the title and
the subtitle, or a dash where there is none. Backslashes, tabs and line ends inside a field are
written as a backslash and a letter, so that rows end only at line ends and fields only at tabs.

Modelled are `_render_results_porcelain` and `_escape_porcelain_field`. The four replacements there
follow each other; since none makes what a later one takes, `field` makes them in one pass.
-/

namespace Launcher.CommandLine

open Launcher.Decimal Launcher.Text

/-- A code inside a field. -/
def fieldCode (c : Code) : Text :=
  if c = '\\' then "\\\\"
  else if c = '\t' then "\\t"
  else if c = '\n' then "\\n"
  else if c = '\r' then "\\r"
  else [c]

/-- The text of a field. -/
def field (t : Text) : Text := t.flatMap fieldCode

/-- The row of a result. -/
def porcelainRow (number : Nat) (result : Result) : Text :=
  joinWith (.char '\t')
    [ofString (toString number), ofString (fixed 3 result.score), field result.title,
      field (result.subtitle.getD "-")]

/-- The rows of results, numbered from one. -/
def porcelainRows (results : List Result) : List Text :=
  (results.zipIdx 1).map fun (result, number) => porcelainRow number result

end Launcher.CommandLine
