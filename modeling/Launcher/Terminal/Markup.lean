import Launcher.Fault
import Launcher.Terminal.Emoji
import Launcher.Terminal.Literal
import Launcher.Terminal.Style

/-!
# Markup

Text for the terminal may hold tags in square brackets, which set a style until the tag is closed. A
tag begins with a small letter or one of `#`, `/` and `@` and holds no bracket. Backslashes before a
tag are halved, and an odd one makes the tag plain text. Behind an equals sign a tag has arguments;
those of a tag that begins with `@` must be a literal value by the time it is closed. Outside of
tags emoji may be written by name.

`escape` protects a text from being read for tags, and `shown` gives the characters that appear:
styles are left out, since output to anything but a terminal has none.

The launcher leaves this, as well as styles, widths and tables, to a library for terminals. Modelled
is what can be seen of it on an output that is a pipe.
-/

namespace Launcher.Terminal

open Launcher.Text

/-- The character can begin a tag. -/
def isTagStart : Code → Bool
  | .char c => ('a' ≤ c && c ≤ 'z') || c == '#' || c == '/' || c == '@'
  | .half _ => false

/-- The inside of a tag and what follows it, if the characters after a bracket are those of one. -/
def splitTag? : Text → Option (Text × Text)
  | [] => none
  | c :: rest =>
    if isTagStart c then
      let body := rest.takeWhile fun d => d != .char '[' && d != .char ']'
      match rest.drop body.length with
      | .char ']' :: after => some (c :: body, after)
      | _ => none
    else none

/-- A number of backslashes. -/
def backslashes (n : Nat) : Text := List.replicate n (.char '\\')

/-- The backslashes at the start, a tag behind them and what follows it, if a tag comes next. -/
def nextTag? (cs : Text) : Option (Nat × Text × Text) :=
  let count := (cs.takeWhile (· == .char '\\')).length
  match cs.drop count with
  | .char '[' :: inside => (splitTag? inside).map fun (tag, after) => (count, tag, after)
  | _ => none

/-! ## Protecting a text -/

/-- The characters with their tags protected; `fuel` is at least their number. -/
def escapeFrom : Nat → Text → Text
  | 0, cs => cs
  | _, [] => []
  | fuel + 1, c :: rest =>
    match nextTag? (c :: rest) with
    | some (count, tag, after) =>
      backslashes (2 * count + 1) ++ "[" ++ tag ++ "]" ++ escapeFrom fuel after
    | none => c :: escapeFrom fuel rest

/-- The characters end with exactly one backslash. -/
def endsWithBackslash (cs : Text) : Bool :=
  match cs.reverse with
  | .char '\\' :: .char '\\' :: _ => false
  | .char '\\' :: _ => true
  | _ => false

/-- The text protected from being read as markup. -/
def escape (t : Text) : Text :=
  let escaped := escapeFrom t.length t
  if endsWithBackslash escaped then escaped ++ backslashes 1 else escaped

/-- The text in a style. -/
def styled (style text : Text) : Text := "[" ++ style ++ "]" ++ text ++ "[/" ++ style ++ "]"

/-! ## Reading markup -/

/-- A piece of a text with markup. -/
inductive Piece where
  | text (codes : Text)
  | tag (inside : Text)
deriving DecidableEq, Repr

/-- Characters read so far, in reverse, as a piece in front of others. -/
def addText (reversed : Text) (pieces : List Piece) : List Piece :=
  if reversed.isEmpty then pieces else .text reversed.reverse :: pieces

/-- The pieces of characters after those read so far, in reverse; `fuel` is at least their
number. -/
def piecesFrom : Nat → Text → Text → List Piece
  | 0, before, _ => addText before []
  | _, before, [] => addText before []
  | fuel + 1, before, c :: rest =>
    match nextTag? (c :: rest) with
    | some (count, tag, after) =>
      let piece := if count % 2 = 1 then Piece.text ("[" ++ tag ++ "]") else .tag tag
      addText before (addText (backslashes (count / 2)) (piece :: piecesFrom fuel [] after))
    | none => piecesFrom fuel (c :: before) rest

/-- The pieces of a text. -/
def pieces (cs : Text) : List Piece := piecesFrom cs.length [] cs

/-- A tag that is open: the normal name of its style and its arguments. -/
structure Tag where
  name : Text
  arguments : Text
deriving DecidableEq, Repr

/-- The name of a tag and its arguments. -/
def splitArguments (inside : Text) : Text × Text :=
  let name := inside.takeWhile (· != .char '=')
  (name, inside.drop (name.length + 1))

/-- The characters are the arguments of a call, in round brackets, or there are none. -/
def isCall (cs : Text) : Bool :=
  match cs, cs.reverse with
  | .char '(' :: _ :: _, .char ')' :: _ => !cs.contains (.char '\n')
  | [], _ => true
  | _, _ => false

/-- What must be a literal value in arguments: what stands behind the name of an action, or all of
them if they are more than a name and its arguments. -/
def literalPart (arguments : Text) : Text :=
  let given := trim arguments
  let name := given.takeWhile fun c => isIdentifierChar c || c == .char '.'
  let call := given.drop name.length
  if !isCall call then given else if call.isEmpty then "()" else call

namespace Tag

/-- The tag has arguments that are needed when it is closed. -/
def isAction (tag : Tag) : Bool := tag.name.head? == some (.char '@') && !tag.arguments.isEmpty

/-- The tag can be closed. -/
def isClosable (tag : Tag) : Bool := !tag.isAction || Literal.isLiteral (literalPart tag.arguments)

end Tag

/-- The tags that are left when the innermost one of a name is closed, or of any name if none is
given, together with that one. -/
def takeTag? (name : Text) : List Tag → Option (Tag × List Tag)
  | [] => none
  | tag :: outer =>
    if name.isEmpty || tag.name = name then some (tag, outer)
    else (takeTag? name outer).map fun (found, outer) => (found, tag :: outer)

/-- The tags that are open after a tag. -/
def afterTag (inside : Text) (tags : List Tag) : Except Fault (List Tag) := do
  let (name, arguments) := splitArguments inside
  match name with
  | .char '/' :: name => do
    let given := trim name
    let name ← if given.isEmpty then .ok [] else Style.normalName given
    match takeTag? name tags with
    | some (tag, outer) => if tag.isClosable then .ok outer else .error .markup
    | none => .error .markup
  | name => do .ok (⟨← Style.normalName name, arguments⟩ :: tags)

/-- Characters with no backslash in front of a bracket. -/
def bareBrackets : Text → Text
  | .char '\\' :: .char '[' :: rest => .char '[' :: bareBrackets rest
  | c :: rest => c :: bareBrackets rest
  | [] => []

/-- The character moves the cursor of a terminal and never appears. -/
def isTerminalControl (c : Code) : Bool :=
  c.toNat == 7 || c.toNat == 8 || (11 ≤ c.toNat && c.toNat ≤ 13)

/-- The characters of a piece of text that appear. -/
def shownText (cs : Text) : Text :=
  (withEmoji (bareBrackets cs)).filter fun c => !isTerminalControl c

/-- The characters of pieces that appear, `tags` being open. -/
def shownPieces (tags : List Tag) : List Piece → Except Fault Text
  | [] => .ok []
  | .text cs :: rest => (shownPieces tags rest).map (shownText cs ++ ·)
  | .tag inside :: rest => do shownPieces (← afterTag inside tags) rest

/-- The characters of a text with markup that appear. -/
def shown (t : Text) : Except Fault Text := shownPieces [] (pieces t)

end Launcher.Terminal
