import Launcher.Decimal.Reading
import Launcher.Text.Identifier

/-!
# Literal values

The arguments of an action in a text are literal values: numbers, texts, the constants, tuples,
mappings and sets of such. `isLiteral` says whether a text is one, or several between commas; no
value is kept.

The text is read in two steps: `tokens?` reads its words, and `items?` reads values from words.
-/

namespace Launcher.Terminal.Literal

open Launcher.Text Launcher.Decimal

/-- A word of a literal value. -/
inductive Token where
  | real
  | imaginary
  | text (octets : Bool)
  | constant
  | set
  | mark (c : Char)
deriving DecidableEq, Repr

/-- The characters that are words by themselves. -/
def marks : List Char := ['(', ')', '\x7b', '\x7d', ',', ':', '+', '-']

/-! ## Numbers -/

/-- The characters begin with a digit of a kind. -/
def startsWith (isDigit : Char → Bool) (cs : List Char) : Bool := cs.head?.any isDigit

/-- What follows a row of digits with single underscores between them. -/
def afterDigits (isDigit : Char → Bool) : List Char → List Char
  | [] => []
  | '_' :: c :: rest => if isDigit c then afterDigits isDigit rest else '_' :: c :: rest
  | c :: rest => if isDigit c then afterDigits isDigit rest else c :: rest

/-- The character is an octal digit. -/
def isOctalDigit (c : Char) : Bool := '0' ≤ c && c ≤ '7'

/-- The character is a binary digit. -/
def isBinaryDigit (c : Char) : Bool := c == '0' || c == '1'

/-- The character is a hexadecimal digit. -/
def isHexDigit (c : Char) : Bool :=
  isAsciiDigit c || ('a' ≤ asciiLower c && asciiLower c ≤ 'f')

/-- The digits of a base by its letter. -/
def digitsOfBase? (letter : Char) : Option (Char → Bool) :=
  match asciiLower letter with
  | 'x' => some isHexDigit
  | 'o' => some isOctalDigit
  | 'b' => some isBinaryDigit
  | _ => none

/-- What follows digits of a base; at least one must be there. -/
def afterBase? (isDigit : Char → Bool) (cs : List Char) : Option (List Char) :=
  let digits := match cs with
    | '_' :: rest => rest
    | cs => cs
  if startsWith isDigit digits then some (afterDigits isDigit digits) else none

/-- What follows the places behind a point, if a point comes next. -/
def afterPlaces : List Char → List Char
  | '.' :: rest => if startsWith isAsciiDigit rest then afterDigits isAsciiDigit rest else rest
  | cs => cs

/-- What follows an exponent, if one comes next. -/
def afterExponent : List Char → List Char
  | [] => []
  | e :: rest =>
    let digits := (splitSign rest).2
    if asciiLower e = 'e' && startsWith isAsciiDigit digits then afterDigits isAsciiDigit digits
    else e :: rest

/-- A decimal number and what follows it. A whole number has no zero in front, unless it is zero. -/
def decimal? (cs : List Char) : Option (Token × List Char) :=
  let whole := if startsWith isAsciiDigit cs then afterDigits isAsciiDigit cs else cs
  let rest := afterExponent (afterPlaces whole)
  match rest with
  | 'j' :: rest | 'J' :: rest => some (.imaginary, rest)
  | _ =>
    let digits := (cs.take (cs.length - rest.length)).filter (· != '_')
    if rest.length < whole.length then some (.real, rest)
    else if maxDigits < digits.length then none
    else if cs.head? = some '0' && digits.any (· != '0') then none
    else some (.real, rest)

/-- A number and what follows it. -/
def number? (cs : List Char) : Option (Token × List Char) :=
  match cs with
  | '0' :: letter :: rest =>
    match digitsOfBase? letter with
    | some isDigit => (afterBase? isDigit rest).map (Token.real, ·)
    | none => decimal? cs
  | _ => decimal? cs

/-! ## Texts -/

/-- What follows a number of hexadecimal digits, if they come next, and the number they write. -/
def afterHex? : Nat → List Char → Option (List Char)
  | 0, cs => some cs
  | n + 1, c :: rest => if isHexDigit c then afterHex? n rest else none
  | _, [] => none

/-- What follows a character that a backslash stands before, and that may need digits. -/
def afterEscape? (octets : Bool) (c : Char) (rest : List Char) : Option (List Char) :=
  if c = 'x' then afterHex? 2 rest
  else if octets then some rest
  else if c = 'u' then afterHex? 4 rest
  else if c = 'U' then
    match rest with
    | '0' :: '0' :: '0' :: more | '0' :: '0' :: '1' :: '0' :: more =>
      afterHex? (8 - (rest.length - more.length)) more
    | _ => none
  else if c = 'N' then none
  else some rest

/-- What follows the closing quotes of a text. The text ends at `quotes` quotes `quote`; a text
between single quotes has no line break. `fuel` is at least the number of characters. -/
def afterText? (quote : Char) (quotes : Nat) (raw octets : Bool) :
    Nat → List Char → Option (List Char)
  | 0, _ => none
  | _, [] => none
  | fuel + 1, c :: rest =>
    if (c :: rest).take quotes = List.replicate quotes quote then some ((c :: rest).drop quotes)
    else if octets && 127 < c.toNat then none
    else if c = '\n' && quotes = 1 then none
    else if c = '\\' then
      match rest with
      | [] => none
      | d :: more =>
        if octets && 127 < d.toNat then none
        else if raw then afterText? quote quotes raw octets fuel more
        else (afterEscape? octets d more).bind (afterText? quote quotes raw octets fuel)
    else afterText? quote quotes raw octets fuel rest

/-- The letters in front of the quotes of a text: what they say about backslashes and octets. -/
def readLetters? (letters : List Char) : Option (Bool × Bool) :=
  let small := String.ofList (letters.map asciiLower)
  [("", (false, false)), ("u", (false, false)), ("r", (true, false)), ("b", (false, true)),
    ("br", (true, true)), ("rb", (true, true))].lookup small

/-- A text behind its letters, and what follows it. -/
def text? (letters : List Char) (quote : Char) (rest : List Char) :
    Option (Token × List Char) := do
  let (raw, octets) ← readLetters? letters
  let after ← match rest with
    | a :: b :: more =>
      if a = quote && b = quote then afterText? quote 3 raw octets rest.length more
      else if a = quote then some (b :: more)
      else afterText? quote 1 raw octets rest.length rest
    | rest => afterText? quote 1 raw octets rest.length rest
  some (.text octets, after)

/-- The character is a quote. -/
def isQuote (c : Char) : Bool := c == '\'' || c == '"'

/-! ## Words -/

/-- The word that a name is. -/
def named? (name : List Char) : Option Token :=
  [("None", Token.constant), ("True", .constant), ("False", .constant), ("set", .set)].lookup
    (String.ofList name)

/-- A word and what follows it; the characters begin with no blank. -/
def token? (cs : List Char) : Option (Token × List Char) :=
  match cs with
  | [] => none
  | c :: rest =>
    if marks.contains c then some (.mark c, rest)
    else if isAsciiDigit c || (c == '.' && startsWith isAsciiDigit rest) then do
      let (token, after) ← number? cs
      if after.head?.any fun d : Char => isIdentifierChar d then none else some (token, after)
    else if cs.take 3 = ['.', '.', '.'] then some (.constant, cs.drop 3)
    else
      let name := cs.takeWhile fun d : Char => isIdentifierChar d
      match cs.drop name.length with
      | quote :: after =>
        if isQuote quote then text? name quote after
        else (named? name).map (·, quote :: after)
      | [] => (named? name).map (·, [])

/-- The words of a text; `depth` is the number of brackets that are open. A line may end within
brackets or behind a backslash. `fuel` is more than the number of characters. -/
def tokens? : Nat → Nat → List Char → Option (List Token)
  | 0, _, _ => none
  | _, _, [] => some []
  | fuel + 1, depth, c :: rest =>
    if c = ' ' || c = '\t' || (c = '\n' && 0 < depth) then tokens? fuel depth rest
    else if c = '#' then tokens? fuel depth (rest.dropWhile (· != '\n'))
    else if c = '\\' && rest.head? = some '\n' then tokens? fuel depth (rest.drop 1)
    else do
      let (token, after) ← token? (c :: rest)
      let depth :=
        if c = '(' || c = '\x7b' then depth + 1
        else if c = ')' || c = '\x7d' then depth - 1
        else depth
      (tokens? fuel depth after).map (token :: ·)

/-! ## Values -/

/-- What matters of a value: that it is a number by itself or with a sign, or else whether it may
stand in a set. -/
inductive Kind where
  | real (signed : Bool)
  | imaginary (signed : Bool)
  | hashable
  | unhashable
deriving DecidableEq, Repr

namespace Kind

/-- A number with a sign in front of it. -/
def signed? : Kind → Option Kind
  | real false => some (real true)
  | imaginary false => some (imaginary true)
  | _ => none

/-- The sum or difference of two numbers, which must be a real and an imaginary part. -/
def sum? : Kind → Kind → Option Kind
  | real _, imaginary false => some hashable
  | _, _ => none

/-- A tuple of values, which may stand in a set if they all may. -/
def tuple (kinds : List Kind) : Kind := if unhashable ∈ kinds then unhashable else hashable

end Kind

/-- What stands between two commas: a value, or a key with its value. -/
inductive Item where
  | one (kind : Kind)
  | pair (key value : Kind)
deriving DecidableEq, Repr

/-- The value of an item that has no key. -/
def Item.one? : Item → Option Kind
  | .one kind => some kind
  | .pair _ _ => none

/-- The key of an item that has one. -/
def Item.key? : Item → Option Kind
  | .one _ => none
  | .pair key _ => some key

/-- What items between round brackets are: a single one without a comma is the value itself. -/
def round? (items : List Item) (comma : Bool) : Option Kind :=
  match items.mapM Item.one?, comma with
  | some [kind], false => some kind
  | some kinds, _ => some (Kind.tuple kinds)
  | none, _ => none

/-- What items between curly brackets are: a set or a mapping, whose members or keys may stand in a
set. -/
def curly? (items : List Item) : Option Kind :=
  match items.mapM Item.one? <|> items.mapM Item.key? with
  | some kinds => if Kind.unhashable ∈ kinds then none else some .unhashable
  | none => none

/-- The word is the sign of a number. -/
def isSign (token : Token) : Bool := token == .mark '+' || token == .mark '-'

/-- What follows a text: texts of the same sort are joined to it. -/
def joinTexts? (octets : Bool) : List Token → Option (List Token)
  | .text other :: rest => if other = octets then joinTexts? octets rest else none
  | rest => some rest

mutual

/-- A value without a sign, and what follows it. -/
def atom? : Nat → List Token → Option (Kind × List Token)
  | 0, _ => none
  | fuel + 1, tokens =>
    match tokens with
    | .real :: rest => some (.real false, rest)
    | .imaginary :: rest => some (.imaginary false, rest)
    | .constant :: rest => some (.hashable, rest)
    | .text octets :: rest => (joinTexts? octets rest).map (.hashable, ·)
    | .set :: .mark '(' :: .mark ')' :: rest => some (.unhashable, rest)
    | .mark '(' :: rest =>
      match items? fuel rest with
      | some (items, comma, .mark ')' :: rest) => (round? items comma).map (·, rest)
      | _ => none
    | .mark '\x7b' :: rest =>
      match items? fuel rest with
      | some (items, _, .mark '\x7d' :: rest) => (curly? items).map (·, rest)
      | _ => none
    | _ => none

/-- A value, and what follows it. -/
def value? : Nat → List Token → Option (Kind × List Token)
  | 0, _ => none
  | fuel + 1, tokens => do
    let (kind, rest) ← match tokens with
      | token :: rest =>
        if isSign token then do
          let (kind, rest) ← atom? fuel rest
          some (← kind.signed?, rest)
        else atom? fuel (token :: rest)
      | [] => none
    match rest with
    | token :: more =>
      if isSign token then do
        let (other, rest) ← atom? fuel more
        some (← kind.sum? other, rest)
      else some (kind, rest)
    | [] => some (kind, [])

/-- Items up to a closing bracket or to the end, whether a comma stands among them, and what follows
them. -/
def items? : Nat → List Token → Option (List Item × Bool × List Token)
  | 0, _ => none
  | fuel + 1, tokens => do
    if [none, some (.mark ')'), some (.mark '\x7d')].contains tokens.head? then
      some ([], false, tokens)
    else
      let (kind, rest) ← value? fuel tokens
      let (item, rest) ← match rest with
        | .mark ':' :: rest => (value? fuel rest).map fun (value, rest) => (.pair kind value, rest)
        | rest => some (.one kind, rest)
      match rest with
      | .mark ',' :: rest => do
        let (items, _, rest) ← items? fuel rest
        some (item :: items, true, rest)
      | rest => some ([item], false, rest)

end

/-- The text is that of a literal value, or of several between commas; none holds half of a pair. -/
def isLiteral (t : Text) : Bool :=
  match charsFrom 0 t with
  | .error _ => false
  | .ok cs =>
    if cs.any (·.toNat == 0) then false
    else
      let read? := do
        let tokens ← tokens? (cs.length + 1) 0 cs
        let (items, comma, rest) ← items? (3 * tokens.length + 3) tokens
        if items.isEmpty || !rest.isEmpty then none else round? items comma
      read?.isSome

end Launcher.Terminal.Literal
