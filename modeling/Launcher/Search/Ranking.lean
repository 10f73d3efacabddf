import Launcher.Search.Scoring

/-!
# Ranking

The rows of a catalog that fit a query are ranked by score, the highest first; rows of equal score
keep their order, and the list is cut off at a limit. The empty query fits every row at its base
weight.

Modelled is the second half of `SearchIndex.search`. The scores are sorted there with their signs
turned; what is not a number goes last in either way (`rankKey`).
-/

namespace Launcher

/-- Scores that can be ranked. -/
class Graded (α : Type) where
  /-- The first score is ranked at least as high as the second. -/
  atLeast : α → α → Bool

/-- Doubles; what is not a number is ranked below everything else. -/
instance : Graded Float where
  atLeast x y :=
    match Decimal.rankKey x, Decimal.rankKey y with
    | _, none => true
    | none, some _ => false
    | some k, some l => l ≤ k

/-- Exact scores. -/
instance : Graded Rat where
  atLeast x y := decide (y ≤ x)

/-- What is searched of an entry: its title and keywords in lowercase, and its base weight. -/
structure Row (α : Type) where
  title : Text
  keywords : List Text
  baseWeight : α

/-- A row with a function applied to its base weight. -/
def Row.map {α β : Type} (f : α → β) (row : Row α) : Row β :=
  ⟨row.title, row.keywords, f row.baseWeight⟩

/-- A row that fits, by its position, with its score; there is no rule for the empty query. -/
structure Match (α : Type) where
  position : Nat
  score : α
  rule : Option Rule

namespace Match

/-- The match of a row for the empty query. -/
def unranked {α : Type} (row : Row α × Nat) : Match α := ⟨row.2, row.1.baseWeight, none⟩

/-- The match of a row for a query, if a rule applies. -/
def of? {α : Type} [Scale α] (weights : Weights α) (needle : Text) (row : Row α × Nat) :
    Option (Match α) :=
  (hit? weights row.1.baseWeight needle row.1.title row.1.keywords).map fun hit =>
    ⟨row.2, hit.score, some hit.rule⟩

/-- The match with its score, if that is not a fault. -/
def sound {ε α : Type} (found : Match (Except ε α)) : Except ε (Match α) :=
  found.score.map fun score => ⟨found.position, score, found.rule⟩

/-- The first match comes before the second unless the second has a higher score. -/
def before {α : Type} [Graded α] (first second : Match α) : Bool :=
  Graded.atLeast first.score second.score

end Match

/-- The rows that fit a lowercase query, in their order. -/
def candidates {α : Type} [Scale α] (weights : Weights α) (needle : Text)
    (rows : List (Row α)) : List (Match α) :=
  if needle.isEmpty then rows.zipIdx.map Match.unranked
  else rows.zipIdx.filterMap (Match.of? weights needle)

/-- The best of some matches, at most `limit` of them. -/
def best {α : Type} [Graded α] (limit : Nat) (found : List (Match α)) : List (Match α) :=
  (found.mergeSort Match.before).take limit

/-- The best rows for a lowercase query, at most `limit` of them. -/
def rank {α : Type} [Scale α] [Graded α] (weights : Weights α) (needle : Text) (limit : Nat)
    (rows : List (Row α)) : List (Match α) :=
  best limit (candidates weights needle rows)

end Launcher
