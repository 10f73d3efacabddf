import Launcher.Decimal.Binary64
import Launcher.Search.Subsequence
import Launcher.Text

/-!
# Scores

A query is scored against one title and its keywords by the first of three rules that applies: the
title starts with the query, the title has it as a subsequence, a keyword has it as a subsequence.
The first rule adds a fixed bonus to the base weight; the others add a multiple of the share of the
title or keyword that the query covers.

Scores are taken from any `Scale`. The launcher computes on doubles; the rationals are the scale on
which the same formulas are exact. A scale of results that may be faults computes with whatever is
sound: a faulty weight does no harm until its rule applies. Nothing is lowercased here.

Modelled are `score_entry`, `Match`, `MatchRule` and `ScoringWeights`.
-/

namespace Launcher

/-- Numbers that can be scores. -/
class Scale (α : Type) where
  add : α → α → α
  mul : α → α → α
  /-- A part of a whole as a number. -/
  ratio : Nat → Nat → α

/-- Doubles. -/
instance : Scale Float where
  add x y := x + y
  mul x y := x * y
  ratio part whole := Float.ofNat part / Float.ofNat whole

/-- Exact scores. -/
instance : Scale Rat where
  add x y := x + y
  mul x y := x * y
  ratio part whole := (part : Rat) / (whole : Rat)

/-- Scores or faults; the first fault counts. -/
instance {ε α : Type} [Scale α] : Scale (Except ε α) where
  add x y := do .ok (Scale.add (← x) (← y))
  mul x y := do .ok (Scale.mul (← x) (← y))
  ratio part whole := .ok (Scale.ratio part whole)

/-- How much each rule adds to a base weight. -/
structure Weights (α : Type) where
  prefixBonus : α
  titleMultiplier : α
  keywordMultiplier : α

namespace Weights

/-- Weights with a function applied to each of them. -/
def map {α β : Type} (f : α → β) (weights : Weights α) : Weights β where
  prefixBonus := f weights.prefixBonus
  titleMultiplier := f weights.titleMultiplier
  keywordMultiplier := f weights.keywordMultiplier

/-- The weights of a launcher that sets none. -/
def standard : Weights Float where
  prefixBonus := 0.5
  titleMultiplier := 0.3
  keywordMultiplier := 0.2

end Weights

/-- The rule by which a query fits an entry. -/
inductive Rule where
  | titleStart
  | title
  | keyword
deriving DecidableEq, Repr

/-- The name of a rule. -/
def Rule.name : Rule → Text
  | .titleStart => "prefix"
  | .title => "title"
  | .keyword => "keyword"

/-- A score and the rule that gave it. -/
structure Hit (α : Type) where
  score : α
  rule : Rule

/-- The hit with its score, if that is not a fault. -/
def Hit.sound {ε α : Type} (hit : Hit (Except ε α)) : Except ε (Hit α) :=
  hit.score.map fun score => ⟨score, hit.rule⟩

/-- The keyword that fits: the first that is not empty and has the query as a subsequence. -/
def fittingKeyword? (query : Text) (keywords : List Text) : Option Text :=
  keywords.find? fun keyword => !keyword.isEmpty && isSubsequence query keyword

/-- The base weight with a multiple of the share of the target that the query covers. -/
def fuzzyScore {α β γ : Type} [Scale α] (base multiplier : α) (query : List β) (target : List γ) :
    α :=
  Scale.add base (Scale.mul multiplier (Scale.ratio query.length target.length))

/-- The hit of a query in a title, if one of the first two rules applies. -/
def titleHit? {α : Type} [Scale α] (weights : Weights α) (base : α) (query title : Text) :
    Option (Hit α) :=
  if query.isPrefixOf title then some ⟨Scale.add base weights.prefixBonus, .titleStart⟩
  else if isSubsequence query title then
    some ⟨fuzzyScore base weights.titleMultiplier query title, .title⟩
  else none

/-- The hit of a query in a keyword that fits. -/
def keywordHit {α β γ : Type} [Scale α] (weights : Weights α) (base : α) (query : List β)
    (keyword : List γ) : Hit α :=
  ⟨fuzzyScore base weights.keywordMultiplier query keyword, .keyword⟩

/-- The hit of a query against a title and keywords, none if no rule applies. -/
def hit? {α : Type} [Scale α] (weights : Weights α) (base : α) (query title : Text)
    (keywords : List Text) : Option (Hit α) :=
  match titleHit? weights base query title with
  | some hit => some hit
  | none => (fittingKeyword? query keywords).map (keywordHit weights base query)

end Launcher
