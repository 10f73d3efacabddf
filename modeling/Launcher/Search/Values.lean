import Launcher.Search.Scoring
import Launcher.Value.Arithmetic
import Launcher.Value.Same

/-!
# Scoring values

Queries, targets and weights may be values of any type. Whatever has members takes the place of a
text, a weight is added as it is, and a value that does not serve is a fault, but only when it is
reached: keywords are looked at one after the other, and a weight only when its rule applies.

This is again `score_entry` and `is_subsequence`, called as a program may call them.
-/

namespace Launcher

/-- Scores that are values. -/
instance : Scale (Except Fault Value) where
  add x y := do (← x).plus (← y)
  mul x y := do (← x).times (← y)
  ratio part whole := .ok (.float (Scale.ratio part whole))

namespace Value

/-- The members of a value; one without members is of the wrong type. -/
def asMembers (given : Value) : Except Fault (List Value) :=
  match given.members? with
  | some members => .ok members
  | none => .error .wrongType

/-- The members of the query occur in the target in order. The empty query asks for nothing, and an
object has no members by position. -/
def isSubsequenceOf (query target : Value) : Except Fault Bool := do
  let wanted ← query.asMembers
  if wanted.isEmpty then .ok true
  else do
    let members ← target.asMembers
    if members.length < wanted.length then .ok false
    else match query with
      | .object _ => .error .noSuchKey
      | _ => .ok (isSubsequence wanted members)

/-- The members of the first keyword that fits among those that count as true. -/
def fittingMembers? (query : List Value) : List Value → Except Fault (Option (List Value))
  | [] => .ok none
  | keyword :: rest =>
    if !keyword.isTrue then fittingMembers? query rest
    else do
      let members ← keyword.asMembers
      if isSubsequence query members then .ok (some members) else fittingMembers? query rest

/-- The hit of a query against a title and keywords, none if no rule applies. -/
def hit? (weights : Weights Value) (base query title keywords : Value) :
    Except Fault (Option (Hit Value)) :=
  match title, query with
  | .text title, .text wanted => do
    let weights : Weights (Except Fault Value) := weights.map .ok
    match titleHit? weights (.ok base) wanted title with
    | some hit => hit.sound.map some
    | none =>
      let members ← query.asMembers
      match ← fittingMembers? members (← keywords.asMembers) with
      | some keyword => (keywordHit weights (.ok base) members keyword).sound.map some
      | none => .ok none
  | .text _, _ => .error .wrongType
  | _, _ => .error .noSuchMember

end Value

end Launcher
