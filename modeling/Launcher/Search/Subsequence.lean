/-!
# Subsequences

A query fits a target when its members occur in the target in this order. `walk?` goes along the
target once. It looks for one member of the query at a time, steps on to the next whenever it meets
it, and ends where it has met the last. So it never looks beyond the end of the query; its answer
would be `none` if it did.

Members are compared by `==`; query and target are mostly lists of characters.

Modelled is `is_subsequence`, with reading beyond the end of the query as an outcome of its own.
-/

namespace Launcher

variable {β : Type} [BEq β]

/-- Whether a walk along the target meets the members of the query from a place on, in order. -/
def walk? (query : List β) (place : Nat) : List β → Option Bool
  | [] => some false
  | t :: target =>
    match query[place]? with
    | none => none
    | some q =>
      if t == q then
        if place + 1 = query.length then some true else walk? query (place + 1) target
      else walk? query place target

/-- Whether the members of the query occur in the target in order. The empty query asks for nothing,
and a query that is longer than the target is not looked for. -/
def subsequence? (query target : List β) : Option Bool :=
  if query.length = 0 then some true
  else if target.length < query.length then some false
  else walk? query 0 target

/-- The members of the query occur in the target in order. -/
def isSubsequence (query target : List β) : Bool := (subsequence? query target).getD false

end Launcher
