import Launcher.Value.Same

/-!
# Queries

A query is what is typed, a text. Whoever drives a session may hand over any other value in its
place; equal values are the same query, and null is none, not even the same as itself.

Equality of queries is that of the memo, which takes null for an empty slot.
-/

namespace Launcher

/-- What a session is asked to search. -/
structure Query where
  value : Value
deriving Inhabited

namespace Query

/-- The query of a text. -/
def ofText (t : Text) : Query := ⟨.text t⟩

/-- The query is null, which is none. -/
def isNull (query : Query) : Bool := query.value.isNull

instance : BEq Query where
  beq first second := !first.isNull && first.value == second.value

/-- Two texts are the same query exactly when they are the same text. -/
@[simp] theorem ofText_beq_ofText (s t : Text) : (ofText s == ofText t) = (s == t) := rfl

/-- Null is not the same query as any other. -/
@[simp] theorem null_beq (query : Query) : (⟨.null⟩ == query) = false := rfl

end Query

end Launcher
