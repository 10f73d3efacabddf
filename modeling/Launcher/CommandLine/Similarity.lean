import Launcher.Text

/-!
# Similar words

Two words are compared by the blocks that they share: the longest common block, the earliest if
there are several, and then in the same way what stands before it in both words and what stands
after it. Words are near when twice the number of shared characters is at least four fifths of the
number of all characters.

`DefaultSearchGroup` uses this to tell a misspelt command from a query.
-/

namespace Launcher.CommandLine

/-- How far two words agree from their start on. -/
def agreement : Text → Text → Nat
  | a :: as, b :: bs => if a = b then agreement as bs + 1 else 0
  | _, _ => 0

/-- A block that two words share: where it stands in each, and its size. -/
structure Block where
  first : Nat
  second : Nat
  size : Nat
deriving DecidableEq, Repr

/-- The larger of two blocks, the earlier one if they are of one size. -/
def Block.larger (earlier later : Block) : Block :=
  if earlier.size < later.size then later else earlier

/-- Every block that two words share, from each pair of places on. -/
def blocks (a b : Text) : List Block :=
  (List.range a.length).flatMap fun i =>
    (List.range b.length).map fun j => ⟨i, j, agreement (a.drop i) (b.drop j)⟩

/-- The largest block that two words share. -/
def largestBlock (a b : Text) : Block := (blocks a b).foldl Block.larger ⟨0, 0, 0⟩

/-- The number of characters in the blocks that two words share; `fuel` is at least the length of
the first word. -/
def sharedFrom : Nat → Text → Text → Nat
  | 0, _, _ => 0
  | fuel + 1, a, b =>
    let block := largestBlock a b
    if block.size = 0 then 0
    else
      sharedFrom fuel (a.take block.first) (b.take block.second) + block.size +
        sharedFrom fuel (a.drop (block.first + block.size)) (b.drop (block.second + block.size))

/-- The number of characters that two words share. -/
def shared (a b : Text) : Nat := sharedFrom a.length a b

/-- Two words are near each other. -/
def isNear (a b : Text) : Bool := 2 * (a.length + b.length) ≤ 5 * shared a b

end Launcher.CommandLine
