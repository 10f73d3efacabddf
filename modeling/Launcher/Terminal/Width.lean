import Launcher.Terminal.WidthTable
import Launcher.Text

/-!
# Columns that a text takes

`charWidth` is the number of columns of a character that stands alone. In a text a joiner takes the
next character into the same sign, and a selector asks for the picture of the character before it,
which may widen that one; `width` takes both into account.

`clusters` cuts a text into signs: each is a character with a width and whatever follows it without
one. Cutting a text to a width keeps signs whole; `fit` and `chop` work on them.
-/

namespace Launcher.Terminal

open Launcher.Text

/-- The character that joins the next one to the sign before it. -/
def joiner : Char := Char.ofNat 0x200D

/-- The character that asks for the picture of the character before it. -/
def pictureSelector : Char := Char.ofNat 0xFE0F

/-- The columns that a character takes. -/
def charWidth (c : Code) : Nat :=
  if inRanges c.toNat zeroWidthRanges then 0
  else if inRanges c.toNat wideRanges then 2
  else 1

/-- The columns that the picture of a character takes beyond those of the character. -/
def pictureExtra (last : Option Code) : Nat :=
  if last.any fun c => inRanges c.toNat pictureRanges then 1 else 0

/-- The columns that characters take after `last`, the last one with a width; the first character
is passed over if it is `joined`. -/
def widthFrom (last : Option Code) (joined : Bool) : Text → Nat
  | [] => 0
  | c :: rest =>
    if joined then widthFrom last false rest
    else if c = joiner then widthFrom last true rest
    else if c = pictureSelector then pictureExtra last + widthFrom none false rest
    else if charWidth c = 0 then widthFrom last false rest
    else charWidth c + widthFrom (some c) false rest

/-- The columns that a text takes. -/
def width (t : Text) : Nat := widthFrom none false t

/-- A sign: its codes and the columns that it takes. -/
structure Cluster where
  codes : Text
  width : Nat

/-- What has been cut off so far, in reverse: a sign that may still grow and those before it. -/
structure Cutting where
  grown : Cluster
  before : List Cluster
  last : Option Code
  joined : Bool

namespace Cutting

/-- The signs in order. -/
def signs (cutting : Cutting) : List Cluster := (cutting.grown :: cutting.before).reverse

/-- A first sign. -/
def start (c : Code) : Cutting :=
  if c = joiner || c = pictureSelector || charWidth c = 0 then ⟨⟨[c], 0⟩, [], none, false⟩
  else ⟨⟨[c], charWidth c⟩, [], some c, false⟩

/-- The sign grows by a character and by columns. -/
def grow (cutting : Cutting) (c : Code) (columns : Nat) : Cutting :=
  { cutting with grown := ⟨cutting.grown.codes ++ [c], cutting.grown.width + columns⟩ }

/-- One character more. -/
def step (cutting : Cutting) (c : Code) : Cutting :=
  if cutting.joined then { cutting.grow c 0 with joined := false }
  else if c = joiner then { cutting.grow c 0 with joined := true }
  else if c = pictureSelector then
    { cutting.grow c (pictureExtra cutting.last) with last := none }
  else if charWidth c = 0 then cutting.grow c 0
  else ⟨⟨[c], charWidth c⟩, cutting.grown :: cutting.before, some c, false⟩

end Cutting

/-- The signs of a text. -/
def clusters : Text → List Cluster
  | [] => []
  | c :: rest => (rest.foldl Cutting.step (Cutting.start c)).signs

/-- As many signs as fit into a width; a space stands for one that fits only in part. -/
def takeColumns : Nat → List Cluster → Text
  | 0, _ => []
  | _ + 1, [] => []
  | size + 1, sign :: rest =>
    if sign.width ≤ size + 1 then sign.codes ++ takeColumns (size + 1 - sign.width) rest else [' ']

/-- Spaces. -/
def spaces (n : Nat) : Text := List.replicate n (.char ' ')

/-- A text cut or padded to a width. -/
def fit (size : Nat) (t : Text) : Text :=
  if size = 0 then []
  else if width t ≤ size then t ++ spaces (size - width t)
  else takeColumns size (clusters t)

/-- Pieces of at most a width; `piece` is what the first one already holds, and `taken` the columns
that it takes. A last piece without a width is left out. -/
def chopFrom (size : Nat) (piece : Text) (taken : Nat) : List Cluster → List Text
  | [] => if taken = 0 then [] else [piece]
  | sign :: rest =>
    if size < taken + sign.width then piece :: chopFrom size sign.codes sign.width rest
    else chopFrom size (piece ++ sign.codes) (taken + sign.width) rest

/-- A text in pieces of at most a width. -/
def chop (size : Nat) (t : Text) : List Text := chopFrom size [] 0 (clusters t)

end Launcher.Terminal
