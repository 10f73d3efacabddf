import Launcher.Proofs.Json.WrittenValue

/-!
# Halves in written documents

A document holds half of a surrogate pair exactly if a text or a key in its value does: nothing that
the writer adds has one, and halves are written as they are. So this tells which documents can be
put into a file or printed.

> `HoldsHalf` a text or a key somewhere in the value holds half of a pair
> **`hasHalf_write`** the documents with halves
-/

namespace Launcher.Json

open Launcher.Decimal Launcher.Text

mutual

/-- A text or a key in the value holds half of a pair. -/
def holdsHalf : Value → Bool
  | .text t => t.hasHalf
  | .list items => holdHalf items
  | .object fields => fieldsHoldHalf fields
  | _ => false

/-- A text or a key in one of the values holds half of a pair. -/
def holdHalf : List Value → Bool
  | [] => false
  | v :: rest => holdsHalf v || holdHalf rest

/-- A key, or a text or a key in a value of the fields, holds half of a pair. -/
def fieldsHoldHalf : List (Text × Value) → Bool
  | [] => false
  | (key, v) :: rest => key.hasHalf || holdsHalf v || fieldsHoldHalf rest

end

theorem fieldsHoldHalf_eq (fields : Fields) :
    fieldsHoldHalf fields = fields.any fun kv => kv.1.hasHalf || holdsHalf kv.2 := by
  induction fields with
  | nil => rw [fieldsHoldHalf, List.any_nil]
  | cons kv rest ih => rw [fieldsHoldHalf, ih, List.any_cons]

/-- A code is written as it is if it is half of a pair, and with characters only otherwise. -/
theorem hasHalf_writtenCode (c : Code) : hasHalf (writtenCode c) = c.isHalf := by
  cases c with
  | half n =>
    have hlarge : ¬ (Code.half n).toNat < 0x20 := by simp only [Code.toNat]; omega
    have hback : ¬ (Code.half n).toNat = 8 := by simp only [Code.toNat]; omega
    have hfeed : ¬ (Code.half n).toNat = 12 := by simp only [Code.toNat]; omega
    simp [writtenCode, hlarge, hback, hfeed]
  | char c =>
    unfold writtenCode numbered
    split_ifs
    all_goals simp [Code.isHalf]

/-- Writing a text adds no half of a pair and takes none away. -/
theorem hasHalf_writtenText (t : Text) : hasHalf (writtenText t) = hasHalf t := by
  have hcodes : hasHalf (t.flatMap writtenCode) = hasHalf t := by
    induction t with
    | nil => rfl
    | cons c t ih => rw [List.flatMap_cons, hasHalf_append, hasHalf_writtenCode, ih, hasHalf_cons]
  simp [writtenText, hcodes, Code.isHalf]

theorem AllSpaces.hasHalf {t : Text} (h : AllSpaces t) : hasHalf t = false := by
  refine List.any_eq_false.mpr fun c hc => ?_
  rcases h c hc with rfl | rfl
  · exact Bool.false_ne_true
  · exact Bool.false_ne_true

/-- What stands between the parts of a document holds no half. -/
theorem Layout.Spaced.hasHalf_between {layout : Layout} (h : layout.Spaced) (level : Nat) :
    hasHalf (layout.between level) = false := by
  obtain ⟨spaces, hbetween, hspaces⟩ := h.between level
  rw [hbetween, hasHalf_cons, hspaces.hasHalf]
  rfl

/-- Joined pieces hold half of a pair exactly when one of them does. -/
theorem hasHalf_intercalate {between : Text} (hbetween : hasHalf between = false) :
    ∀ pieces : List Text, hasHalf (List.intercalate between pieces) = pieces.any hasHalf
  | [] => rfl
  | [piece] => by rw [List.intercalate_singleton, List.any_cons, List.any_nil, Bool.or_false]
  | piece :: next :: rest => by
    rw [List.intercalate_cons_cons, hasHalf_append, hasHalf_append, hbetween, Bool.or_false,
      hasHalf_intercalate hbetween (next :: rest)]
    rfl

variable {layout : Layout}

mutual

/-- The text of a value holds half of a pair exactly when the value does, at every depth. -/
theorem hasHalf_writeAt (hlayout : layout.Spaced) : ∀ (level : Nat) (v : Value),
    hasHalf (writeAt layout level v) = holdsHalf v
  | _, .null => by simp [writeAt, holdsHalf]
  | _, .bool true => by simp [writeAt, holdsHalf]
  | _, .bool false => by simp [writeAt, holdsHalf]
  | _, .int n => by simp [writeAt, holdsHalf]
  | _, .float x => by simp [writeAt, holdsHalf]
  | _, .text t => by rw [writeAt, holdsHalf, hasHalf_writtenText]
  | _, .list [] => by rw [writeAt, holdsHalf, holdHalf, hasHalf_ofString]
  | level, .list (v :: items) => by
    rw [writeAt_list, holdsHalf, hasHalf_cons, hasHalf_append, hasHalf_append, hasHalf_append,
      (hlayout.opening level).hasHalf, (hlayout.closing level).hasHalf,
      hasHalf_intercalate (hlayout.hasHalf_between level),
      hasHalf_writeItems hlayout (level + 1) (v :: items)]
    simp [Code.isHalf]
  | _, .object [] => by rw [writeAt, holdsHalf, fieldsHoldHalf, hasHalf_ofString]
  | level, .object (kv :: fields) => by
    rw [writeAt_object, holdsHalf, hasHalf_cons, hasHalf_append, hasHalf_append, hasHalf_append,
      (hlayout.opening level).hasHalf, (hlayout.closing level).hasHalf,
      hasHalf_intercalate (hlayout.hasHalf_between level),
      hasHalf_writeFields hlayout (level + 1) (kv :: fields)]
    simp [Code.isHalf]

theorem hasHalf_writeItems (hlayout : layout.Spaced) : ∀ (level : Nat) (items : List Value),
    (writeItems layout level items).any hasHalf = holdHalf items
  | _, [] => by rw [writeItems, holdHalf, List.any_nil]
  | level, v :: rest => by
    rw [writeItems, holdHalf, List.any_cons, hasHalf_writeAt hlayout level v,
      hasHalf_writeItems hlayout level rest]

theorem hasHalf_writeFields (hlayout : layout.Spaced) :
    ∀ (level : Nat) (fields : List (Text × Value)),
      (writeFields layout level fields).any hasHalf = fieldsHoldHalf fields
  | _, [] => by rw [writeFields, fieldsHoldHalf, List.any_nil]
  | level, (key, v) :: rest => by
    rw [writeFields, fieldsHoldHalf, List.any_cons, hasHalf_append, hasHalf_append,
      hasHalf_writtenText, hasHalf_ofString, Bool.or_false, hasHalf_writeAt hlayout level v,
      hasHalf_writeFields hlayout level rest]

end

/-- **A written document holds half of a pair exactly if its value does.** -/
theorem hasHalf_write (hlayout : layout.Spaced) (v : Value) :
    hasHalf (write layout v) = holdsHalf v := hasHalf_writeAt hlayout 0 v

end Launcher.Json
