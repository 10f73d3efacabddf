import Mathlib.Algebra.Order.BigOperators.Group.List
import Mathlib.Algebra.Order.Ring.Int
import Launcher.Session.Cursor

/-!
# The cursor is a row cut off at both ends

The cursor marks one of its rows, or none if there are none (`Cursor.Marks`). A new list, a move by
whole rows and every command keep that, and a value that is no command is refused and changes
nothing, so it holds after any calls (`history_marks`).

Every command is a move: the first and the last row are as far away as the list is long
(`Marks.apply_eq_move`). Two moves in one direction are one move by the sum of both, for a move that
is cut off at an end stays there. Moves in both directions are not: the way back starts from that
end.

> `Marks.steps_eq_move` steps in one direction are one move by the sum of their rows
> **`history_clamped`** what holds after any calls of a new cursor
-/

namespace Launcher

/-- The cursor marks one of its rows, or none if it has none; a page is a whole number of rows. -/
structure Cursor.Marks (pageSize : Int) (cursor : Cursor) : Prop where
  page : cursor.pageSize = .whole pageSize
  index : (cursor.count = 0 ∧ cursor.index = none) ∨
    ∃ row : Nat, row < cursor.count ∧ cursor.index = some (.whole row)

/-- The number of rows that a command moves the cursor down by. To the first and to the last row of
a list it is as far as the list is long. -/
def Navigation.rows (pageSize : Int) (count : Nat) : Navigation → Int
  | .next => 1
  | .previous => -1
  | .pageDown => pageSize
  | .pageUp => -pageSize
  | .home => 1 - count
  | .last => count - 1

namespace Cursor

variable {pageSize : Int} {cursor : Cursor}

/-! ## One move -/

/-- A new list is marked at its first row. -/
theorem marks_reset (h : cursor.pageSize = .whole pageSize) (count : Int) :
    (cursor.reset count).Marks pageSize := by
  refine ⟨h, ?_⟩
  unfold reset
  by_cases hempty : count ≤ 0
  · exact Or.inl ⟨Int.toNat_of_nonpos hempty, if_pos hempty⟩
  · refine Or.inr ⟨0, ?_, if_neg hempty⟩
    show 0 < count.toNat
    omega

theorem move_of_none (hnone : cursor.index = none) (delta : Number) :
    cursor.move delta = .ok cursor := by
  unfold move
  rw [hnone]

/-- A move by whole rows ends on a row. -/
theorem Marks.move (h : cursor.Marks pageSize) (delta : Int) :
    ∃ moved, cursor.move (.whole delta) = .ok moved ∧ moved.Marks pageSize ∧
      moved.count = cursor.count := by
  rcases h.index with ⟨hcount, hnone⟩ | ⟨row, hlt, hrow⟩
  · exact ⟨cursor, move_of_none hnone _, h, rfl⟩
  · refine ⟨_, cursor.move_whole row delta hrow, ⟨h.page, Or.inr ?_⟩, rfl⟩
    -- the row that the move is clamped to
    refine ⟨(min (max (row + delta) 0) (cursor.count - 1)).toNat, ?_, ?_⟩
    · show _ < cursor.count
      omega
    · show some (Number.whole _) = some (Number.whole _)
      congr 2
      omega

/-- A jump to the row at which a move is cut off, wherever it starts, is that move. -/
theorem Marks.jump_eq_move (h : cursor.Marks pageSize) {place delta : Int}
    (hplace : ∀ row : Nat, row < cursor.count →
      min (max (row + delta) 0) (cursor.count - 1) = place) :
    Except.ok { cursor with index := cursor.index.map fun _ => .whole place }
      = cursor.move (.whole delta) := by
  rcases h.index with ⟨-, hnone⟩ | ⟨row, hlt, hrow⟩
  · rw [move_of_none hnone, hnone, Option.map_none, ← hnone]
  · rw [cursor.move_whole row delta hrow, hplace row hlt, hrow]
    rfl

/-- **Every command is a move.** -/
theorem Marks.apply_eq_move (h : cursor.Marks pageSize) (command : Navigation) :
    cursor.apply command = cursor.move (.whole (command.rows pageSize cursor.count)) := by
  cases command with
  | next => rfl
  | previous => rfl
  | pageDown =>
    show cursor.move cursor.pageSize = _
    rw [h.page]
    rfl
  | pageUp =>
    show cursor.move cursor.pageSize.neg = _
    rw [h.page]
    rfl
  | home =>
    refine h.jump_eq_move fun row hlt => ?_
    show min (max ((row : Int) + (1 - cursor.count)) 0) _ = 0
    omega
  | last =>
    refine h.jump_eq_move fun row hlt => ?_
    show min (max ((row : Int) + (cursor.count - 1)) 0) _ = _
    omega

/-- Every command is carried out, and keeps the mark within the list. -/
theorem Marks.apply (h : cursor.Marks pageSize) (command : Navigation) :
    ∃ moved, cursor.apply command = .ok moved ∧ moved.Marks pageSize ∧
      moved.count = cursor.count := by
  rw [h.apply_eq_move]
  exact h.move _

/-! ## Moves in one direction -/

/-- A move by no rows changes nothing. -/
theorem Marks.move_zero (h : cursor.Marks pageSize) : cursor.move (.whole 0) = .ok cursor := by
  rcases h.index with ⟨-, hnone⟩ | ⟨row, hlt, hrow⟩
  · exact move_of_none hnone _
  · have hsame : min (max ((row : Int) + 0) 0) (cursor.count - 1) = row := by omega
    rw [cursor.move_whole row 0 hrow, hsame, ← hrow]

/-- **Two moves in one direction** are one move by the sum of both. -/
theorem Marks.move_move (h : cursor.Marks pageSize) {first second : Int}
    (hway : (0 ≤ first ∧ 0 ≤ second) ∨ (first ≤ 0 ∧ second ≤ 0)) :
    (cursor.move (.whole first) >>= fun moved => moved.move (.whole second))
      = cursor.move (.whole (first + second)) := by
  rcases h.index with ⟨-, hnone⟩ | ⟨row, hlt, hrow⟩
  · rw [move_of_none hnone, move_of_none hnone]
    exact move_of_none hnone _
  · let moved : Cursor := { cursor with
      index := some (.whole (min (max (row + first) 0) (cursor.count - 1))) }
    rw [cursor.move_whole row first hrow, cursor.move_whole row (first + second) hrow]
    show moved.move (.whole second) = _
    rw [moved.move_whole _ second rfl]
    -- the end at which the first move may have been cut off is the one the second goes to
    have hcut : min (max (min (max ((row : Int) + first) 0) (cursor.count - 1) + second) 0)
        (cursor.count - 1) = min (max ((row : Int) + (first + second)) 0) (cursor.count - 1) := by
      omega
    show Except.ok { cursor with index := some (.whole (min (max (_ + second) 0) _)) } = _
    rw [hcut]

/-- A step of the cursor: by a number of rows or by a command. -/
inductive Step where
  | move (rows : Int)
  | press (command : Navigation)
deriving DecidableEq, Repr

namespace Step

/-- The cursor after a step. -/
def on (cursor : Cursor) : Step → Except Fault Cursor
  | .move rows => cursor.move (.whole rows)
  | .press command => cursor.apply command

/-- The number of rows that a step moves the cursor down by. -/
def rows (pageSize : Int) (count : Nat) : Step → Int
  | .move rows => rows
  | .press command => command.rows pageSize count

end Step

/-- Each command is a move by some number of rows. -/
theorem Marks.step_eq_move (h : cursor.Marks pageSize) (step : Step) :
    step.on cursor = cursor.move (.whole (step.rows pageSize cursor.count)) := by
  cases step with
  | move rows => rfl
  | press command => exact h.apply_eq_move command

/-- The steps go in one direction, down or up, in a list of `count` rows. -/
def OneWay (pageSize : Int) (count : Nat) (steps : List Step) : Prop :=
  (∀ step ∈ steps, 0 ≤ step.rows pageSize count) ∨
    (∀ step ∈ steps, step.rows pageSize count ≤ 0)

/-- The first of the steps goes the way that all others together go. -/
theorem OneWay.signs {count : Nat} {step : Step} {steps : List Step}
    (hway : OneWay pageSize count (step :: steps)) :
    OneWay pageSize count steps ∧
      ((0 ≤ step.rows pageSize count ∧ 0 ≤ (steps.map (·.rows pageSize count)).sum) ∨
        (step.rows pageSize count ≤ 0 ∧ (steps.map (·.rows pageSize count)).sum ≤ 0)) := by
  rcases hway with hdown | hup
  · have hrest := fun later hlater => hdown later (List.mem_cons_of_mem step hlater)
    refine ⟨Or.inl hrest, Or.inl ⟨hdown step List.mem_cons_self, List.sum_nonneg ?_⟩⟩
    exact List.forall_mem_map.mpr hrest
  · have hrest := fun later hlater => hup later (List.mem_cons_of_mem step hlater)
    have hsum := List.sum_le_card_nsmul _ 0 (List.forall_mem_map.mpr hrest)
    rw [nsmul_zero] at hsum
    exact ⟨Or.inr hrest, Or.inr ⟨hup step List.mem_cons_self, hsum⟩⟩

/-- **Steps in one direction** are one move by the sum of their rows, and none of them fails. -/
theorem Marks.steps_eq_move (h : cursor.Marks pageSize) {steps : List Step}
    (hway : OneWay pageSize cursor.count steps) :
    steps.foldlM (fun cursor step => step.on cursor) cursor
      = cursor.move (.whole (steps.map (·.rows pageSize cursor.count)).sum) := by
  induction steps generalizing cursor with
  | nil => exact h.move_zero.symm
  | cons step steps ih =>
    obtain ⟨hrest, hsigns⟩ := hway.signs
    obtain ⟨moved, hmoved, hmarks, hcount⟩ := h.move (step.rows pageSize cursor.count)
    rw [List.foldlM_cons, h.step_eq_move, List.map_cons, List.sum_cons, ← h.move_move hsigns,
      hmoved]
    show steps.foldlM _ moved = moved.move _
    rw [← hcount] at hrest ⊢
    exact ih hmarks hrest

/-- Steps in both directions are no single move: up from the first row and down again leads to the
second row. -/
example : [Step.press .previous, .press .next].foldlM (fun cursor step => step.on cursor)
      (⟨.whole 5, 3, some (.whole 0)⟩ : Cursor)
    = .ok ⟨.whole 5, 3, some (.whole 1)⟩ := rfl

/-! ## Any calls -/

/-- What can be asked of a cursor. -/
inductive Call where
  | reset (count : Int)
  | step (step : Step)
  | unsupported (given : Value)

namespace Call

/-- The cursor that a call gives, or why it gives none. -/
def on (cursor : Cursor) : Call → Except Fault Cursor
  | .reset count => .ok (cursor.reset count)
  | .step taken => taken.on cursor
  | .unsupported given => cursor.applyUnsupported given

end Call

/-- The cursor after a call; one that gives none leaves the cursor that was there. -/
def after (cursor : Cursor) (call : Call) : Cursor :=
  match call.on cursor with
  | .ok next => next
  | .error _ => cursor

/-- The cursor after calls one after the other. -/
def history (cursor : Cursor) (calls : List Call) : Cursor := calls.foldl after cursor

/-- What a call comes to: a cursor that marks a row if it has any, or a fault if there are rows and
what is asked for is no command. -/
theorem Marks.on_cases (h : cursor.Marks pageSize) (call : Call) :
    (∃ next, call.on cursor = .ok next ∧ next.Marks pageSize ∧
      ∀ given, call = .unsupported given → cursor.count = 0) ∨
    ∃ given, call = .unsupported given ∧ cursor.count ≠ 0 ∧
      call.on cursor = .error (.unsupportedCommand given) := by
  cases call with
  | reset count => exact Or.inl ⟨_, rfl, marks_reset h.page count, nofun⟩
  | step taken =>
    obtain ⟨moved, hmoved, hmarks, -⟩ := h.move (taken.rows pageSize cursor.count)
    exact Or.inl ⟨moved, (h.step_eq_move taken).trans hmoved, hmarks, nofun⟩
  | unsupported given =>
    have hunfold : (Call.unsupported given).on cursor = cursor.applyUnsupported given := rfl
    unfold applyUnsupported at hunfold
    rcases h.index with ⟨hcount, hnone⟩ | ⟨row, hlt, hrow⟩
    · rw [hnone] at hunfold
      exact Or.inl ⟨cursor, hunfold, h, fun _ _ => hcount⟩
    · rw [hrow] at hunfold
      exact Or.inr ⟨given, rfl, Nat.ne_zero_of_lt hlt, hunfold⟩

/-- A call fails exactly if there are rows and what is asked for is no command. -/
theorem Marks.on_error_iff (h : cursor.Marks pageSize) {call : Call} {fault : Fault} :
    call.on cursor = .error fault ↔ cursor.count ≠ 0 ∧
      ∃ given, call = .unsupported given ∧ fault = .unsupportedCommand given := by
  rcases h.on_cases call with ⟨next, hnext, -, hempty⟩ | ⟨given, rfl, hcount, hfault⟩
  · rw [hnext]
    refine iff_of_false nofun ?_
    rintro ⟨hcount, given, hcall, -⟩
    exact hcount (hempty given hcall)
  · rw [hfault]
    constructor
    · intro hsame
      cases hsame
      exact ⟨hcount, given, rfl, rfl⟩
    · rintro ⟨-, other, hother, rfl⟩
      cases hother
      rfl

/-- A call that fails leaves the cursor. -/
theorem after_of_error {call : Call} {fault : Fault} (hfault : call.on cursor = .error fault) :
    cursor.after call = cursor := by
  unfold after
  rw [hfault]

/-- **One call** keeps the mark within the list. -/
theorem Marks.after (h : cursor.Marks pageSize) (call : Call) :
    (cursor.after call).Marks pageSize := by
  rcases h.on_cases call with ⟨next, hnext, hmarks, -⟩ | ⟨given, -, -, hfault⟩
  · unfold Cursor.after
    rw [hnext]
    exact hmarks
  · rw [after_of_error hfault]
    exact h

/-- After any calls a row of the list is marked, if it has one. -/
theorem history_marks (h : cursor.Marks pageSize) (calls : List Call) :
    (cursor.history calls).Marks pageSize := by
  unfold history
  induction calls generalizing cursor with
  | nil => exact h
  | cons call calls ih => exact ih (h.after call)

/-- No row is marked exactly when the list is empty. -/
theorem Marks.index_eq_none_iff (h : cursor.Marks pageSize) :
    cursor.index = none ↔ cursor.count = 0 := by
  rcases h.index with ⟨hcount, hnone⟩ | ⟨row, hlt, hrow⟩
  · exact iff_of_true hnone hcount
  · rw [hrow]
    exact iff_of_false nofun (Nat.ne_zero_of_lt hlt)

/-- In a list that is not empty a row is marked. -/
theorem Marks.exists_row (h : cursor.Marks pageSize) (hcount : cursor.count ≠ 0) :
    ∃ row : Int, cursor.index = some (.whole row) ∧ 0 ≤ row ∧ row < cursor.count := by
  rcases h.index with ⟨hempty, -⟩ | ⟨row, hlt, hrow⟩
  · exact absurd hempty hcount
  · exact ⟨row, hrow, Int.natCast_nonneg row, Int.ofNat_lt.mpr hlt⟩

/-- A new cursor has no rows, and a page of the size asked for. -/
theorem create_int (hpage : 1 ≤ pageSize) :
    create (.int pageSize) = .ok ⟨.whole pageSize, 0, none⟩ := by
  unfold create
  rw [Value.positive_int_eq, if_neg (by omega)]
  rfl

/-- **The cursor is a row cut off at both ends.** After any calls of a new cursor no row is marked
exactly if there are no rows, and otherwise the row marked is one of them. A call fails exactly if
there are rows and what is asked for is no command, and it leaves the cursor as it was. Steps in one
direction, pages among them, lead where one move by the sum of their rows leads. -/
theorem history_clamped (hpage : 1 ≤ pageSize) (calls : List Call) :
    ∃ start cursor, create (.int pageSize) = .ok start ∧ start.history calls = cursor ∧
      (cursor.index = none ↔ cursor.count = 0) ∧
      (cursor.count ≠ 0 →
        ∃ row : Int, cursor.index = some (.whole row) ∧ 0 ≤ row ∧ row < cursor.count) ∧
      (∀ (call : Call) fault, call.on cursor = .error fault ↔ cursor.count ≠ 0 ∧
        ∃ given, call = .unsupported given ∧ fault = .unsupportedCommand given) ∧
      (∀ (call : Call) fault, call.on cursor = .error fault → cursor.after call = cursor) ∧
      (∀ steps, OneWay pageSize cursor.count steps →
        steps.foldlM (fun cursor step => step.on cursor) cursor
          = cursor.move (.whole (steps.map (·.rows pageSize cursor.count)).sum)) := by
  have hstart : Marks pageSize ⟨.whole pageSize, 0, none⟩ := ⟨rfl, Or.inl ⟨rfl, rfl⟩⟩
  have hmarks := history_marks hstart calls
  exact ⟨_, _, create_int hpage, rfl, hmarks.index_eq_none_iff, hmarks.exists_row,
    fun call fault => hmarks.on_error_iff, fun call fault => after_of_error,
    fun steps => hmarks.steps_eq_move⟩

/-- Pages of five rows: twenty rows, a page down, something that is no command, no rows, a command
that finds none, and twenty rows again. -/
def trialCalls : List Call :=
  [.reset 20, .step (.press .pageDown), .unsupported (.text "sideways"), .reset (-3),
    .step (.press .last), .reset 20, .step (.press .next)]

/-- Twenty rows down, by pages and others. -/
def trialSteps : List Step := [.press .pageDown, .move 9, .press .pageDown, .press .next]

/-- The steps stop at the last row, as one move by twenty rows does. -/
theorem trial_clamped : (1 : Int) ≤ 5 ∧ ∃ start cursor, create (.int 5) = .ok start ∧
    start.history trialCalls = cursor ∧ cursor.index = some (.whole 1) ∧ cursor.count = 20 ∧
    OneWay 5 cursor.count trialSteps ∧
    trialSteps.foldlM (fun cursor step => step.on cursor) cursor = cursor.move (.whole 20) := by
  have hpage : (1 : Int) ≤ 5 := by decide
  obtain ⟨start, cursor, hstart, hcursor, -, -, -, -, hsteps⟩ := history_clamped hpage trialCalls
  cases Except.ok.inj ((create_int hpage).symm.trans hstart)
  subst hcursor
  have hway : OneWay 5 20 trialSteps := Or.inl (by decide)
  exact ⟨hpage, _, _, hstart, rfl, rfl, rfl, hway, hsteps trialSteps hway⟩

end Cursor

end Launcher
