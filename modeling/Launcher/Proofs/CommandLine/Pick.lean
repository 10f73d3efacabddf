import Launcher.Proofs.CommandLine.Search
import Launcher.Proofs.Json.Halves
import Launcher.Proofs.Json.OneLine
import Launcher.Proofs.Terminal.Colours
import Launcher.Proofs.Terminal.Markup

/-!
# Picking an entry on the command line

`pick` opens a session, searches one query, moves the cursor down row by row and writes the action
of the entry under it. Moving down row by row stops at the last row, so it leads as far down as one
move that is cut off there (`moveDown_eq_move`). What it starts from is the first row, whether or
not the query was held in between, and whether or not it is the empty one that a new session has
searched already (`Request.start_settled`).

The action is written as a document on one line, which holds no control character
(`Json.visible_write`), so it appears as it was written. Only halves of surrogate pairs can keep it
from being written: texts of an action may hold them, since a document in the catalog can write them
by number. Then the command ends with that fault and writes nothing.

> `runPick_on` what the command writes, from the stored configuration on
> **`pick_reports`** what the whole command line reports
> `halfAction_not_written` an action that cannot be written
-/

namespace Launcher.CommandLine

open Launcher.Terminal Launcher.Text

variable {shell : Shell} {config : Config} {x : Float} {path? : Option Path} {entries : List Entry}

/-! ## Moving down -/

/-- **Moving down row by row** is one move down. -/
theorem moveDown_eq_move (n : Nat) {pageSize : Int} {cursor : Cursor}
    (h : cursor.Marks pageSize) : moveDown n cursor = cursor.move (.whole n) := by
  induction n generalizing cursor with
  | zero => exact h.move_zero.symm
  | succ n ih =>
    obtain ⟨moved, hmoved, hmarks, -⟩ := h.move 1
    have hnext : cursor.apply .next = .ok moved := hmoved
    have hrows : ((n + 1 : Nat) : Int) = 1 + n := by omega
    rw [hrows, ← h.move_move (Or.inl ⟨by omega, by omega⟩), hmoved]
    show (cursor.apply .next >>= moveDown n) = moved.move (.whole n)
    rw [hnext]
    exact ih hmarks

/-! ## The session -/

/-- **The entry that is picked**: where the first row is marked, moving down and selecting gives the
entry of the match that many rows down, or of the last one. -/
theorem picked_of_settled {limit : Nat} {pageSize : Int} {session : Session}
    (h : session.Settled limit) (hm : session.Marked pageSize) (hfirst : session.AtFirst)
    (n : Nat) :
    (session.shown = [] ∧ moveDown n session.cursor = .ok session.cursor ∧
      session.selected? = .ok none) ∨
    ∃ moved m entry, moveDown n session.cursor = .ok moved ∧
      session.shown[min n (session.shown.length - 1)]? = some m ∧
      session.index.entries[m.position]? = some entry ∧
      { session with cursor := moved }.selected? = .ok (some entry) := by
  by_cases hshown : session.shown = []
  · have hnone : session.cursor.index = none := by
      rw [hfirst, hshown]
      rfl
    have hmoved : moveDown n session.cursor = .ok session.cursor :=
      (moveDown_eq_move n hm.cursor).trans (Cursor.move_of_none hnone _)
    refine Or.inl ⟨hshown, hmoved, ?_⟩
    unfold Session.selected?
    rw [hnone]
  · have hrow : session.cursor.index = some (.whole (0 : Nat)) := by
      rw [hfirst, if_neg (by simpa using hshown)]
      rfl
    have hsome : 0 < session.cursor.count := by
      rw [hm.count]
      exact List.length_pos_iff.mpr hshown
    let moved : Cursor := { session.cursor with
      index := some (.whole (min n (session.cursor.count - 1) : Nat)) }
    have hmoved : moveDown n session.cursor = .ok moved := by
      have hrows : min (max (((0 : Nat) : Int) + n) 0) (session.cursor.count - 1)
          = (min n (session.cursor.count - 1) : Nat) := by omega
      rw [moveDown_eq_move n hm.cursor, session.cursor.move_whole _ _ hrow, hrows]
    -- the cursor is on a row of what is shown still, so there is an entry under it
    have hmarked : { session with cursor := moved }.Marked pageSize := by
      refine ⟨⟨hm.cursor.page, Or.inr ⟨min n (session.cursor.count - 1), ?_, rfl⟩⟩, hm.count⟩
      show min n (session.cursor.count - 1) < session.cursor.count
      omega
    rcases (h.withCursor moved).highlights hmarked with ⟨hempty, -⟩ | ⟨row, entry, hhigh⟩
    · exact absurd hempty hshown
    · obtain ⟨m, results, hmatch, hentry, -⟩ := hhigh.result
      have hsame : min n (session.cursor.count - 1) = row :=
        Int.natCast_inj.mp (Number.whole.inj (Option.some.inj hhigh.index))
      rw [← hsame, hm.count] at hmatch
      exact Or.inr ⟨moved, m, entry, hmoved, hmatch, hentry, hhigh.selected⟩

/-! ## What is written -/

/-- An action has no sequence that switches colours, so it is written as it is. -/
theorem echo_action (entry : Entry) : Task.echo (Json.write .oneLine entry.action)
    = Task.writeLines [Json.write .oneLine entry.action] := by
  have hescape : .char '\x1b' ∉ Json.write .oneLine entry.action := fun hmem =>
    absurd (Json.visible_write entry.action _ hmem) (by decide)
  unfold Task.echo
  rw [withoutColours_of_no_escape hescape]

/-- The action of an entry as a line. -/
def actionLine (entry : Entry) : Text := Json.write .oneLine entry.action ++ "\n"

/-- An action can be written exactly if no text in it holds half of a pair. -/
theorem hasHalf_actionLine (entry : Entry) :
    hasHalf (actionLine entry) = Json.holdsHalf entry.action := by
  unfold actionLine
  rw [hasHalf_append, Json.hasHalf_write Json.Layout.spaced_oneLine, hasHalf_ofString,
    Bool.or_false]

/-- One line is the action and a line feed. -/
theorem joinLines_action (entry : Entry) :
    Task.joinLines [Json.write .oneLine entry.action] = actionLine entry := by
  simp [Task.joinLines, actionLine]

/-- What is written where nothing is selected. -/
def nothingMarkup : Text := styled "yellow" "Nothing selected."

/-- That can be written on every machine. -/
theorem print_nothing_on (shell : Shell) : ∃ s : String,
    Task.IsPrinted shell.machine nothingMarkup s ∧
      (Task.print nothingMarkup).on shell
        = (.ok (), { shell with output := shell.output ++ s }) := by
  obtain ⟨s, hs⟩ : ∃ s : String, Task.IsPrinted shell.machine nothingMarkup s :=
    Task.exists_isPrinted_line switches_yellow (by decide)
  exact ⟨s, hs, (Task.writes_print nothingMarkup shell _ rfl).mpr ⟨s, hs, rfl⟩⟩

/-! ## The command -/

/-- **What `pick` writes**: the action of the entry as many rows down as it is asked for in what one
search of the catalog finds, or of the last one. -/
theorem runPick_on {options : PickOptions} (hstored : Config.stored shell.machine = .ok config)
    (hx : config.debounceMs.asDouble = .ok x)
    (hpath : catalogFile shell.machine config options.catalog = .ok path?)
    (hloads : (commandCatalog shell.machine config options.noBuiltins path?).result = .ok entries)
    (hnodup : (entries.map Entry.id).Nodup) :
    let index := Index.ofDistinct config.weights entries hnodup
    let warned : Shell := { shell with
      warnings := shell.warnings
        ++ (commandCatalog shell.machine config options.noBuiltins path?).warnings }
    ∃ found, index.search (.text options.query) config.limit = .ok found ∧
      (found = [] ∧ (∃ s : String, Task.IsPrinted shell.machine nothingMarkup s ∧
        (runPick options).on shell
          = (.error (.exit 1), { warned with output := shell.output ++ s })) ∨
      ∃ m entry, found[min options.next (found.length - 1)]? = some m ∧
        index.entries[m.position]? = some entry ∧ (runPick options).on shell
          = (Task.writeLines [Json.write .oneLine entry.action]).on warned) := by
  intro index warned
  obtain ⟨limit, pageSize, fresh, after, hstart, hsearched, hafter, hmarked, hfirst, hindex,
    hfound⟩ := Request.start_settled (Config.stored_proper hstored) hx hnodup options.query
  rw [hindex] at hfound
  refine ⟨after.shown, hfound, ?_⟩
  have hload : (Task.onMachine Config.load).on shell = (.ok (.ok config), shell) := by
    rw [Task.onMachine_on, Config.load_on, hstored]
  have hopen := openSession_on hpath hloads hstart
  unfold runPick
  rw [Task.on_bind_ok hload, Task.on_bind_ok (Task.orFault_on rfl shell), Task.on_bind_ok hopen]
  simp only
  rw [Task.on_bind_ok (Task.orFault_on hsearched _)]
  rcases picked_of_settled hafter hmarked hfirst options.next with
    ⟨hempty, hdown, hselected⟩ | ⟨moved, m, entry, hdown, hmatch, hentry, hselected⟩
  · obtain ⟨s, hs, hprint⟩ := print_nothing_on warned
    refine Or.inl ⟨hempty, s, hs, ?_⟩
    rw [Task.on_bind_ok (Task.orFault_on hdown _), Task.on_bind_ok (Task.orFault_on hselected _)]
    simp only
    exact Task.on_bind_ok hprint
  · refine Or.inr ⟨m, entry, hmatch, ?_, ?_⟩
    · rw [hindex] at hentry
      exact hentry
    · rw [Task.on_bind_ok (Task.orFault_on hdown _), Task.on_bind_ok (Task.orFault_on hselected _)]
      simp only
      rw [echo_action]

/-! ## The command line -/

/-- Where a command line is carried out: on the machine as it is for a new process, with nothing
written. -/
def newShell (machine : Machine) : Shell := ⟨machine.restarted, "", []⟩

/-- What a command line reports, and the machine after it, come from its last shell. -/
theorem run_eq (machine : Machine) (words : List Text) : run machine words =
    let (result, last) := Task.on (runInvocation (Invocation.read words)) (newShell machine)
    (⟨match result with | .ok () => .exit 0 | .error ending => ending, last.output,
      last.warnings⟩, last.machine) := rfl

/-- A command line that names `pick` carries it out once its directory has been set. -/
theorem runInvocation_pick {words args : List Text} {directory : Option Text}
    {options : PickOptions} {start : Shell} (hwords : Invocation.read words
      = .command directory "pick" args) (hoptions : PickOptions.read? args = some options)
    (hdirectory : (useDirectory directory).on start = (.ok (), shell)) :
    Task.on (runInvocation (Invocation.read words)) start = (runPick options).on shell := by
  have hcommand : Command.read? "pick" args = some (.pick options) := by
    unfold Command.read?
    rw [if_neg (by decide), if_pos rfl, hoptions]
    rfl
  rw [hwords]
  unfold runInvocation
  rw [Task.on_bind_ok hdirectory, hcommand]
  rfl

/-- A command line that comes down to writing an action reports it, unless a text in it holds half
of a surrogate pair: then it fails and writes nothing. -/
theorem run_of_action {machine inForce : Machine} {words : List Text} {entry : Entry}
    {warnings : List Warning} (h : Task.on (runInvocation (Invocation.read words))
      (newShell machine) = (Task.writeLines [Json.write .oneLine entry.action]).on
        ⟨inForce, "", warnings⟩) :
    (Json.holdsHalf entry.action = false → ∃ s : String, ofString s = actionLine entry ∧
      run machine words = (⟨.exit 0, s, warnings⟩, inForce)) ∧
    (Json.holdsHalf entry.action = true → ∃ stuck,
      run machine words = (⟨.fault (.halves stuck), "", warnings⟩, inForce)) := by
  constructor
  · intro hwhole
    obtain ⟨s, hs⟩ := exists_encode_iff.mpr ((hasHalf_actionLine entry).trans hwhole)
    have hline := (joinLines_action entry).trans (encode_eq_ok_iff.mp hs)
    refine ⟨s, (encode_eq_ok_iff.mp hs).symm, ?_⟩
    rw [run_eq, h, Task.writeLines_on hline]
    simp only [String.empty_append]
  · intro hhalf
    obtain ⟨stuck, hstuck⟩ := exists_encode_error ((hasHalf_actionLine entry).trans hhalf)
    rw [← joinLines_action] at hstuck
    refine ⟨stuck, ?_⟩
    rw [run_eq, h, Task.writeLines_on_error hstuck]

/-- **What a command line with `pick` reports.** For every stored configuration that can be read and
whose delay has a double, every catalog that can be resolved, every query, and any number of rows
down: where a search of the resolved catalog finds something, the action of the entry of one match
is written, that many rows below the first one or else the last, and the command succeeds, unless a
text in the action holds half of a surrogate pair: then it ends with that fault and writes nothing.
Where the search finds nothing, no action is written, and the exit status is 1. In any case the
warnings are those of resolving the catalog, and no file has changed. -/
theorem pick_reports {machine inForce : Machine} {words args : List Text}
    {directory : Option Text} {options : PickOptions}
    (hwords : Invocation.read words = .command directory "pick" args)
    (hoptions : PickOptions.read? args = some options)
    (hdirectory : (useDirectory directory).on (newShell machine) = (.ok (), ⟨inForce, "", []⟩))
    (hstored : Config.stored inForce = .ok config) (hx : config.debounceMs.asDouble = .ok x)
    (hpath : catalogFile inForce config options.catalog = .ok path?)
    (hloads : (commandCatalog inForce config options.noBuiltins path?).result = .ok entries) :
    ∃ index found warnings, Index.build config.weights entries = .ok index ∧
      index.search (.text options.query) config.limit = .ok found ∧
      (commandCatalog inForce config options.noBuiltins path?).warnings = warnings ∧
      (found = [] → ∃ s : String, Task.IsPrinted inForce nothingMarkup s ∧
        run machine words = (⟨.exit 1, s, warnings⟩, inForce)) ∧
      (found ≠ [] → ∃ m entry, found[min options.next (found.length - 1)]? = some m ∧
        index.entries[m.position]? = some entry ∧
        (Json.holdsHalf entry.action = false → ∃ s : String, ofString s = actionLine entry ∧
          run machine words = (⟨.exit 0, s, warnings⟩, inForce)) ∧
        (Json.holdsHalf entry.action = true → ∃ stuck,
          run machine words = (⟨.fault (.halves stuck), "", warnings⟩, inForce))) := by
  have hnodup := Request.nodup_of_withBuiltins hloads
  obtain ⟨found, hfound, hpicked⟩ :=
    @runPick_on ⟨inForce, "", []⟩ config x path? entries options hstored hx hpath hloads hnodup
  have hrun := runInvocation_pick hwords hoptions hdirectory
  refine ⟨_, found, _, Index.build_of_nodup config.weights hnodup, hfound, rfl, ?_, ?_⟩
  · intro hempty
    rcases hpicked with ⟨-, s, hs, hon⟩ | ⟨m, entry, hmatch, -⟩
    · refine ⟨s, hs, ?_⟩
      rw [run_eq, hrun, hon]
      simp only [String.empty_append, List.nil_append]
    · rw [hempty] at hmatch
      cases hmatch
  · intro hsome
    rcases hpicked with ⟨hempty, -⟩ | ⟨m, entry, hmatch, hentry, hon⟩
    · exact absurd hempty hsome
    · obtain ⟨hwhole, hhalf⟩ := run_of_action (hrun.trans hon)
      exact ⟨m, entry, hmatch, hentry, hwhole, hhalf⟩

/-- The command line of `pick` for the third row below the first. -/
def pickWords : List Text := ["pick", "calc", "--next", "3"]

/-- What it asks for. -/
def pickOptions : PickOptions := { query := "calc", next := 3 }

theorem resting_pick_reports : ∃ x index found m entry s warnings,
    Invocation.read pickWords = .command none "pick" ["calc", "--next", "3"] ∧
    PickOptions.read? ["calc", "--next", "3"] = some pickOptions ∧
    (useDirectory none).on (newShell restingMachine) = (.ok (), ⟨restingMachine, "", []⟩) ∧
    Config.stored restingMachine = .ok restingConfig ∧
    restingConfig.debounceMs.asDouble = .ok x ∧
    catalogFile restingMachine restingConfig none = .ok (some Catalog.vastPath) ∧
    (commandCatalog restingMachine restingConfig pickOptions.noBuiltins
      (some Catalog.vastPath)).result = .ok restingEntries ∧
    Index.build restingConfig.weights restingEntries = .ok index ∧
    index.search (.text "calc") restingConfig.limit = .ok found ∧
    found[min 3 (found.length - 1)]? = some m ∧ index.entries[m.position]? = some entry ∧
    ofString s = actionLine entry ∧
    run restingMachine pickWords = (⟨.exit 0, s, warnings⟩, restingMachine) := by
  obtain ⟨x, hx⟩ : ∃ x, restingConfig.debounceMs.asDouble = .ok x := ⟨_, rfl⟩
  have hwords : Invocation.read pickWords = .command none "pick" ["calc", "--next", "3"] := by rfl
  have hoptions : PickOptions.read? ["calc", "--next", "3"] = some pickOptions := by rfl
  have hdirectory : (useDirectory none).on (newShell restingMachine)
      = (.ok (), ⟨restingMachine, "", []⟩) := by
    unfold restingMachine
    rfl
  have hloads : (commandCatalog restingMachine restingConfig pickOptions.noBuiltins
      (some Catalog.vastPath)).result = .ok restingEntries := by
    rw [← resolve_of_leads restingMachine_leads]
    exact restingMachine_resolves
  obtain ⟨index, found, warnings, hindex, hfound, -, -, hreports⟩ := pick_reports hwords hoptions
    hdirectory restingMachine_stored hx restingMachine_catalogFile hloads
  have hcomputed : ((Index.build restingConfig.weights restingEntries).toOption.bind fun index =>
      (index.search (.text "calc") restingConfig.limit).toOption.map fun found =>
        (found.isEmpty, index.entries.all fun entry => !Json.holdsHalf entry.action))
      = some (false, true) := by
    decide +kernel
  have hfound : index.search (.text "calc") restingConfig.limit = .ok found := hfound
  rw [hindex] at hcomputed
  simp only [Except.toOption, Option.bind_some, hfound, Option.map_some, Option.some.injEq,
    Prod.mk.injEq, List.all_eq_true, Bool.not_eq_true'] at hcomputed
  obtain ⟨hsome, hwhole⟩ := hcomputed
  obtain ⟨m, entry, hmatch, hentry, hwritten, -⟩ := hreports (by rintro rfl; cases hsome)
  obtain ⟨s, hs, hrun⟩ := hwritten (hwhole entry (List.mem_of_getElem? hentry))
  exact ⟨x, index, found, m, entry, s, warnings, hwords, hoptions, hdirectory,
    restingMachine_stored, hx, restingMachine_catalogFile, hloads, hindex, hfound, hmatch, hentry,
    hs, hrun⟩

/-- A document of one record, whose action is half of a surrogate pair by its number. -/
def halfText : String :=
  "[\x7b\"id\": \"a\", \"title\": \"A\", \"action\": \"\\ud800\"\x7d]"

/-- That record. -/
def halfRecord : Value :=
  .object [("id", .text "a"), ("title", .text "A"), ("action", .text loneHalf)]

/-- The value is that action. -/
def isLoneHalf : Value → Bool
  | .text t => t == loneHalf
  | _ => false

/-- A document that lists that record alone has been read. -/
def isHalfRecord : Except Json.Stop Value → Bool
  | .ok (.list [.object [(i, .text a), (t, .text b), (n, .text c)]]) =>
    [i, a, t, b, n, c] == ([↑"id", ↑"a", ↑"title", ↑"A", ↑"action", loneHalf] : List Text)
  | _ => false

/-- The document of the catalog is read, the half included. -/
theorem readWhole_halfText : Json.readWhole halfText = .ok (.list [halfRecord]) := by
  have hshape : isHalfRecord (Json.readWhole halfText) = true := by decide +kernel
  generalize Json.readWhole halfText = read at hshape ⊢
  unfold isHalfRecord at hshape
  split at hshape
  · rw [beq_iff_eq] at hshape
    injection hshape with hi hshape
    injection hshape with ha hshape
    injection hshape with ht hshape
    injection hshape with hb hshape
    injection hshape with hn hshape
    injection hshape with hc
    subst hi ha ht hb hn hc
    rfl
  · cases hshape

/-- A machine with that document in its current directory. -/
def halfMachine : Machine := Catalog.machineWith halfText

/-- The catalog of that document. -/
def halfEntries : List Entry :=
  Catalog.included .linux false ++ Catalog.kept [] [halfRecord]

/-- The command line that picks its record. -/
def halfWords : List Text := ["pick", "A", "--catalog", "catalog.json", "--no-builtins"]

/-- What it asks for. -/
def halfOptions : PickOptions :=
  { query := "A", catalog := some Catalog.vastPath, noBuiltins := true }

theorem halfMachine_stored : Config.stored halfMachine = .ok Config.standard :=
  Config.stored_of_not_has (by rfl)

/-- The entry is part of the catalog. -/
theorem halfMachine_resolves :
    (commandCatalog halfMachine Config.standard true (some Catalog.vastPath)).result
      = .ok halfEntries := by
  have hdocument : Json.readDocument halfText = .ok (.list [halfRecord]) := by
    unfold Json.readDocument
    rw [readWhole_halfText]
  have hholds : Catalog.Holds halfMachine (.text "catalog.json") [halfRecord] :=
    Catalog.holds_of_text Catalog.ofValue_vastPath rfl (Catalog.machineWith_has _)
      (Catalog.machineWith_read _) (by decide +kernel) hdocument
  have hleads : Catalog.Leads halfMachine (.text "catalog.json") (some Catalog.vastPath) :=
    .file Catalog.ofValue_vastPath rfl
  have hsame : Catalog.resolve halfMachine (.text "catalog.json") (Catalog.included .linux false)
      = commandCatalog halfMachine Config.standard true (some Catalog.vastPath) :=
    resolve_of_leads hleads Config.standard true
  rw [← hsame]
  exact (Catalog.resolve_keeps_first_accepted .linux false hholds
    (List.forall_mem_singleton.mpr (Catalog.readable_of_no_weight rfl))).1

/-- Its action is the half. -/
theorem action_of_mem_halfEntries : ∀ entry ∈ halfEntries, entry.action = .text loneHalf := by
  have hall : halfEntries.all (isLoneHalf ·.action) = true := by decide +kernel
  intro entry hmem
  have hone := List.all_eq_true.mp hall entry hmem
  unfold isLoneHalf at hone
  split at hone
  · next t haction => rw [haction, beq_iff_eq.mp hone]
  · cases hone

/-- The query finds it. -/
theorem length_found_half {index : Index} {found : List (Match Float)}
    (hindex : Index.build Config.standard.weights halfEntries = .ok index)
    (hfound : index.search (.text "A") Config.standard.limit = .ok found) : found.length = 1 := by
  have hcount : ((Index.build Config.standard.weights halfEntries).toOption.bind fun index =>
      (index.search (.text "A") Config.standard.limit).toOption.map List.length) = some 1 := by
    decide +kernel
  rw [hindex] at hcount
  simpa only [Except.toOption, Option.bind_some, hfound, Option.map_some, Option.some.injEq]
    using hcount

/-- The action of an entry that is found is not written if it is half of a surrogate pair. -/
theorem halfAction_not_written : ∃ index found m entry stuck warnings,
    Config.stored halfMachine = .ok Config.standard ∧
    (commandCatalog halfMachine Config.standard true (some Catalog.vastPath)).result
      = .ok halfEntries ∧
    Index.build Config.standard.weights halfEntries = .ok index ∧
    index.search (.text "A") Config.standard.limit = .ok found ∧
    found[0]? = some m ∧ index.entries[m.position]? = some entry ∧
    entry.action = .text loneHalf ∧
    run halfMachine halfWords = (⟨.fault (.halves stuck), "", warnings⟩, halfMachine) := by
  have hwords : Invocation.read halfWords
      = .command none "pick" ["A", "--catalog", "catalog.json", "--no-builtins"] := by rfl
  have hoptions : PickOptions.read? ["A", "--catalog", "catalog.json", "--no-builtins"]
      = some halfOptions := by rfl
  have hdirectory : (useDirectory none).on (newShell halfMachine)
      = (.ok (), ⟨halfMachine, "", []⟩) := by
    unfold halfMachine
    rfl
  obtain ⟨x, hx⟩ : ∃ x, Config.standard.debounceMs.asDouble = .ok x := ⟨_, rfl⟩
  have hnodup := Request.nodup_of_withBuiltins halfMachine_resolves
  have hpath : catalogFile halfMachine Config.standard halfOptions.catalog
      = .ok (some Catalog.vastPath) := rfl
  obtain ⟨found, hfound, hpicked⟩ := @runPick_on ⟨halfMachine, "", []⟩ Config.standard x
    (some Catalog.vastPath) halfEntries halfOptions halfMachine_stored hx hpath
    halfMachine_resolves hnodup
  have hindex := Index.build_of_nodup Config.standard.weights hnodup
  have hcount : found.length = 1 := length_found_half hindex hfound
  rcases hpicked with ⟨hempty, -⟩ | ⟨m, entry, hmatch, hentry, hon⟩
  · rw [hempty] at hcount
    cases hcount
  · have hfirst : min halfOptions.next (found.length - 1) = 0 := by
      rw [hcount]
      rfl
    rw [hfirst] at hmatch
    have haction := action_of_mem_halfEntries entry (List.mem_of_getElem? hentry)
    have hpick := runInvocation_pick hwords hoptions hdirectory
    obtain ⟨stuck, hrun⟩ :=
      (run_of_action (hpick.trans hon)).2 (congrArg Json.holdsHalf haction)
    exact ⟨_, found, m, entry, stuck, _, halfMachine_stored, halfMachine_resolves, hindex, hfound,
      hmatch, hentry, haction, hrun⟩

end Launcher.CommandLine
