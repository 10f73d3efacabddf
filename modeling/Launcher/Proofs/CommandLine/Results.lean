import Launcher.Proofs.CommandLine.Porcelain
import Launcher.Proofs.Terminal.Halves
import Launcher.Proofs.Terminal.Markup

/-!
# What a search writes

For other programs a search writes rows. For a reader it writes where the catalog comes from, and
below that a table with one row for each result, in order: `IsWritten` says which texts these are,
cell by cell, and `writes_results` that a search writes one of them, or fails.

Titles, subtitles and the query are protected, so they never keep results from being shown: the
results themselves can be written whenever no text in them holds half of a surrogate pair
(`exists_isBody`). The path of the catalog is not protected, and a path that closes a tag that is
not open keeps everything from being written.

> `isRow_iff`, `exists_isRow` the cells of a result
> `exists_isBody`, `exists_isWritten_iff` the results that can be written
> **`writes_results`** what a search writes
-/

namespace Launcher.CommandLine

open Launcher.Decimal Launcher.Terminal Launcher.Text

variable {machine : Machine} {results : List Result} {result : Result} {row : Nat}
  {cells : List Cell}

/-! ## Rows -/

/-- The cells of a result in a row, counted from zero: a mark in the first row, the number of the
result, its score with three places, and what appears of its title and of its subtitle, which is cut
to a limit. A text in which no code stands for another one appears as it is. -/
def IsRow (row : Nat) (result : Result) (cells : List Cell) : Prop :=
  ∃ title subtitle : Text,
    cells = [⟨if row = 0 then "▶" else [], row == 0⟩, ⟨toString (row + 1), false⟩,
      ⟨fixed 3 result.score, false⟩, ⟨title, row == 0⟩, ⟨subtitle, false⟩] ∧
    shown (if row = 0 then styled "bold green" (escape result.title) else escape result.title)
      = .ok title ∧
    shown (escape (truncate true 60 result.subtitle)) = .ok subtitle ∧
    (Plain result.title → title = result.title) ∧
    (Plain (truncate true 60 result.subtitle) → subtitle = truncate true 60 result.subtitle)

/-- No character of a number is a control. -/
theorem lt_toNat_of_isNumeral {c : Char} (h : isNumeral c = true) : 32 < c.toNat := by
  rw [isNumeral, Bool.or_eq_true] at h
  rcases h with hdigit | hother
  · exact AllDigits.lt_toNat (List.forall_mem_singleton.mpr hdigit) c List.mem_cons_self
  · have hmem : c ∈ ['-', '.', 'i', 'n', 'f', 'a'] := by simpa using hother
    have hall : ['-', '.', 'i', 'n', 'f', 'a'].all (32 < ·.toNat) = true := by decide
    exact of_decide_eq_true (List.all_eq_true.mp hall c hmem)

/-- A text of a number appears as it is. -/
theorem IsNumeralText.shown_eq {s : String} (h : IsNumeralText s) : shown s = .ok ↑s := by
  refine shown_of_plain (fun c hc => ?_) (h.not_mem (by decide))
  refine ⟨?_, ?_, ?_⟩
  · rintro rfl
    exact h.not_mem (by decide) hc
  · rintro rfl
    exact h.not_mem (by decide) hc
  · obtain ⟨d, hd, rfl⟩ := List.mem_map.mp hc
    have hlt := lt_toNat_of_isNumeral (h d hd)
    rw [Bool.eq_false_iff]
    intro hcontrol
    unfold isTerminalControl at hcontrol
    rw [show (Code.char d).toNat = d.toNat from rfl] at hcontrol
    simp only [Bool.or_eq_true, beq_iff_eq, Bool.and_eq_true, decide_eq_true_eq] at hcontrol
    omega

/-- The mark of a row. -/
theorem shown_selectionMark (marked : Bool) :
    shown (selectionMark true marked) = .ok (if marked then "▶" else []) := by
  cases marked
  · rfl
  · refine shown_styled_of_plain switches_boldGreen ?_ (by decide)
    exact List.forall_mem_singleton.mpr (by decide)

/-- What appears of a title: always something, without halves if the title has none. -/
theorem exists_shownTitle (row : Nat) (title : Text) : ∃ codes,
    shown (if row = 0 then styled "bold green" (escape title) else escape title) = .ok codes ∧
      (hasHalf title = false → hasHalf codes = false) ∧ (Plain title → codes = title) := by
  have hfront : ∀ c ∈ ([] : Text), c ≠ .char '\\' ∧ c ≠ .char '[' := List.forall_mem_nil _
  have hstyled := shown_styled_escape switches_boldGreen hfront title
  split
  · exact hstyled
  · exact shown_escape title

/-- **The cells of a result** are those of its row. -/
theorem isRow_iff :
    resultCells (row + 1) (row == 0) result = .ok cells ↔ IsRow row result cells := by
  obtain ⟨title, htitle, -, hplain⟩ := exists_shownTitle row result.title
  obtain ⟨subtitle, hsubtitle, -, hplainSubtitle⟩ :=
    shown_escape (truncate true 60 result.subtitle)
  have hcells : resultCells (row + 1) (row == 0) result
      = .ok [⟨if row = 0 then "▶" else [], row == 0⟩, ⟨toString (row + 1), false⟩,
          ⟨fixed 3 result.score, false⟩, ⟨title, row == 0⟩, ⟨subtitle, false⟩] := by
    have hmark := shown_selectionMark (row == 0)
    simp only [beq_iff_eq] at hmark
    unfold resultCells
    simp only [beq_iff_eq, List.mapM_cons, List.mapM_nil, hmark, htitle, hsubtitle,
      (isNumeralText_toString _).shown_eq, (isNumeralText_fixed _ _).shown_eq]
    rfl
  rw [hcells, Except.ok.injEq]
  constructor
  · rintro rfl
    exact ⟨title, subtitle, rfl, htitle, hsubtitle, hplain, hplainSubtitle⟩
  · rintro ⟨title', subtitle', rfl, htitle', hsubtitle', -, -⟩
    rw [Except.ok.inj (htitle.symm.trans htitle'), Except.ok.inj (hsubtitle.symm.trans hsubtitle')]

/-- **Every result has a row**, without halves if the texts of the result have none. -/
theorem exists_isRow (row : Nat) (result : Result) : ∃ cells, IsRow row result cells ∧
    (hasHalf result.title = false → (∀ s ∈ result.subtitle, hasHalf s = false) →
      ∀ cell ∈ cells, hasHalf cell.codes = false) := by
  obtain ⟨title, htitle, hhalf, hplain⟩ := exists_shownTitle row result.title
  obtain ⟨subtitle, hsubtitle, hhalfSubtitle, hplainSubtitle⟩ :=
    shown_escape (truncate true 60 result.subtitle)
  refine ⟨_, ⟨title, subtitle, rfl, htitle, hsubtitle, hplain, hplainSubtitle⟩, fun ht hs => ?_⟩
  simp only [List.forall_mem_cons, List.not_mem_nil, false_imp_iff, implies_true, and_true,
    hasHalf_ofString, hhalf ht, hhalfSubtitle (hasHalf_truncate hs)]
  split <;> rfl

/-- The results with their rows, counted from zero. -/
def AreRows (results : List Result) (rows : List (List Cell)) : Prop :=
  List.Forall₂ (fun numbered cells => IsRow numbered.2 numbered.1 cells) results.zipIdx rows

/-- The cursor on the first row marks that row and no other. -/
theorem isMarked_first (row : Nat) : isMarked (some (.whole 0)) row = (row == 0) := by
  cases row with
  | zero => rfl
  | succ row =>
    have hless : compare (0 : Int) ((row + 1 : Nat) : Int) = .lt := by
      rw [compare_lt_iff_lt]
      omega
    show (some (compare (0 : Int) ((row + 1 : Nat) : Int)) == some .eq) = false
    rw [hless]
    rfl

/-- The table of results has the row of each of them. -/
theorem resultTable_eq_ok_iff {found : List (Match Float)} (hsome : found ≠ []) {table : Table} :
    resultTable results (Request.firstRow? found) = .ok table ↔
      ∃ rows, AreRows results rows ∧ table = ⟨resultColumns, rows⟩ := by
  have hfirst : Request.firstRow? found = some (.whole 0) := by
    unfold Request.firstRow?
    rw [if_neg (by simpa using hsome)]
  have hrows : ∀ rows, (results.zipIdx 1).mapM (fun numbered =>
      resultCells numbered.2 (isMarked (some (.whole 0)) (numbered.2 - 1)) numbered.1) = .ok rows ↔
        AreRows results rows := by
    intro rows
    have hnumbers : results.zipIdx 1
        = results.zipIdx.map fun numbered => (numbered.1, numbered.2 + 1) :=
      List.zipIdx_succ
    rw [mapM_eq_ok_iff, hnumbers, List.forall₂_map_left_iff]
    unfold AreRows
    refine Iff.of_eq (congrArg (List.Forall₂ · _ _) ?_)
    funext numbered cells
    simp only [Nat.add_sub_cancel, isMarked_first]
    exact propext isRow_iff
  unfold resultTable
  rw [hfirst]
  constructor
  · intro h
    obtain ⟨rows, hmap, htable⟩ := exists_of_bind_eq_ok h
    exact ⟨rows, (hrows rows).mp hmap, (Except.ok.inj htable).symm⟩
  · rintro ⟨rows, hare, rfl⟩
    have hmap := (hrows rows).mpr hare
    exact congrArg (· >>= fun rows => Except.ok (Table.mk resultColumns rows)) hmap

/-- There are rows of all results, without halves if the results have none. -/
theorem exists_areRows (results : List Result) : ∃ rows, AreRows results rows ∧
    (AreWritable results → ∀ cells ∈ rows, ∀ cell ∈ cells, hasHalf cell.codes = false) := by
  have hall : ∀ numbered : List (Result × Nat), ∃ rows,
      List.Forall₂ (fun numbered cells => IsRow numbered.2 numbered.1 cells) numbered rows ∧
      ((∀ n ∈ numbered, hasHalf n.1.title = false ∧ ∀ s ∈ n.1.subtitle, hasHalf s = false) →
        ∀ cells ∈ rows, ∀ cell ∈ cells, hasHalf cell.codes = false) := by
    intro numbered
    induction numbered with
    | nil => exact ⟨[], .nil, fun _ => nofun⟩
    | cons first rest ih =>
      obtain ⟨rows, hrows, hwhole⟩ := ih
      obtain ⟨cells, hcells, hhalf⟩ := exists_isRow first.2 first.1
      refine ⟨cells :: rows, .cons hcells hrows, fun h => ?_⟩
      obtain ⟨hfirst, hrest⟩ := List.forall_mem_cons.mp h
      exact List.forall_mem_cons.mpr ⟨hhalf hfirst.1 hfirst.2, hwhole hrest⟩
  obtain ⟨rows, hrows, hwhole⟩ := hall results.zipIdx
  exact ⟨rows, hrows, fun h => hwhole ((forall_mem_zipIdx_iff 0).mpr h)⟩

/-! ## Texts -/

/-- The first line for a reader, where the catalog comes from a file: how many entries it has, and
which file that is. -/
def IsHead (machine : Machine) (path? : Option Path) (size : Nat) (t : Text) : Prop :=
  match path? with
  | none => t = []
  | some path => ∃ line, loadedLine machine size path = .ok line ∧
      Task.IsPrinted machine (styled "dim" line) t

/-- The query as markup; the empty one is named by what it does. -/
def queryMarkup (query : Text) : Text :=
  if query.isEmpty then "(default ordering)" else escape query

/-- The results for a reader: a title, the query, and the table with the row of each result. -/
def IsTable (machine : Machine) (query : Text) (results : List Result) (t : Text) : Prop :=
  ∃ title heading rows,
    Task.IsPrinted machine (styled "bold cyan" "Lodestar search results") title ∧
    Task.IsPrinted machine (styled "dim" ("Query: " ++ queryMarkup query)) heading ∧
    AreRows results rows ∧
    t = title ++ heading
      ++ Task.joinLines (Table.lines ⟨resultColumns, rows⟩ machine.terminalWidth)

/-- What a reader is told below the first line: the results, or that there are none. -/
def IsBody (machine : Machine) (query : Text) (size : Nat) (results : List Result) (t : Text) :
    Prop :=
  if size = 0 then Task.IsPrinted machine (styled "yellow" "Catalog contains no entries.") t
  else if results = [] then
    Task.IsPrinted machine (styled "yellow" "No matching entries found.") t
  else IsTable machine query results t

/-- What a search writes of its results in the catalog of a file with some number of entries. -/
def IsWritten (machine : Machine) (options : SearchOptions) (path? : Option Path) (size : Nat)
    (results : List Result) (t : Text) : Prop :=
  match options.format with
  | .porcelain => t = porcelainText results
  | .rich => ∃ head body, IsHead machine path? size head ∧
      IsBody machine options.query size results body ∧ t = head ++ body

theorem writes_showResults {query : Text} {found : List (Match Float)} (hsome : found ≠ []) :
    Task.Writes machine (showResults query results (Request.firstRow? found))
      (IsTable machine query results) := by
  have htable : Task.Writes machine
      (Task.orFault (resultTable results (Request.firstRow? found)) >>= Task.printTable)
      (fun t => ∃ rows, AreRows results rows ∧
        t = Task.joinLines (Table.lines ⟨resultColumns, rows⟩ machine.terminalWidth)) := by
    refine (Task.Writes.orFault_bind fun table _ => Task.writes_printTable table).congr fun t => ?_
    simp only [resultTable_eq_ok_iff hsome]
    constructor
    · rintro ⟨_, ⟨rows, hrows, rfl⟩, ht⟩
      exact ⟨rows, hrows, ht⟩
    · rintro ⟨rows, hrows, ht⟩
      exact ⟨_, ⟨rows, hrows, rfl⟩, ht⟩
  refine ((Task.writes_print _).bind ((Task.writes_print _).bind htable)).congr fun t => ?_
  unfold IsTable
  constructor
  · rintro ⟨title, _, htitle, ⟨heading, table, hheading, ⟨rows, hrows, rfl⟩, rfl⟩, rfl⟩
    exact ⟨title, heading, rows, htitle, hheading, hrows, (List.append_assoc _ _ _).symm⟩
  · rintro ⟨title, heading, rows, htitle, hheading, hrows, rfl⟩
    exact ⟨title, _, htitle, ⟨heading, _, hheading, ⟨rows, hrows, rfl⟩, rfl⟩,
      List.append_assoc _ _ _⟩

/-- What is written below the line about the catalog. -/
theorem writes_body (query : Text) (size : Nat) {found : List (Match Float)}
    (hlength : results.length = found.length) :
    Task.Writes machine
      (if size = 0 then Task.print (styled "yellow" "Catalog contains no entries.")
        else if results.isEmpty then Task.print (styled "yellow" "No matching entries found.")
        else showResults query results (Request.firstRow? found))
      (IsBody machine query size results) := by
  unfold IsBody
  split_ifs with hsize hempty hnil hnil
  · exact Task.writes_print _
  · exact Task.writes_print _
  · exact absurd (List.isEmpty_iff.mp hempty) hnil
  · exact absurd (List.isEmpty_iff.mpr hnil) hempty
  · refine writes_showResults fun hfound => hnil (List.eq_nil_of_length_eq_zero ?_)
    rw [hlength, hfound]
    rfl

/-- **What a search writes**: the results, and nothing else, or it fails. -/
theorem writes_results (options : SearchOptions) (path? : Option Path) (size : Nat)
    {found : List (Match Float)} (hlength : results.length = found.length) :
    Task.Writes machine (writeResults options path? size results (Request.firstRow? found))
      (IsWritten machine options path? size results) := by
  have hbody : Task.Writes machine _ (IsBody machine options.query size results) :=
    writes_body options.query size hlength
  unfold writeResults IsWritten IsHead
  cases options.format with
  | porcelain => exact writes_echo_rows (porcelainRows results)
  | rich =>
    cases path? with
    | none =>
      refine hbody.congr fun t => ?_
      simp
    | some path =>
      have hhead : Task.Writes machine
          (get >>= fun shell => Task.orFault (loadedLine shell.machine size path) >>= fun line =>
            Task.print (styled "dim" line))
          (fun t => ∃ line, loadedLine machine size path = .ok line ∧
            Task.IsPrinted machine (styled "dim" line) t) := by
        refine Task.Writes.get_bind fun shell hmachine => ?_
        rw [hmachine]
        exact Task.Writes.orFault_bind fun line _ => Task.writes_print _
      have hboth := hhead.bind hbody
      simp only [bind_assoc] at hboth
      exact hboth

/-- A first line that is no markup ends the command before anything is written. -/
theorem writeResults_on_error {shell : Shell} {options : SearchOptions} {path : Path} {size : Nat}
    {selection : Option Number} {line : Text} {fault : Fault} (hformat : options.format = .rich)
    (hline : loadedLine shell.machine size path = .ok line)
    (hshown : shown (styled "dim" line) = .error fault) :
    (writeResults options (some path) size results selection).on shell
      = (.error (.fault fault), shell) := by
  have hget : (get : Task Shell).on shell = (.ok shell, shell) := rfl
  have hprint : (Task.print (styled "dim" line)).on shell = (.error (.fault fault), shell) :=
    Task.on_bind_error (Task.orFault_on_error hshown shell)
  unfold writeResults
  rw [hformat]
  simp only
  rw [Task.on_bind_ok hget, Task.on_bind_ok (Task.orFault_on hline shell)]
  exact Task.on_bind_error hprint

/-! ## Results that can be written -/

/-- A query is shown whatever it holds, unless that is half of a pair. -/
theorem exists_isPrinted_query {query : Text} (h : hasHalf query = false) :
    ∃ s : String, Task.IsPrinted machine (styled "dim" ("Query: " ++ queryMarkup query)) s := by
  have hfront : ∀ c ∈ ofString "Query: ", c ≠ .char '\\' ∧ c ≠ .char '[' := by
    decide
  unfold queryMarkup
  split
  · obtain ⟨codes, hcodes, hhalf, -⟩ := shown_styled_escape switches_dim hfront "(default ordering)"
    have hescape : escape "(default ordering)" = "(default ordering)" := by decide
    rw [hescape] at hcodes
    exact Task.exists_isPrinted hcodes (hhalf (by simp))
  · obtain ⟨codes, hcodes, hhalf, -⟩ := shown_styled_escape switches_dim hfront query
    exact Task.exists_isPrinted hcodes (hhalf (by simp [h]))

/-- **Results can always be shown** to a reader if no text in them holds half of a pair. -/
theorem exists_isBody {query : Text} (hquery : hasHalf query = false) (size : Nat)
    (hresults : AreWritable results) : ∃ s : String, IsBody machine query size results s := by
  unfold IsBody
  split_ifs
  · exact Task.exists_isPrinted_line switches_yellow (by decide)
  · exact Task.exists_isPrinted_line switches_yellow (by decide)
  · have htitle : ∃ s : String, Task.IsPrinted machine
        (styled "bold cyan" "Lodestar search results") s :=
      Task.exists_isPrinted_line switches_boldCyan (by decide)
    have hheading : ∃ s : String, Task.IsPrinted machine
        (styled "dim" ("Query: " ++ queryMarkup query)) s := exists_isPrinted_query hquery
    obtain ⟨title, htitle⟩ := htitle
    obtain ⟨heading, hheading⟩ := hheading
    obtain ⟨rows, hrows, hwhole⟩ := exists_areRows results
    have hhead : ∀ column ∈ resultColumns, hasHalf column.head = false := by decide
    have hlines : AreWhole (Table.lines ⟨resultColumns, rows⟩ machine.terminalWidth) :=
      Table.areWhole_lines hhead (hwhole hresults)
    obtain ⟨table, htable⟩ := exists_encode_iff.mpr (Task.hasHalf_joinLines.mpr hlines)
    refine ⟨title ++ heading ++ table, title, heading, rows, htitle, hheading, hrows, ?_⟩
    rw [ofString_append, ofString_append, ← encode_eq_ok_iff.mp htable]

/-- What a search writes can be written exactly if its first line for a reader can. -/
theorem exists_isWritten_iff {options : SearchOptions} (hquery : hasHalf options.query = false)
    (path? : Option Path) (size : Nat) (hresults : AreWritable results) :
    (∃ s : String, IsWritten machine options path? size results s) ↔
      (options.format = .rich → ∃ s : String, IsHead machine path? size s) := by
  unfold IsWritten
  cases options.format with
  | porcelain =>
    refine iff_of_true ?_ nofun
    obtain ⟨s, hs⟩ := exists_encode_iff.mpr ((hasHalf_porcelainText results).mpr hresults)
    exact ⟨s, (encode_eq_ok_iff.mp hs).symm⟩
  | rich =>
    constructor
    · rintro ⟨s, head, body, hhead, -, hs⟩ -
      obtain ⟨first, _, rfl, -⟩ := Task.ofString_eq_append hs
      exact ⟨first, hhead⟩
    · intro h
      obtain ⟨first, hfirst⟩ := h rfl
      have hbody : ∃ s : String, IsBody machine options.query size results s :=
        exists_isBody hquery size hresults
      obtain ⟨body, hbody⟩ := hbody
      exact ⟨first ++ body, _, _, hfirst, hbody, ofString_append _ _⟩

end Launcher.CommandLine
