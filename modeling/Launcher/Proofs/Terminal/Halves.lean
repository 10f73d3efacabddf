import Launcher.Proofs.Text.Split
import Launcher.Terminal.Output
import Launcher.Terminal.Table

/-!
# Halves on the terminal

Lines are broken, cut and padded, and tables drawn, by putting together what the texts hold with
spaces, ellipses and box characters. No half of a surrogate pair is added on the way, so texts that
can be written are still so line by line.

The one step that builds texts code by code is the cutting into signs: `Cutting.IsWhole` is what it
keeps.

> `areWhole_shownLines` the lines of a text
> **`Table.areWhole_lines`** the lines of a table
-/

namespace Launcher.Terminal

open Launcher.Text

/-- No text holds half of a pair. -/
def AreWhole (texts : List Text) : Prop := ∀ t ∈ texts, hasHalf t = false

variable {s t cs : Text} {size : Nat} {signs : List Cluster}

theorem areWhole_append {texts more : List Text} (h : AreWhole texts) (hmore : AreWhole more) :
    AreWhole (texts ++ more) :=
  List.forall_mem_append.mpr ⟨h, hmore⟩

/-- What holds only what a text holds has no halves if that text has none. -/
theorem hasHalf_of_subset (h : hasHalf t = false) (hsub : s ⊆ t) : hasHalf s = false :=
  hasHalf_eq_false_iff.mpr fun c hc => hasHalf_eq_false_iff.mp h c (hsub hc)

theorem hasHalf_spaces (n : Nat) : hasHalf (spaces n) = false :=
  hasHalf_eq_false_iff.mpr fun c hc => by rw [List.eq_of_mem_replicate hc]; rfl

/-- Taking off blanks adds no half of a pair. -/
theorem hasHalf_trimEnd (h : hasHalf t = false) : hasHalf (trimEnd t) = false := by
  refine hasHalf_of_subset h fun c hc => ?_
  have hmem := List.dropWhile_sublist _ |>.subset (List.mem_reverse.mp hc)
  exact List.mem_reverse.mp hmem

/-- The lines of a text hold no half when the text holds none. -/
theorem areWhole_splitAt (h : hasHalf t = false) : AreWhole (splitAt (.char '\n') t) := by
  induction t with
  | nil => exact List.forall_mem_singleton.mpr rfl
  | cons c rest ih =>
    rw [hasHalf_cons, Bool.or_eq_false_iff] at h
    rw [splitAt]
    split
    · exact List.forall_mem_cons.mpr ⟨rfl, ih h.2⟩
    · cases hsplit : splitAt (.char '\n') rest with
      | nil => exact List.forall_mem_singleton.mpr (by simp [h.1])
      | cons piece pieces =>
        have hpieces := ih h.2
        rw [hsplit] at hpieces
        obtain ⟨hpiece, hmore⟩ := List.forall_mem_cons.mp hpieces
        exact List.forall_mem_cons.mpr ⟨by rw [hasHalf_cons, h.1, hpiece]; rfl, hmore⟩

/-- Joining whole pieces makes no half. -/
theorem hasHalf_joinWith {sep : Code} {pieces : List Text} (hsep : sep.isHalf = false)
    (h : AreWhole pieces) : hasHalf (joinWith sep pieces) = false := by
  refine hasHalf_eq_false_iff.mpr fun c hc => ?_
  rcases mem_joinWith hc with rfl | ⟨piece, hpiece, hmem⟩
  · exact hsep
  · exact hasHalf_eq_false_iff.mp (h piece hpiece) c hmem

/-- Cutting a text adds no half of a pair, the ellipsis included. -/
theorem hasHalf_cutTo {all : Bool} {limit : Int} (h : hasHalf t = false) :
    hasHalf (cutTo all limit t) = false := by
  have htrim : hasHalf (trim t) = false :=
    hasHalf_trimEnd (hasHalf_of_subset h (List.dropWhile_sublist _).subset)
  have hupTo : ∀ place, hasHalf (upTo place (trim t)) = false := fun place => by
    unfold upTo
    split
    · exact hasHalf_of_subset htrim (List.take_subset _ _)
    · exact hasHalf_of_subset htrim (List.take_subset _ _)
  unfold cutTo
  simp only
  split
  · exact htrim
  · cases all
    · rw [hasHalf_append, hasHalf_trimEnd (hupTo _)]; rfl
    · rw [hasHalf_append, hasHalf_trimEnd (hupTo _)]; rfl

/-- A text without halves has none when it is cut to a limit. -/
theorem hasHalf_truncate {all : Bool} {limit : Int} {text? : Option Text}
    (h : ∀ t ∈ text?, hasHalf t = false) : hasHalf (truncate all limit text?) = false := by
  unfold truncate
  split
  · rfl
  · split
    · rfl
    · exact hasHalf_cutTo (h _ rfl)

/-! ## Signs -/

/-- The signs cut off so far hold no half. -/
def Cutting.IsWhole (cutting : Cutting) : Prop :=
  ∀ sign ∈ cutting.grown :: cutting.before, hasHalf sign.codes = false

/-- A character more is added to the last sign, or begins one. -/
theorem Cutting.IsWhole.step {cutting : Cutting} (h : cutting.IsWhole) {c : Code}
    (hc : c.isHalf = false) : (cutting.step c).IsWhole := by
  obtain ⟨hgrown, hbefore⟩ := List.forall_mem_cons.mp h
  have hmore : hasHalf (cutting.grown.codes ++ [c]) = false := by simp [hgrown, hc]
  unfold Cutting.step
  split_ifs
  · exact List.forall_mem_cons.mpr ⟨hmore, hbefore⟩
  · exact List.forall_mem_cons.mpr ⟨hmore, hbefore⟩
  · exact List.forall_mem_cons.mpr ⟨hmore, hbefore⟩
  · exact List.forall_mem_cons.mpr ⟨hmore, hbefore⟩
  · exact List.forall_mem_cons.mpr ⟨by simp [hc], h⟩

/-- Cutting into signs keeps codes whole, code by code. -/
theorem Cutting.IsWhole.foldl {cutting : Cutting} (h : cutting.IsWhole)
    (ht : hasHalf t = false) : (t.foldl Cutting.step cutting).IsWhole := by
  induction t generalizing cutting with
  | nil => exact h
  | cons c rest ih =>
    rw [hasHalf_cons, Bool.or_eq_false_iff] at ht
    exact ih (h.step ht.1) ht.2

/-- The signs of a text without halves have none. -/
theorem hasHalf_of_mem_clusters (h : hasHalf t = false) :
    ∀ sign ∈ clusters t, hasHalf sign.codes = false := by
  cases t with
  | nil => exact nofun
  | cons c rest =>
    rw [hasHalf_cons, Bool.or_eq_false_iff] at h
    have hstart : (Cutting.start c).IsWhole := by
      unfold Cutting.start
      split <;> exact List.forall_mem_singleton.mpr (by simp [h.1])
    exact fun sign hsign => (hstart.foldl h.2) sign (List.mem_reverse.mp hsign)

theorem hasHalf_takeColumns (h : ∀ sign ∈ signs, hasHalf sign.codes = false) :
    hasHalf (takeColumns size signs) = false := by
  induction signs generalizing size with
  | nil => cases size <;> rfl
  | cons sign rest ih =>
    obtain ⟨hsign, hrest⟩ := List.forall_mem_cons.mp h
    cases size with
    | zero => rfl
    | succ size =>
      rw [takeColumns]
      split
      · rw [hasHalf_append, hsign, ih hrest]; rfl
      · rfl

/-- Fitting a text into columns adds no half. -/
theorem hasHalf_fit (h : hasHalf t = false) : hasHalf (fit size t) = false := by
  unfold fit
  split_ifs
  · rfl
  · rw [hasHalf_append, h, hasHalf_spaces]; rfl
  · exact hasHalf_takeColumns (hasHalf_of_mem_clusters h)

/-! ## Lines -/

/-- Cutting a text at places adds no half of a pair. -/
theorem areWhole_cutAt {start : Nat} {places : List Nat} (h : hasHalf cs = false) :
    AreWhole (cutAt start cs places) := by
  induction places generalizing start cs with
  | nil => exact List.forall_mem_singleton.mpr h
  | cons place places ih =>
    exact List.forall_mem_cons.mpr ⟨hasHalf_of_subset h (List.take_subset _ _),
      ih (hasHalf_of_subset h (List.drop_subset _ _))⟩

/-- Writing tabs as spaces adds no half of a pair. -/
theorem hasHalf_expandTabsFrom {column : Nat} {before : Text} (hbefore : hasHalf before = false)
    (h : hasHalf cs = false) : hasHalf (expandTabsFrom column before cs) = false := by
  have hreverse : ∀ {t : Text}, hasHalf t = false → hasHalf t.reverse = false := fun ht =>
    hasHalf_of_subset ht fun c hc => List.mem_reverse.mp hc
  induction cs generalizing column before with
  | nil => exact hreverse hbefore
  | cons c rest ih =>
    rw [hasHalf_cons, Bool.or_eq_false_iff] at h
    rw [expandTabsFrom]
    split
    · have hcut : hasHalf (.char ' ' :: before).reverse = false := hreverse hbefore
      simp only [hasHalf_append, hcut, hasHalf_spaces, Bool.or_false, ih hasHalf_nil h.2]
    · exact ih (by rw [hasHalf_cons, h.1, hbefore]; rfl) h.2

/-- The broken lines of a whole text are whole. -/
theorem areWhole_brokenLines {overflow : Overflow} (h : hasHalf cs = false) :
    AreWhole (brokenLines overflow size cs) := by
  intro line hline
  obtain ⟨piece, hpiece, hline⟩ := List.mem_flatMap.mp hline
  obtain ⟨cut, hcut, rfl⟩ := List.mem_map.mp hline
  have hexpanded : hasHalf (expandTabsFrom 0 [] piece) = false :=
    hasHalf_expandTabsFrom hasHalf_nil (areWhole_splitAt h piece hpiece)
  exact hasHalf_of_subset (areWhole_cutAt hexpanded cut hcut) (List.take_subset _ _)

/-- Cropping adds no half. -/
theorem hasHalf_crop {overflow : Overflow} (h : hasHalf cs = false) :
    hasHalf (crop overflow size cs) = false := by
  unfold crop
  split
  · exact h
  · split
    · exact hasHalf_fit h
    · rw [hasHalf_append, hasHalf_fit h]; rfl

/-- The lines of a text without halves have none. -/
theorem areWhole_shownLines (h : hasHalf cs = false) : AreWhole (shownLines size cs) := by
  intro line hline
  obtain ⟨piece, hpiece, rfl⟩ := List.mem_map.mp hline
  exact hasHalf_crop (areWhole_brokenLines h piece hpiece)

/-! ## Tables -/

/-- The lines of a whole cell are whole. -/
theorem Cell.areWhole_lines {cell : Cell} {column : Column} (h : hasHalf cell.codes = false) :
    AreWhole (cell.lines column size) := by
  intro line hline
  obtain ⟨piece, hpiece, rfl⟩ := List.mem_map.mp hline
  have hpiece := areWhole_brokenLines h piece hpiece
  unfold Cell.line
  split
  · simp only
    split
    · simp [hasHalf_crop hpiece, hasHalf_spaces]
    · simp [hasHalf_crop hpiece, hasHalf_spaces]
  · simp [hasHalf_crop (hasHalf_trimEnd hpiece), hasHalf_spaces]

/-- A border of characters. -/
def Border.IsWhole (border : Border) : Prop :=
  border.left.isHalf = false ∧ border.fill.isHalf = false ∧ border.middle.isHalf = false ∧
    border.right.isHalf = false

theorem hasHalf_rule {border : Border} (h : border.IsWhole) (widths : List Nat) :
    hasHalf (rule border widths) = false := by
  obtain ⟨hleft, hfill, hmiddle, hright⟩ := h
  have hpieces : AreWhole (widths.map fun size => List.replicate (size + 2) border.fill) := by
    intro piece hpiece
    obtain ⟨size, -, rfl⟩ := List.mem_map.mp hpiece
    exact hasHalf_eq_false_iff.mpr fun c hc => by rwa [List.eq_of_mem_replicate hc]
  have hjoined := hasHalf_joinWith hmiddle hpieces
  simp [rule, hleft, hright, hjoined]

namespace Table

variable {table : Table} {widths : List Nat} {bar : Code} {row : List Cell}

/-- The lines of a row of whole cells are whole. -/
theorem areWhole_rowLines (hbar : bar.isHalf = false)
    (h : ∀ cell ∈ row, hasHalf cell.codes = false) :
    AreWhole (table.rowLines widths bar row) := by
  intro line hline
  obtain ⟨n, -, rfl⟩ := List.mem_map.mp hline
  simp only [List.cons_append, hasHalf_cons, hasHalf_append, hasHalf_nil, hbar, Bool.or_false,
    Bool.false_or]
  refine hasHalf_joinWith hbar fun piece hpiece => ?_
  obtain ⟨⟨size, lines⟩, hcells, rfl⟩ := List.mem_map.mp hpiece
  obtain ⟨⟨⟨column, width⟩, cell⟩, hzip, hpair⟩ := List.mem_map.mp hcells
  obtain ⟨rfl, rfl⟩ := Prod.mk.inj hpair
  have hlines : AreWhole (cell.lines column width) :=
    Cell.areWhole_lines (h cell (List.of_mem_zip hzip).2)
  have hline : hasHalf ((cell.lines column width).getD n (spaces width)) = false := by
    rw [List.getD_eq_getElem?_getD]
    cases hget : (cell.lines column width)[n]? with
    | none => exact hasHalf_spaces width
    | some line => exact hlines line (List.mem_of_getElem? hget)
  simp only [hasHalf_append, hline, hasHalf_ofString, Bool.or_self]

/-- **The lines of a table** of texts without halves have none. -/
theorem areWhole_lines (hhead : ∀ column ∈ table.columns, hasHalf column.head = false)
    (hrows : ∀ row ∈ table.rows, ∀ cell ∈ row, hasHalf cell.codes = false) :
    AreWhole (table.lines size) := by
  have hcells : ∀ cell ∈ table.head, hasHalf cell.codes = false := by
    intro cell hcell
    obtain ⟨column, hcolumn, rfl⟩ := List.mem_map.mp hcell
    exact hhead column hcolumn
  have hrule : ∀ {border : Border} {widths : List Nat}, border.IsWhole →
      AreWhole [rule border widths] := fun hborder =>
    List.forall_mem_singleton.mpr (hasHalf_rule hborder _)
  unfold lines
  refine areWhole_append (areWhole_append (areWhole_append (areWhole_append
    (hrule ⟨rfl, rfl, rfl, rfl⟩) (areWhole_rowLines rfl hcells)) (hrule ⟨rfl, rfl, rfl, rfl⟩)) ?_)
    (hrule ⟨rfl, rfl, rfl, rfl⟩)
  intro line hline
  obtain ⟨row, hrow, hline⟩ := List.mem_flatMap.mp hline
  exact areWhole_rowLines rfl (hrows row hrow) line hline

end Table

end Launcher.Terminal
