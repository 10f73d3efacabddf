import Mathlib.Data.List.Induction
import Launcher.Files.Tree

/-!
# Directories that are there

`Stands` says that a row of directories is there, one in the other. Making directories leaves such a
row behind, touches nothing that was there before, and changes nothing when the row is there
already. A file right below the row is read and written at its own place.

> `directoriesFrom_ok` what making directories leaves behind
> `walk_of_stands` the way to a file below directories that are there
> `unifyLineEnds_of_no_return` what is written without carriage returns is read as it was
-/

namespace Launcher

namespace Text

theorem unifyLineEnds_of_no_return {cs : List Char} (h : '\r' ∉ cs) : unifyLineEnds cs = cs := by
  induction cs with
  | nil => rfl
  | cons c rest ih =>
    have hc : c ≠ '\r' := fun hc => h (hc ▸ List.mem_cons_self)
    have hrest : '\r' ∉ rest := fun hmem => h (List.mem_cons_of_mem _ hmem)
    rw [unifyLineEnds, ih hrest]
    · exact fun _ hc' => absurd hc' hc
    · exact hc

end Text

namespace Tree

variable {tree : Tree} {place other : Location} {node : Node}

/-- What is put in a place stands there. -/
theorem get?_put_self (hplace : place ≠ []) : (tree.put place node).get? place = some node := by
  rw [get?, if_neg hplace, put]
  simp

/-- What is put in a place leaves the others. -/
theorem get?_put_of_ne (h : other ≠ place) :
    (tree.put place node).get? other = tree.get? other := by
  unfold get? put
  split
  · rfl
  · simp [Ne.symm h]

/-- A directory stays when something is put where no directory is. -/
theorem get?_put_of_directory (hplace : tree.get? place ≠ some .directory)
    (h : tree.get? other = some .directory) :
    (tree.put place node).get? other = some .directory := by
  rw [get?_put_of_ne fun heq => hplace (by rw [← heq]; exact h)]
  exact h

/-- Whatever stands somewhere stands in a directory. -/
def Closed (tree : Tree) : Prop :=
  ∀ place, tree.get? place ≠ none → tree.get? place.dropLast = some .directory

theorem closed_empty : empty.Closed := by
  intro place hplace
  have hnil : place = [] := by
    by_contra hne
    exact hplace (by rw [get?, if_neg hne]; rfl)
  rw [hnil]
  rfl

theorem ne_nil_of_get? (h : tree.get? place ≠ some .directory) : place ≠ [] := fun hnil =>
  h (by rw [hnil]; rfl)

/-- Something may be put into a directory, but not in the place of a directory. -/
theorem Closed.put (h : tree.Closed) (hplace : tree.get? place ≠ some .directory)
    (habove : tree.get? place.dropLast = some .directory) : (tree.put place node).Closed := by
  intro other hother
  by_cases heq : other = place
  · exact get?_put_of_directory hplace (heq ▸ habove)
  · rw [get?_put_of_ne heq] at hother
    exact get?_put_of_directory hplace (h other hother)

/-- A directory stands at the place, and in it the first of the names, and so on. -/
def Stands (tree : Tree) (place : Location) : List Text → Prop
  | [] => tree.get? place = some .directory
  | name :: rest =>
    tree.get? place = some .directory ∧ isLongName name = false ∧
      tree.Stands (place ++ [Path.octetsOf name]) rest

theorem Stands.first {names : List Text} (h : tree.Stands place names) :
    tree.get? place = some .directory := by
  cases names with
  | nil => exact h
  | cons name rest => exact h.1

/-- Directories stay when something is put where no directory is. -/
theorem Stands.put {names : List Text} (h : tree.Stands place names)
    (hother : tree.get? other ≠ some .directory) : (tree.put other node).Stands place names := by
  induction names generalizing place with
  | nil => exact get?_put_of_directory hother h
  | cons name rest ih => exact ⟨get?_put_of_directory hother h.1, h.2.1, ih h.2.2⟩

/-- Directories that are there are not made again. -/
theorem Stands.directoriesFrom {names : List Text} (h : tree.Stands place names) :
    tree.directoriesFrom place names = (.ok (), tree) := by
  induction names generalizing place with
  | nil => rfl
  | cons name rest ih =>
    obtain ⟨-, hshort, hrest⟩ := h
    rw [Tree.directoriesFrom]
    simp only [hshort, hrest.first, ih hrest]
    rfl

/-- The last of the directories is the one with all the names. -/
theorem Stands.last {names : List Text} (h : tree.Stands place names) :
    tree.get? (place ++ names.map Path.octetsOf) = some .directory := by
  induction names generalizing place with
  | nil => rw [List.map_nil, List.append_nil]; exact h
  | cons name rest ih =>
    have hrest := ih h.2.2
    rwa [List.append_assoc, List.singleton_append] at hrest

/-- The way to what is right below directories that are there. -/
theorem walk_of_stands {names : List Text} (h : tree.Stands place names)
    (hplain : (".." : Text) ∉ names)
    {last : Text} (hlast : last ≠ "..") (hshort : isLongName last = false) :
    tree.walk place (names ++ [last]) = .ok (place ++ (names ++ [last]).map Path.octetsOf) := by
  induction names generalizing place with
  | nil =>
    rw [List.nil_append, walk, h.first]
    simp [hshort, hlast, walk]
  | cons name rest ih =>
    have hname : name ≠ ".." := fun heq => hplain (heq ▸ List.mem_cons_self)
    have hrest := ih h.2.2 fun hmem => hplain (List.mem_cons_of_mem _ hmem)
    rw [List.cons_append, walk, h.1]
    simp only [h.2.1, if_neg hname]
    rw [List.append_assoc place, List.singleton_append] at hrest
    exact hrest

/-- A walk without double dots goes down name by name. -/
theorem eq_of_walk {names : List Text} (hplain : (".." : Text) ∉ names)
    (h : tree.walk place names = .ok other) : other = place ++ names.map Path.octetsOf := by
  induction names generalizing place with
  | nil =>
    cases h
    exact (List.append_nil _).symm
  | cons name rest ih =>
    have hname : name ≠ ".." := fun heq => hplain (heq ▸ List.mem_cons_self)
    rw [walk] at h
    split at h
    · split at h
      · cases h
      · rw [ih (fun hmem => hplain (List.mem_cons_of_mem _ hmem)) h, List.append_assoc,
          List.singleton_append, List.map_cons]
    · cases h
    · cases h

/-- Names that stand are within their limit. -/
theorem Stands.not_long {names : List Text} (h : tree.Stands place names) :
    ∀ name ∈ names, isLongName name = false := by
  induction names generalizing place with
  | nil => nofun
  | cons name rest ih => exact List.forall_mem_cons.mpr ⟨h.2.1, ih h.2.2⟩

/-- What stands above something is a directory. -/
theorem Closed.directory_above (h : tree.Closed) {names : Location} (hne : names ≠ [])
    (hsome : tree.get? (place ++ names) ≠ none) : tree.get? place = some .directory := by
  -- from the last name upwards: each name stands in a directory, which stands in the next
  induction names using List.reverseRecOn with
  | nil => exact absurd rfl hne
  | append_singleton names name ih =>
    have hdir := h _ hsome
    rw [← List.append_assoc, List.dropLast_concat] at hdir
    by_cases hnil : names = []
    · rwa [hnil, List.append_nil] at hdir
    · exact ih hnil (by rw [hdir]; nofun)

/-- Above a directory all the others are there. -/
theorem Closed.stands (h : tree.Closed) {names : List Text}
    (hshort : ∀ name ∈ names, isLongName name = false)
    (hlast : tree.get? (place ++ names.map Path.octetsOf) = some .directory) :
    tree.Stands place names := by
  induction names generalizing place with
  | nil => rwa [List.map_nil, List.append_nil] at hlast
  | cons name rest ih =>
    obtain ⟨hname, hrest⟩ := List.forall_mem_cons.mp hshort
    rw [List.map_cons] at hlast
    refine ⟨h.directory_above (List.cons_ne_nil _ _) (by rw [hlast]; nofun), hname, ih hrest ?_⟩
    rwa [List.append_assoc, List.singleton_append]

/-- What making directories leaves behind: they are there, and all other places are as before. -/
theorem directoriesFrom_ok {names : List Text} {grown : Tree} (hclosed : tree.Closed)
    (hplace : tree.get? place = some .directory)
    (h : tree.directoriesFrom place names = (.ok (), grown)) :
    grown.Stands place names ∧ grown.Closed ∧
      (∀ other, tree.get? other ≠ none → grown.get? other = tree.get? other) ∧
      ∀ other, tree.get? other = none → ¬ other <+: place ++ names.map Path.octetsOf →
        grown.get? other = none := by
  induction names generalizing tree place with
  | nil =>
    cases h
    exact ⟨hplace, hclosed, fun _ _ => rfl, fun _ h _ => h⟩
  | cons name rest ih =>
    have hnames : place ++ [Path.octetsOf name] ++ rest.map Path.octetsOf
        = place ++ (name :: rest).map Path.octetsOf := by simp
    rw [directoriesFrom] at h
    split at h
    · cases h
    · next hshort =>
      have hshort : isLongName name = false := by simpa using hshort
      have hplaced : tree.get? place ≠ none := by rw [hplace]; nofun
      split at h
      · next hthere =>
        obtain ⟨hstands, hgrown, hkept, hbare⟩ := ih hclosed hthere h
        rw [hnames] at hbare
        refine ⟨⟨?_, hshort, hstands⟩, hgrown, hkept, hbare⟩
        rw [hkept place hplaced, hplace]
      · cases h
      · next hnone =>
        -- the directory that is missing is made first
        have hput : (tree.put (place ++ [Path.octetsOf name]) .directory).Closed :=
          hclosed.put (by rw [hnone]; nofun) (by rw [List.dropLast_concat]; exact hplace)
        have hnext : place ++ [Path.octetsOf name] ≠ [] := by simp
        obtain ⟨hstands, hgrown, hkept, hbare⟩ := ih hput (get?_put_self hnext) h
        rw [hnames] at hbare
        have hsame : ∀ other, tree.get? other ≠ none → grown.get? other = tree.get? other := by
          intro other hother
          have hne : other ≠ place ++ [Path.octetsOf name] := fun heq => hother (heq ▸ hnone)
          rw [hkept other (by rw [get?_put_of_ne hne]; exact hother), get?_put_of_ne hne]
        refine ⟨⟨?_, hshort, hstands⟩, hgrown, hsame, fun other hother hnot => ?_⟩
        · rw [hsame place hplaced, hplace]
        · have hne : other ≠ place ++ [Path.octetsOf name] := fun heq =>
            hnot (heq ▸ hnames ▸ List.prefix_append _ _)
          exact hbare other (by rw [get?_put_of_ne hne]; exact hother) hnot

/-- Directories are made only by names of files. -/
theorem makeDirectories_ok {grown : Tree} {path : Path}
    (h : tree.makeDirectories path = (.ok (), grown)) :
    path.fault? = none ∧ tree.directoriesFrom [] path.parts = (.ok (), grown) := by
  unfold makeDirectories at h
  split at h
  · cases h
  · next hfault =>
    refine ⟨hfault, ?_⟩
    split at h
    · next heq =>
      cases h
      exact heq
    · split at h
      · cases h
      · cases h

/-- Where the directories stand there is nothing to be made. -/
theorem makeDirectories_of_stands {path : Path} (hfault : path.fault? = none)
    (h : tree.Stands [] path.parts) : tree.makeDirectories path = (.ok (), tree) := by
  unfold makeDirectories
  rw [hfault, h.directoriesFrom]

end Tree

end Launcher
