import Launcher.Proofs.Files.Tree

/-!
# What making directories and writing leave alone

Making directories adds directories where nothing was, also if it fails on the way, and writing a
file changes nothing but that file. So whatever stands at any other place stays.

> `makeDirectories_grows` directories are added where nothing was
> `write_ok` a file that is written stands at its place
> `makeDirectories_error`, `write_error`, `look_error` these fail only for what is in the way
-/

namespace Launcher

/-- The fault comes from what stands in the tree of files, or does not, or has too long a name. -/
def Fault.isOfFiles : Fault → Bool
  | .notDirectory _ | .throughFile _ | .isDirectory _ | .fileExists _ | .fileMissing _
  | .nameTooLong _ => true
  | _ => false

namespace Tree

variable {tree before after : Tree} {place : Location} {path : Path} {s : String} {fault : Fault}

/-- A path that leads nowhere is a fault of the files. -/
theorem isOfFiles_walkFault (path : Path) (fault : WalkFault) :
    (walkFault path fault).isOfFiles = true := by
  cases fault <;> rfl

/-- What keeps a path from leading anywhere is a fault of its own or stands in the way. -/
theorem placeOf_error (h : tree.placeOf path = .error fault) :
    path.fault? = some fault ∨ fault.isOfFiles = true := by
  unfold placeOf at h
  split at h
  · next hfault =>
    cases h
    exact Or.inl hfault
  · split at h
    · cases h
    · cases h
      exact Or.inr (isOfFiles_walkFault _ _)

/-- A path leads to a place exactly when its names do. -/
theorem placeOf_eq_ok_iff :
    tree.placeOf path = .ok place ↔ path.fault? = none ∧ tree.walk [] path.parts = .ok place := by
  unfold placeOf
  cases path.fault? with
  | some fault => simp
  | none => cases tree.walk [] path.parts <;> simp

/-- The second tree has more directories than the first where nothing was, and is otherwise the
same. -/
structure Grows (before after : Tree) : Prop where
  closed : before.Closed → after.Closed
  kept : ∀ place, before.get? place ≠ none → after.get? place = before.get? place
  new : ∀ place, before.get? place = none →
    after.get? place = none ∨ after.get? place = some .directory

theorem Grows.refl (tree : Tree) : tree.Grows tree := ⟨id, fun _ _ => rfl, fun _ h => Or.inl h⟩

/-- A tree that grows twice has grown. -/
theorem Grows.trans (h : before.Grows tree) (h' : tree.Grows after) : before.Grows after where
  closed := fun hclosed => h'.closed (h.closed hclosed)
  kept := fun place hplace => by
    have hsame := h.kept place hplace
    rw [h'.kept place (by rwa [hsame]), hsame]
  new := fun place hnone => by
    rcases h.new place hnone with hnone | hdirectory
    · exact h'.new place hnone
    · exact Or.inr (by rw [h'.kept place (by rw [hdirectory]; nofun), hdirectory])

/-- A directory is made where nothing was. -/
theorem grows_put (hnone : tree.get? place = none)
    (habove : tree.get? place.dropLast = some .directory) :
    tree.Grows (tree.put place .directory) where
  closed := fun hclosed => hclosed.put (by rw [hnone]; nofun) habove
  kept := fun other hother => get?_put_of_ne fun heq => hother (heq ▸ hnone)
  new := fun other hother => by
    by_cases heq : other = place
    · have hplace : place ≠ [] := ne_nil_of_get? (by rw [hnone]; nofun)
      exact Or.inr (by rw [heq, get?_put_self hplace])
    · exact Or.inl (by rw [get?_put_of_ne heq, hother])

/-- Making directories below a directory only adds to the tree. -/
theorem directoriesFrom_grows (names : List Text) : ∀ {tree : Tree} {place : Location},
    tree.get? place = some .directory → tree.Grows (tree.directoriesFrom place names).2 := by
  induction names with
  | nil => exact fun _ => .refl _
  | cons name rest ih =>
    intro tree place hplace
    rw [directoriesFrom]
    split
    · exact .refl _
    · split
      · next hthere => exact ih hthere
      · exact .refl _
      · next hnone =>
        have hnext : place ++ [Path.octetsOf name] ≠ [] := by simp
        have hput : tree.Grows (tree.put (place ++ [Path.octetsOf name]) .directory) :=
          grows_put hnone (by rw [List.dropLast_concat]; exact hplace)
        exact hput.trans (ih (get?_put_self hnext))

/-- Making directories adds directories where nothing was, whether it succeeds or not. -/
theorem makeDirectories_grows (tree : Tree) (path : Path) :
    tree.Grows (tree.makeDirectories path).2 := by
  have hroot : tree.get? [] = some .directory := rfl
  have h := directoriesFrom_grows path.parts hroot
  unfold makeDirectories
  split
  · exact .refl _
  · split
    · next heq => rwa [heq] at h
    · next heq =>
      rw [heq] at h
      split
      · exact h
      · exact h

/-- Where directories cannot be made the fault is one of the files. -/
theorem makeDirectories_error (hpath : path.fault? = none)
    (h : (tree.makeDirectories path).1 = .error fault) : fault.isOfFiles = true := by
  unfold makeDirectories at h
  rw [hpath] at h
  simp only at h
  split at h
  · cases h
  · split at h
    · cases h; rfl
    · cases h; exact isOfFiles_walkFault _ _

/-- A file is written at its own place, which is not that of a directory. -/
theorem write_ok {written : Tree} (hclosed : tree.Closed) (hplain : (".." : Text) ∉ path.parts)
    (h : tree.write path s = .ok written) :
    written = tree.put path.location (.file (.text s)) ∧ path.location ≠ [] ∧
      written.Closed := by
  unfold write at h
  split at h
  · cases h
  · next place hplace =>
    obtain rfl : place = path.location := eq_of_walk hplain (placeOf_eq_ok_iff.mp hplace).2
    have hput : tree.get? path.location ≠ some .directory →
        tree.get? path.location.dropLast = some .directory →
        path.location ≠ [] ∧ (tree.put path.location (.file (.text s))).Closed :=
      fun hplace habove => ⟨ne_nil_of_get? hplace, hclosed.put hplace habove⟩
    split at h
    · cases h
    · next hfile =>
      cases h
      exact ⟨rfl, hput (by rw [hfile]; nofun) (hclosed _ (by rw [hfile]; nofun))⟩
    · next hnone habove =>
      cases h
      exact ⟨rfl, hput (by rw [hnone]; nofun) habove⟩
    · cases h
    · cases h

/-- Where a file cannot be written the fault is one of the files. -/
theorem write_error (hpath : path.fault? = none) (h : tree.write path s = .error fault) :
    fault.isOfFiles = true := by
  unfold write at h
  split at h
  · next hplace =>
    cases h
    exact (placeOf_error hplace).resolve_left (by rw [hpath]; nofun)
  · split at h
    · cases h; rfl
    · cases h
    · cases h
    · cases h; rfl
    · cases h; rfl

/-- Where nothing can be looked at the fault is one of the files. -/
theorem look_error (h : tree.look path = .error fault) : fault.isOfFiles = true := by
  unfold look at h
  split at h
  · cases h
  · split at h
    · cases h
    · cases h; rfl
    · cases h

theorem has_error (h : tree.has path = .error fault) : fault.isOfFiles = true := by
  unfold has at h
  cases hlook : tree.look path with
  | error reason =>
    rw [hlook] at h
    cases h
    exact look_error hlook
  | ok found =>
    rw [hlook] at h
    cases h

/-- In a tree whose nodes stand in directories, the way down to what is there ends early only at a
name that is too long. -/
theorem Closed.walk_cases (h : tree.Closed) {names : List Text} (hplain : (".." : Text) ∉ names)
    (hsome : tree.get? (place ++ names.map Path.octetsOf) ≠ none) :
    tree.walk place names = .ok (place ++ names.map Path.octetsOf) ∨
      tree.walk place names = .error .nameTooLong := by
  induction names generalizing place with
  | nil => exact Or.inl (by rw [walk, List.map_nil, List.append_nil])
  | cons name rest ih =>
    have hname : name ≠ ".." := fun heq => hplain (heq ▸ List.mem_cons_self)
    have hnext : place ++ [Path.octetsOf name] ++ rest.map Path.octetsOf
        = place ++ (name :: rest).map Path.octetsOf := by simp
    rw [walk, h.directory_above (List.cons_ne_nil _ _) hsome]
    simp only [if_neg hname]
    split
    · exact Or.inr rfl
    · rw [← hnext] at hsome ⊢
      exact ih (fun hmem => hplain (List.mem_cons_of_mem _ hmem)) hsome

end Tree

end Launcher
