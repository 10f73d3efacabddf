import Launcher.Machine

/-!
# Directories by plain paths

An ordinary path goes down from a root by names alone. Resolving a path gives an ordinary one, so
the directory that a machine is given for its configuration has an ordinary path.
-/

namespace Launcher

namespace Path

/-- Every name in a path without a fault is that of a file. -/
theorem fault?_eq_none_iff {path : Path} :
    path.fault? = none ↔ ∀ name ∈ path.parts, nameFault? name = none :=
  List.findSome?_eq_none_iff

/-- A name that is that of no file holds a half that stands for no octet, or a null character. -/
theorem fault?_eq_some {path : Path} {fault : Fault} (h : path.fault? = some fault) :
    fault = .halfInPath ∨ fault = .nullInPath := by
  obtain ⟨name, -, hname⟩ := List.exists_of_findSome?_eq_some h
  unfold nameFault? at hname
  split at hname
  · cases hname
    exact Or.inl rfl
  · split at hname
    · cases hname
      exact Or.inr rfl
    · cases hname

/-- The path goes down from a root, by names that directories can have. -/
structure Ordinary (path : Path) : Prop where
  rooted : path.root ≠ .here
  no_fault : path.fault? = none
  plain : (".." : Text) ∉ path.parts

/-- A plain name below an ordinary path. -/
theorem Ordinary.child {path : Path} {name : Text} (h : path.Ordinary)
    (hfault : nameFault? name = none) (hname : name ≠ "..") : (path.child name).Ordinary where
  rooted := h.rooted
  no_fault := by
    have habove := fault?_eq_none_iff.mp h.no_fault
    refine fault?_eq_none_iff.mpr fun other hother => ?_
    rcases List.mem_append.mp hother with hother | hother
    · exact habove other hother
    · rw [List.mem_singleton.mp hother, hfault]
  plain := by
    show (".." : Text) ∉ path.parts ++ [name]
    simp [h.plain, hname.symm]

/-- A name left after collapsing is a name before it, and no double dot. -/
theorem mem_collapse {name : Text} (names : List Text) : ∀ {done : List Text},
    name ∈ collapse done names → name ∈ done ∨ name ∈ names ∧ name ≠ ".." := by
  induction names with
  | nil => exact fun h => Or.inl (List.mem_reverse.mp h)
  | cons first rest ih =>
    intro done h
    unfold collapse at h
    split at h
    · rcases ih h with hdone | ⟨hrest, hne⟩
      · exact Or.inl (List.mem_of_mem_tail hdone)
      · exact Or.inr ⟨List.mem_cons_of_mem _ hrest, hne⟩
    · next hfirst =>
      rcases ih h with hdone | ⟨hrest, hne⟩
      · rcases List.mem_cons.mp hdone with heq | hdone
        · exact Or.inr ⟨heq ▸ List.mem_cons_self, heq ▸ hfirst⟩
        · exact Or.inl hdone
      · exact Or.inr ⟨List.mem_cons_of_mem _ hrest, hne⟩

/-- What a path is resolved to is ordinary. -/
theorem ordinary_of_resolve {path directory resolved : Path}
    (h : path.resolve directory = .ok resolved) : resolved.Ordinary := by
  unfold resolve at h
  simp only at h
  split at h
  · cases h
  · next hnames =>
    cases h
    refine ⟨by simp, fault?_eq_none_iff.mpr fun name hname => ?_, fun hmem => ?_⟩
    · rcases mem_collapse _ hname with hdone | ⟨hmem, -⟩
      · cases hdone
      · exact fault?_eq_none_iff.mp hnames name hmem
    · rcases mem_collapse _ hmem with hdone | ⟨-, hne⟩
      · cases hdone
      · exact hne rfl

end Path

/-- The directory that a value gives has an ordinary path. -/
theorem Machine.ordinary_of_directory {machine : Machine} {given : Value} {path : Path}
    (h : machine.directory given = .ok path) : path.Ordinary := by
  obtain ⟨expanded, -, h⟩ := exists_of_bind_eq_ok h
  obtain ⟨resolved, hresolved, h⟩ := exists_of_bind_eq_ok h
  have hordinary := Path.ordinary_of_resolve hresolved
  simp only at h
  split at h
  · cases h
  · obtain ⟨node, -, h⟩ := exists_of_bind_eq_ok h
    split at h
    · cases h
    · cases h
      exact hordinary

end Launcher
