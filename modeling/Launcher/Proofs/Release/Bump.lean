import Launcher.Proofs.Files.Overwrite
import Launcher.Proofs.Machine
import Launcher.Proofs.Release.Assignment

/-!
# A release whose version is set

The package file is written before the project file is looked at. So when the version cannot be set
because a file lacks its assignment, nothing has changed if that file is the package file; if it is
the project file, the package file has the new version already, and the two are as before only if it
had that version before.

> `bumpFile_outcome` what setting the version in one file comes to
> **`bump_versionMissing`** what is left behind when a file lacks its assignment
-/

namespace Launcher.Release

variable {root : Path} {given : Text} {version : String} {file : VersionFile}
  {machine after : Machine}

/-! ## One file -/

/-- The file of the release as it is read. -/
def contents (root : Path) (file : VersionFile) (machine : Machine) : Except Fault (List Char) :=
  machine.files.readChars (pathBelow root file)

/-- The file can be read, but nothing in it assigns the version. -/
def Lacks (root : Path) (file : VersionFile) (machine : Machine) : Prop :=
  ∃ text, contents root file machine = .ok text ∧ Located.find? (key file) text = none

/-- The first assignment in the file is that of the version, as it is written. -/
def Assigns (root : Path) (version : String) (file : VersionFile) (machine : Machine) : Prop :=
  ∃ text located, contents root file machine = .ok text ∧
    Located.find? (key file) text = some located ∧
    located.assignment = written (key file) version.toList

/-- The file is as before but for its first assignment, in place of which that of the version
stands. -/
def IsSet (root : Path) (version : String) (file : VersionFile) (before after : Machine) : Prop :=
  ∃ text located, contents root file before = .ok text ∧
    Located.find? (key file) text = some located ∧
    contents root file after = .ok (located.replace (written (key file) version.toList))

/-- What setting the version in one file comes to. -/
inductive FileOutcome (root : Path) (version : String) (file : VersionFile) (machine : Machine) :
    Except Fault Unit × Machine → Prop
  /-- The file is not read. -/
  | unread {fault : Fault} (hread : contents root file machine = .error fault) :
    FileOutcome root version file machine (.error fault, machine)
  /-- The file has no assignment of the version. -/
  | missing (hlacks : Lacks root file machine) :
    FileOutcome root version file machine
      (.error (.versionMissing file (pathBelow root file).text), machine)
  /-- The version is set; the other file is as before. -/
  | done {after : Machine} (hset : IsSet root version file machine after)
      (hother : ∀ other, other ≠ file →
        contents root other after = contents root other machine ∧
          after.files.look (pathBelow root other) = machine.files.look (pathBelow root other)) :
    FileOutcome root version file machine (.ok (), after)

/-- The name of a file. -/
def lastName : VersionFile → Text
  | .package => "__init__.py"
  | .project => "pyproject.toml"

theorem getLast?_pathBelow (root : Path) (file : VersionFile) :
    (pathBelow root file).parts.getLast? = some (lastName file) := by
  cases file <;> exact List.getLast?_concat

theorem lastName_ne_dots (file : VersionFile) : lastName file ≠ ".." := by
  cases file <;> decide

/-- The files of a release have names of their own, also as octets. -/
theorem eq_of_octetsOf_lastName {other : VersionFile}
    (h : Path.octetsOf (lastName file) = Path.octetsOf (lastName other)) : file = other := by
  cases file <;> cases other <;> first | rfl | exact absurd h (by decide)

/-- A text that has been read has no carriage returns, and gets none from a version. -/
theorem return_not_mem_replace {text : List Char} {located : Located}
    (hread : contents root file machine = .ok text)
    (hlocated : Located.find? (key file) text = some located) (hversion : '\r' ∉ version.toList) :
    '\r' ∉ located.replace (written (key file) version.toList) := by
  obtain ⟨place, content, -, -, hchars⟩ := Tree.readChars_eq_ok hread
  have htext : '\r' ∉ located.replace located.assignment := by
    rw [replace_assignment hlocated]
    exact Content.return_not_mem_chars hchars
  have hwritten : '\r' ∉ written (key file) version.toList :=
    not_mem_written (by cases file <;> decide) hversion
  unfold Located.replace at htext ⊢
  simp only [List.mem_append, not_or] at htext ⊢
  exact ⟨⟨htext.1.1, hwritten⟩, htext.2⟩

/-- Setting a version in one file: it is not read, it has no assignment, or it is set. -/
theorem bumpFile_outcome (hversion : normalize given = .ok version) (root : Path)
    (file : VersionFile) (machine : Machine) :
    FileOutcome root version file machine ((bumpFile root version file).on machine) := by
  have hget : (get : Action Machine).on machine = (.ok machine, machine) := rfl
  have hbackslash : '\\' ∉ version.toList := not_mem_of_normalize hversion (by decide)
  have hreturn : '\r' ∉ version.toList := not_mem_of_normalize hversion (by decide)
  unfold bumpFile
  rw [Action.on_bind_ok hget]
  simp only
  cases hread : machine.files.readChars (pathBelow root file) with
  | error fault =>
    rw [← hread, Action.on_bind_error (Action.on_liftExcept_of_eq hread machine)]
    exact .unread hread
  | ok text =>
    rw [← hread, Action.on_bind_ok (Action.on_liftExcept_of_eq hread machine)]
    have hset := setVersion_eq file (pathBelow root file).text text hbackslash
    cases hlocated : Located.find? (key file) text with
    | none =>
      rw [hlocated] at hset
      rw [Action.on_bind_error (Action.on_liftExcept_of_eq hset machine)]
      exact .missing ⟨text, hread, hlocated⟩
    | some located =>
      rw [hlocated] at hset
      rw [Action.on_bind_ok (Action.on_liftExcept_of_eq hset machine)]
      have hplain := return_not_mem_replace hread hlocated hreturn
      obtain ⟨files, hwrite, hself, hothers⟩ := Tree.exists_overwrite hread
        (getLast?_pathBelow root file) (lastName_ne_dots file)
        (s := String.ofList (located.replace (written (key file) version.toList)))
        (by rwa [String.toList_ofList])
      rw [String.toList_ofList] at hself
      rw [Action.on_bind_ok (Action.on_liftExcept_of_eq hwrite machine)]
      refine .done ⟨text, located, hread, hlocated, hself⟩ ?_
      intro other hother
      exact hothers _ _ (getLast?_pathBelow root other) (lastName_ne_dots other)
        fun heq => hother (eq_of_octetsOf_lastName heq)

/-! ## Both files -/

/-- Both files are read as before. -/
def SameFiles (root : Path) (before after : Machine) : Prop :=
  ∀ file, contents root file after = contents root file before

/-- A file that is set is as before exactly if it had the version already. -/
theorem IsSet.same_iff (h : IsSet root version file machine after) :
    contents root file after = contents root file machine ↔
      Assigns root version file machine := by
  obtain ⟨text, located, hread, hlocated, hafter⟩ := h
  rw [hread, hafter, Except.ok.injEq]
  constructor
  · intro hsame
    rw [← replace_assignment hlocated, replace_inj] at hsame
    exact ⟨text, located, hread, hlocated, hsame.symm⟩
  · intro hassigns
    obtain ⟨text', located', hread', hlocated', hassignment⟩ := hassigns
    rw [hread] at hread'
    cases hread'
    rw [hlocated] at hlocated'
    cases hlocated'
    rw [← hassignment, replace_assignment hlocated]

/-- The fault comes from the tree of files, from the names in a path, or from what stands in a
file. -/
def IsReadingFault (fault : Fault) : Prop :=
  fault.isOfFiles = true ∨ fault = .halfInPath ∨ fault = .nullInPath ∨
    ∃ reason, fault = .octets reason

/-- The fault of a file that is not read is one of these. -/
theorem isReadingFault_of_contents {fault : Fault} (h : contents root file machine = .error fault) :
    IsReadingFault fault := by
  rcases Tree.readChars_error h with hname | hfiles | hoctets
  · rcases Path.fault?_eq_some hname with rfl | rfl
    · exact Or.inr (Or.inl rfl)
    · exact Or.inr (Or.inr (Or.inl rfl))
  · exact Or.inl hfiles
  · exact Or.inr (Or.inr (Or.inr hoctets))

/-- What setting the version of a release comes to. -/
inductive Outcome (root : Path) (version : String) (machine : Machine) :
    Except Fault (List Path) × Machine → Prop
  /-- A file is not read; at most the package file has been set. -/
  | unread {fault : Fault} {after : Machine} (hfault : IsReadingFault fault)
      (hafter : after = machine ∨ IsSet root version .package machine after) :
    Outcome root version machine (.error fault, after)
  /-- The package file has no assignment. -/
  | packageLacks (hlacks : Lacks root .package machine) :
    Outcome root version machine
      (.error (.versionMissing .package (pathBelow root .package).text), machine)
  /-- The package file has been set when it turns out that the project file has no assignment. -/
  | projectLacks {after : Machine} (hset : IsSet root version .package machine after)
      (hproject : contents root .project after = contents root .project machine)
      (hlacks : Lacks root .project machine) :
    Outcome root version machine
      (.error (.versionMissing .project (pathBelow root .project).text), after)
  /-- There is no project file, and the package file is set. -/
  | packageOnly {after : Machine} (hset : IsSet root version .package machine after)
      (hnone : machine.files.has (pathBelow root .project) = .ok false) :
    Outcome root version machine (.ok [pathBelow root .package], after)
  /-- Both files are set. -/
  | both {after : Machine} (hset : ∀ file, IsSet root version file machine after) :
    Outcome root version machine
      (.ok [pathBelow root .package, pathBelow root .project], after)

/-- A file that is set on one machine stays so on another on which it is read the same. -/
theorem IsSet.of_eq {next : Machine} (h : IsSet root version file machine next)
    (hsame : contents root file after = contents root file next) :
    IsSet root version file machine after := by
  obtain ⟨text, located, hread, hlocated, hnow⟩ := h
  exact ⟨text, located, hread, hlocated, hsame.trans hnow⟩

/-- Setting the version of a release: the package file first, then the project file if it is
there. -/
theorem bump_outcome (hversion : normalize given = .ok version) (root : Path)
    (machine : Machine) : Outcome root version machine ((bump root version).on machine) := by
  have hpackage := bumpFile_outcome hversion root .package machine
  unfold bump
  generalize hfirst : (bumpFile root version .package).on machine = first at hpackage
  cases hpackage with
  | unread hread =>
    rw [Action.on_bind_error hfirst]
    exact .unread (isReadingFault_of_contents hread) (Or.inl rfl)
  | missing hlacks =>
    rw [Action.on_bind_error hfirst]
    exact .packageLacks hlacks
  | @done next hset hother =>
    obtain ⟨hproject, hlook⟩ := hother .project nofun
    have hget : (get : Action Machine).on next = (.ok next, next) := rfl
    rw [Action.on_bind_ok hfirst, Action.on_bind_ok hget]
    cases hthere : next.files.has (pathBelow root .project) with
    | error fault =>
      rw [← hthere, Action.on_bind_error (Action.on_liftExcept_of_eq hthere next)]
      exact .unread (Or.inl (Tree.has_error hthere)) (Or.inr hset)
    | ok there =>
      rw [← hthere, Action.on_bind_ok (Action.on_liftExcept_of_eq hthere next)]
      cases there with
      | false =>
        have hnone : machine.files.has (pathBelow root .project) = .ok false := by
          rw [← hthere]
          exact congrArg (Except.map Option.isSome) hlook.symm
        exact .packageOnly hset hnone
      | true =>
        rw [if_pos rfl]
        have hlast := bumpFile_outcome hversion root .project next
        generalize hsecond : (bumpFile root version .project).on next = second at hlast
        cases hlast with
        | unread hread =>
          rw [Action.on_bind_error hsecond]
          exact .unread (isReadingFault_of_contents hread) (Or.inr hset)
        | missing hlacks =>
          rw [Action.on_bind_error hsecond]
          obtain ⟨text, hread, hnone⟩ := hlacks
          exact .projectLacks hset hproject ⟨text, hproject.symm.trans hread, hnone⟩
        | done hset' hother' =>
          rw [Action.on_bind_ok hsecond]
          obtain ⟨text, located, hread, hlocated, hnow⟩ := hset'
          refine .both ?_
          intro file
          cases file with
          | package => exact hset.of_eq (hother' .package nofun).1
          | project => exact ⟨text, located, hproject.symm.trans hread, hlocated, hnow⟩

theorem not_isReadingFault_versionMissing {path : Text} :
    ¬IsReadingFault (.versionMissing file path) := by
  rintro (hfiles | hname | hname | ⟨reason, hoctets⟩)
  · cases hfiles
  · cases hname
  · cases hname
  · cases hoctets

/-- **What is left behind when a file lacks its assignment.** If it is the package file, the machine
is as before. If it is the project file, the version stands in the package file and the project file
is as before. So both files are as before exactly if the package file lacks its assignment or had
the version already. -/
theorem bump_versionMissing {path : Text} (hversion : normalize given = .ok version)
    (h : (bump root version).on machine = (.error (.versionMissing file path), after)) :
    path = (pathBelow root file).text ∧ Lacks root file machine ∧
      (file = .package → after = machine) ∧
      (file = .project → IsSet root version .package machine after ∧
        contents root .project after = contents root .project machine) ∧
      (SameFiles root machine after ↔
        file = .package ∨ Assigns root version .package machine) := by
  have houtcome := bump_outcome hversion root machine
  rw [h] at houtcome
  cases houtcome with
  | unread hfault hafter => exact absurd hfault not_isReadingFault_versionMissing
  | packageLacks hlacks =>
    exact ⟨rfl, hlacks, fun _ => rfl, nofun, iff_of_true (fun _ => rfl) (Or.inl rfl)⟩
  | projectLacks hset hproject hlacks =>
    refine ⟨rfl, hlacks, nofun, fun _ => ⟨hset, hproject⟩, ?_⟩
    constructor
    · intro hsame
      exact Or.inr (hset.same_iff.mp (hsame .package))
    · intro hassigns other
      cases other with
      | package => exact hset.same_iff.mpr (hassigns.resolve_left nofun)
      | project => exact hproject

/-! ## A release in one directory -/

/-- The directory of the release. -/
def workRoot : Path := ⟨.plain, ["work"]⟩

/-- The text of a package file that assigns a version. -/
def packageText (version : String) : String :=
  "\"\"\"Pkg.\"\"\"\n\n__version__ = \"" ++ version ++ "\"\n"

/-- A machine with a release whose project file is empty. -/
def halfRelease (version : String) : Machine :=
  Machine.fresh ⟨.plain, ["home"]⟩ workRoot none .linux 80
    ⟨[(workRoot.location, .directory), ((workRoot.child "lodestar").location, .directory),
      ((pathBelow workRoot .package).location, .file (.text (packageText version))),
      ((pathBelow workRoot .project).location, .file (.text ""))]⟩

/-- Setting the version that the package file has already changes neither file. -/
theorem halfRelease_same : normalize "2.0.0rc1" = .ok "2.0.0rc1" ∧ ∃ after,
    (bump workRoot "2.0.0rc1").on (halfRelease "2.0.0rc1")
      = (.error (.versionMissing .project "/work/pyproject.toml"), after) ∧
    SameFiles workRoot (halfRelease "2.0.0rc1") after := by
  have hversion : normalize "2.0.0rc1" = .ok "2.0.0rc1" := by rfl
  have hfails : (bump workRoot "2.0.0rc1").on (halfRelease "2.0.0rc1")
      = (.error (.versionMissing .project "/work/pyproject.toml"),
        ((bump workRoot "2.0.0rc1").on (halfRelease "2.0.0rc1")).2) := Prod.ext (by rfl) rfl
  have hassigns : Assigns workRoot "2.0.0rc1" .package (halfRelease "2.0.0rc1") :=
    ⟨(packageText "2.0.0rc1").toList,
      ⟨"\"\"\"Pkg.\"\"\"\n\n".toList, "__version__ = \"2.0.0rc1\"".toList, ['\n']⟩,
      by rfl, by rfl, by rfl⟩
  obtain ⟨-, -, -, -, hsame⟩ := bump_versionMissing hversion hfails
  exact ⟨hversion, _, hfails, hsame.mpr (Or.inr hassigns)⟩

/-- A version that the package file did not have stands in it after the failure. -/
theorem halfRelease_drifts : normalize "2.0.0rc1" = .ok "2.0.0rc1" ∧
    ((bump workRoot "2.0.0rc1").on (halfRelease "0.1.0")).1
      = .error (.versionMissing .project "/work/pyproject.toml") ∧
    ¬SameFiles workRoot (halfRelease "0.1.0")
      ((bump workRoot "2.0.0rc1").on (halfRelease "0.1.0")).2 := by
  refine ⟨by rfl, by rfl, ?_⟩
  intro hsame
  have hbefore : contents workRoot .package (halfRelease "0.1.0")
      = .ok (packageText "0.1.0").toList := by rfl
  have hafter : contents workRoot .package ((bump workRoot "2.0.0rc1").on (halfRelease "0.1.0")).2
      = .ok (packageText "2.0.0rc1").toList := by rfl
  have htexts := hsame .package
  rw [hbefore, hafter] at htexts
  exact absurd (Except.ok.inj htexts) (by decide)

end Launcher.Release
