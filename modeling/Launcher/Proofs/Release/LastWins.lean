import Launcher.Proofs.Release.Bump
import Launcher.Proofs.Release.Replacement

/-!
# The version set last is the one that stands

Where both files of a release assign a version, setting another one succeeds. It changes the first
assignment in each file and nothing else, and the assignment put there is the first one again, at
the same place (`find?_replace`). So a version that is set afterwards replaces that assignment: what
is read of the files then is what had been read if only the last version had been set.

> `bump_of_firstAt` setting a version where both files assign one
> **`bump_last_wins`** the files after one version has been set, and after another
-/

namespace Launcher

namespace Tree

variable {tree : Tree} {path : Path} {cs : List Char}

/-- What can be read is there. -/
theorem has_of_readChars (hread : tree.readChars path = .ok cs) : tree.has path = .ok true := by
  obtain ⟨place, content, hplace, hfile, -⟩ := readChars_eq_ok hread
  obtain ⟨hfault, hwalk⟩ := placeOf_eq_ok_iff.mp hplace
  unfold has look
  rw [hfault, hwalk]
  simp only [hfile]
  rfl

end Tree

namespace Release

variable {root : Path} {given : Text} {version : String} {file : VersionFile} {machine : Machine}
  {located : Located}

/-- The file can be read, and its first assignment cuts its text into these parts. -/
def FirstAt (root : Path) (file : VersionFile) (machine : Machine) (located : Located) : Prop :=
  ∃ text, contents root file machine = .ok text ∧ Located.find? (key file) text = some located

/-- What stands between the first two quotes. -/
def quoted (cs : List Char) : List Char :=
  ((cs.dropWhile (· != '"')).drop 1).takeWhile (· != '"')

/-- The assignment of a version has it in quotes. -/
theorem quoted_written {key value : List Char} (hkey : '"' ∉ key) (hvalue : '"' ∉ value) :
    quoted (written key value) = value := by
  have hfront : '"' ∉ key ++ [' ', '=', ' '] := by simp [hkey]
  have hwritten : written key value = (key ++ [' ', '=', ' ']) ++ '"' :: (value ++ '"' :: []) := by
    simp [written]
  have hfirst := span_quote hfront (value ++ '"' :: [])
  have hsecond := span_quote hvalue []
  rw [List.span_eq_takeWhile_dropWhile] at hfirst hsecond
  unfold quoted
  rw [hwritten, (Prod.mk.inj hfirst).2]
  exact (Prod.mk.inj hsecond).1

/-- A file is made up of the parts that its first assignment cuts it into. -/
theorem FirstAt.contents_eq (h : FirstAt root file machine located) :
    contents root file machine = .ok (located.replace located.assignment) := by
  obtain ⟨text, hread, hlocated⟩ := h
  rw [hread, replace_assignment hlocated]

/-- A file that is read with the version in place of its first assignment assigns that version
first. -/
theorem FirstAt.replaced {after : Machine} (h : FirstAt root file machine located)
    (hversion : normalize given = .ok version)
    (hafter : contents root file after
      = .ok (located.replace (written (key file) version.toList))) :
    FirstAt root file after { located with assignment := written (key file) version.toList } := by
  obtain ⟨text, -, hlocated⟩ := h
  exact ⟨_, hafter, find?_replace (isKey_key file) (isPlain_of_normalize hversion) hlocated⟩

/-- A version is set in a file that assigns one, and the other file is as before. -/
theorem bumpFile_of_firstAt (hversion : normalize given = .ok version)
    (h : FirstAt root file machine located) :
    ∃ after, (bumpFile root version file).on machine = (.ok (), after) ∧
      contents root file after = .ok (located.replace (written (key file) version.toList)) ∧
      ∀ other, other ≠ file → contents root other after = contents root other machine ∧
        after.files.look (pathBelow root other) = machine.files.look (pathBelow root other) := by
  obtain ⟨text, hread, hlocated⟩ := h
  have houtcome := bumpFile_outcome hversion root file machine
  generalize hbumped : (bumpFile root version file).on machine = bumped at houtcome
  cases houtcome with
  | unread hfault =>
    rw [hread] at hfault
    cases hfault
  | missing hlacks =>
    obtain ⟨other, hother, hnone⟩ := hlacks
    rw [hread] at hother
    cases hother
    rw [hlocated] at hnone
    cases hnone
  | @done after hset hothers =>
    obtain ⟨other, cut, hother, hcut, hafter⟩ := hset
    rw [hread] at hother
    cases hother
    rw [hlocated] at hcut
    cases hcut
    exact ⟨after, rfl, hafter, hothers⟩

/-- The files of a release. -/
def bothPaths (root : Path) : List Path := [pathBelow root .package, pathBelow root .project]

/-- A project file that assigns a version is there. -/
theorem FirstAt.has (h : FirstAt root .project machine located) :
    machine.files.has (pathBelow root .project) = .ok true := by
  obtain ⟨text, hread, -⟩ := h
  exact Tree.has_of_readChars hread

/-- **Setting a version succeeds** where both files assign one, and replaces the first assignment in
each of them. -/
theorem bump_of_firstAt {first : VersionFile → Located} (hversion : normalize given = .ok version)
    (hfirst : ∀ file, FirstAt root file machine (first file)) :
    ∃ after, (bump root version).on machine = (.ok (bothPaths root), after) ∧
      ∀ file, contents root file after
        = .ok ((first file).replace (written (key file) version.toList)) := by
  obtain ⟨next, hpackage, hset, hothers⟩ := bumpFile_of_firstAt hversion (hfirst .package)
  -- setting the package file leaves the project file as it was
  obtain ⟨hsame, -⟩ := hothers .project nofun
  have hproject : FirstAt root .project next (first .project) := by
    obtain ⟨text, hread, hlocated⟩ := hfirst .project
    exact ⟨text, hsame.trans hread, hlocated⟩
  obtain ⟨after, hlast, hset', hothers'⟩ := bumpFile_of_firstAt hversion hproject
  refine ⟨after, ?_, fun file => ?_⟩
  · have hget : (get : Action Machine).on next = (.ok next, next) := rfl
    unfold bump
    rw [Action.on_bind_ok hpackage, Action.on_bind_ok hget,
      Action.on_bind_ok (Action.on_liftExcept_of_eq hproject.has next), if_pos rfl,
      Action.on_bind_ok hlast]
    rfl
  · cases file with
    | package => exact (hothers' .package nofun).1.trans hset
    | project => exact hset'

/-- **The version set last is the one that stands.** Where both files of a release assign a version,
setting another one succeeds. Each file is then its text before with the assignment of that version
in place of the first one, and with the text before and behind as it was. That assignment is the
first one of the file now, at the same place, with the version in its quotes. Setting a second
version after it leaves what setting the second one alone leaves, and setting the same one again
changes neither file. -/
theorem bump_last_wins {first : VersionFile → Located} (hversion : normalize given = .ok version)
    (hfirst : ∀ file, FirstAt root file machine (first file)) :
    ∃ after, (bump root version).on machine = (.ok (bothPaths root), after) ∧
      (∀ file,
        contents root file machine = .ok ((first file).replace (first file).assignment) ∧
        contents root file after
          = .ok ((first file).replace (written (key file) version.toList)) ∧
        FirstAt root file after
          { first file with assignment := written (key file) version.toList } ∧
        quoted (written (key file) version.toList) = version.toList) ∧
      ∀ given' version', normalize given' = .ok version' → ∃ twice once,
        (bump root version').on after = (.ok (bothPaths root), twice) ∧
        (bump root version').on machine = (.ok (bothPaths root), once) ∧
        SameFiles root once twice ∧ (version' = version → SameFiles root after twice) := by
  obtain ⟨after, hbump, hafter⟩ := bump_of_firstAt hversion hfirst
  have hnow : ∀ file, FirstAt root file after
      { first file with assignment := written (key file) version.toList } := fun file =>
    (hfirst file).replaced hversion (hafter file)
  refine ⟨after, hbump, fun file => ⟨(hfirst file).contents_eq, hafter file, hnow file, ?_⟩, ?_⟩
  · exact quoted_written (isKey_key file).quote (isPlain_of_normalize hversion).quote
  · intro given' version' hversion'
    obtain ⟨twice, htwice, hsecond⟩ := bump_of_firstAt hversion' hnow
    obtain ⟨once, honce, hlone⟩ := bump_of_firstAt hversion' hfirst
    refine ⟨twice, once, htwice, honce, fun file => ?_, fun hsame file => ?_⟩
    · -- the same text stands in front of the assignment and behind it
      exact (hsecond file).trans (hlone file).symm
    · rw [hsame] at hsecond
      exact (hsecond file).trans (hafter file).symm

/-! ## A release that assigns the version twice in its project file -/

/-- The text of a project file whose first assignment runs over two lines. -/
def projectText (version : String) : String :=
  "[project]\nversion =\n\"" ++ version ++ "\"\n[tool.other]\nversion = \"7\"\n"

/-- A machine with a release that assigns a version in both files. -/
def fullRelease (version : String) : Machine :=
  Machine.fresh ⟨.plain, ["home"]⟩ workRoot none .linux 80
    ⟨[(workRoot.location, .directory), ((workRoot.child "lodestar").location, .directory),
      ((pathBelow workRoot .package).location, .file (.text (packageText version))),
      ((pathBelow workRoot .project).location, .file (.text (projectText version)))]⟩

/-- What the first assignment cuts a file of this release into. -/
def fullReleaseFirst : VersionFile → Located
  | .package => ⟨"\"\"\"Pkg.\"\"\"\n\n".toList, "__version__ = \"0.1.0\"".toList, ['\n']⟩
  | .project =>
    ⟨"[project]\n".toList, "version =\n\"0.1.0\"".toList,
      "\n[tool.other]\nversion = \"7\"\n".toList⟩

/-- A candidate is set in both files, and the final version after it. -/
theorem fullRelease_last_wins :
    normalize " v2.0.0rc1\n" = .ok "2.0.0rc1" ∧ normalize "2.0.0" = .ok "2.0.0" ∧
    ∃ candidate twice once,
      (bump workRoot "2.0.0rc1").on (fullRelease "0.1.0") = (.ok (bothPaths workRoot), candidate) ∧
      (bump workRoot "2.0.0").on candidate = (.ok (bothPaths workRoot), twice) ∧
      (bump workRoot "2.0.0").on (fullRelease "0.1.0") = (.ok (bothPaths workRoot), once) ∧
      SameFiles workRoot once twice ∧
      contents workRoot .project candidate
        = .ok "[project]\nversion = \"2.0.0rc1\"\n[tool.other]\nversion = \"7\"\n".toList := by
  have hversion : normalize " v2.0.0rc1\n" = .ok "2.0.0rc1" := by rfl
  have hfinal : normalize "2.0.0" = .ok "2.0.0" := by rfl
  have hfirst : ∀ file, FirstAt workRoot file (fullRelease "0.1.0") (fullReleaseFirst file) := by
    intro file
    cases file with
    | package => exact ⟨(packageText "0.1.0").toList, by rfl, by rfl⟩
    | project => exact ⟨(projectText "0.1.0").toList, by rfl, by rfl⟩
  obtain ⟨candidate, hcandidate, hfiles, hnext⟩ := bump_last_wins hversion hfirst
  obtain ⟨twice, once, htwice, honce, hsame, -⟩ := hnext "2.0.0" "2.0.0" hfinal
  obtain ⟨-, hproject, -, -⟩ := hfiles .project
  exact ⟨hversion, hfinal, candidate, twice, once, hcandidate, htwice, honce, hsame, hproject⟩

end Release

end Launcher
