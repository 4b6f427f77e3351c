import CallLibrary.Proofs.Outcome
import CallLibrary.Proofs.Workspace.Paths
import CallLibrary.Workspace.Basic

/-!
# What making and writing do to a workspace

Making directories puts them where nothing was, also if it fails half way, and writing a file
changes the one place that its path leads to. Everything else in the workspace stays as it is, and
so do the places that other paths lead to.
-/

namespace CallLibrary.Workspace

open Outcome

def file? (w : Workspace) (names : List String) : Option (List UInt8) :=
  match w.lookup names with
  | some (.file bytes) => some bytes
  | _ => none

theorem lookup_cons_eq (place other : List String) (content : Content)
    (rest : List (List String × Content)) :
    ((place, content) :: rest).lookup other =
      if other = place then some content else rest.lookup other := by
  by_cases here : other = place
  · simp [here]
  · have differs : (other == place) = false := beq_false_of_ne here
    simp [List.lookup_cons, differs, here]

theorem lookup_setEntry (names other : List String) (content : Content)
    (entries : List (List String × Content)) :
    (setEntry names content entries).lookup other =
      if other = names then some content else entries.lookup other := by
  induction entries with
  | nil => exact lookup_cons_eq names other content []
  | cons entry rest ih =>
    obtain ⟨place, old⟩ := entry
    simp only [setEntry]
    by_cases same : place = names
    · subst same
      rw [if_pos rfl, lookup_cons_eq, lookup_cons_eq]
      split
      · rfl
      · rfl
    · rw [if_neg same, lookup_cons_eq, lookup_cons_eq, ih]
      by_cases here : other = place
      · simp [here, same]
      · simp [here]

/-- Setting one place leaves all others as they are. -/
theorem lookup_set {names : List String} (below : names ≠ []) (w : Workspace) (content : Content)
    (other : List String) :
    (w.set names content).lookup other =
      if other = names then some content else w.lookup other := by
  unfold lookup set
  by_cases top : other = []
  · have differs : [] ≠ names := Ne.symm below
    simp [top, differs]
  · simp [top, lookup_setEntry]

theorem ne_nil_of_lookup {w : Workspace} {names : List String} (absent : w.lookup names = none) :
    names ≠ [] := by
  rintro rfl
  cases absent

theorem file?_set {names : List String} (below : names ≠ []) (w : Workspace) (bytes : List UInt8)
    (other : List String) :
    (w.set names (.file bytes)).file? other =
      if other = names then some bytes else w.file? other := by
  unfold file?
  rw [lookup_set below]
  by_cases here : other = names
  · simp [here]
  · simp [here]

/-! ## Walking along a path -/

/-- Where one part of a path leads from a place. -/
inductive Leads (w : Workspace) (part : String) (place : List String) : List String → Prop
  | stay (stands : w.lookup place = some .directory) (idle : Path.isIdle part = true) :
      Leads w part place place
  | up (stands : w.lookup place = some .directory) (above : part = "..") :
      Leads w part place place.dropLast
  | down (stands : w.lookup place = some .directory) (leads : Path.isIdle part = false)
      (below : part ≠ "..") (short : part.utf8ByteSize ≤ nameLimit)
      (found : (w.lookup (place ++ [part])).isSome) : Leads w part place (place ++ [part])

/-- A step that succeeds leads on from a directory in one of these ways. -/
theorem step_eq_ok {w : Workspace} {place next : List String} {part : String} :
    w.step place part = .ok next ↔ w.Leads part place next := by
  constructor
  · intro stepped
    unfold step at stepped
    split at stepped
    next stands =>
      split at stepped
      next idle =>
        cases stepped
        exact .stay stands idle
      next leads =>
        split at stepped
        next above =>
          cases stepped
          exact .up stands above
        next below =>
          split at stepped
          · cases stepped
          next short =>
            split at stepped
            next found =>
              cases stepped
              exact .down stands (by simpa using leads) below (by omega) found
            next => cases stepped
    next => cases stepped
    next => cases stepped
  · intro leads
    cases leads with
    | stay stands idle => simp [step, stands, idle]
    | up stands above =>
      subst above
      have notIdle : Path.isIdle ".." = false := by decide
      simp [step, stands, notIdle]
    | down stands leads below short found =>
      have fits : ¬ nameLimit < part.utf8ByteSize := by omega
      simp [step, stands, leads, below, fits, found]

/-- Where a step from a directory finds nothing, nothing there has the wanted name. -/
theorem absent_of_step {w : Workspace} {place : List String} {part : String}
    (stands : w.lookup place = some .directory)
    (missing : w.step place part = .error .notFound) : w.lookup (place ++ [part]) = none := by
  simp only [step, stands] at missing
  split at missing
  · cases missing
  split at missing
  · cases missing
  split at missing
  · cases missing
  split at missing
  · cases missing
  next absent => simpa using absent

/-- A name leads to the entry of that name in a directory. -/
theorem step_name {w : Workspace} {place next : List String} {name : String}
    (isName : Path.IsName name) (stepped : w.step place name = .ok next) :
    w.lookup place = some .directory ∧ next = place ++ [name] := by
  cases step_eq_ok.mp stepped with
  | stay stands idle => simp [isName.leads] at idle
  | up _ above => exact absurd above isName.below
  | down stands => exact ⟨stands, rfl⟩

/-- The directories of a workspace and the places that are there have been kept. -/
structure Keeps (before after : Workspace) : Prop where
  directories : ∀ names, before.lookup names = some .directory →
    after.lookup names = some .directory
  places : ∀ names, (before.lookup names).isSome → (after.lookup names).isSome

theorem Leads.of_keeps {before after : Workspace} (keeps : Keeps before after) {part : String}
    {place next : List String} (leads : before.Leads part place next) :
    after.Leads part place next := by
  cases leads with
  | stay stands idle => exact .stay (keeps.directories _ stands) idle
  | up stands above => exact .up (keeps.directories _ stands) above
  | down stands leads below short found =>
    exact .down (keeps.directories _ stands) leads below short (keeps.places _ found)

/-- There a walk can be repeated. -/
theorem walk_of_keeps {before after : Workspace} (keeps : Keeps before after)
    {parts first last : List String} (walked : parts.foldlM before.step first = .ok last) :
    parts.foldlM after.step first = .ok last := by
  induction parts generalizing first with
  | nil => exact walked
  | cons part rest ih =>
    obtain ⟨next, stepped, later⟩ := bind_eq_ok.mp walked
    have steppedAgain := step_eq_ok.mpr ((step_eq_ok.mp stepped).of_keeps keeps)
    exact bind_eq_ok.mpr ⟨next, steppedAgain, ih later⟩

/-! ## The end of a path -/

/-- What is found at the end of a path stands there. -/
theorem lookup_target {w : Workspace} {start parts place : List String} {found : Option Content}
    (targeted : w.target start parts = .ok (place, found)) : w.lookup place = found := by
  obtain ⟨above, _, targeted⟩ := bind_eq_ok.mp targeted
  simp only at targeted
  split at targeted
  next =>
    cases targeted
    rfl
  next missing =>
    split at targeted
    next stands =>
      cases targeted
      exact absent_of_step stands missing
    next => cases targeted
  next => cases targeted

/-- A path that ends in a name leads to the entry of that name in the directory above. -/
theorem target_name {w : Workspace} {start above place : List String} {name : String}
    {found : Option Content} (isName : Path.IsName name)
    (targeted : w.target start (above ++ [name]) = .ok (place, found)) :
    ∃ directory, above.foldlM w.step start = .ok directory ∧
      w.lookup directory = some .directory ∧ place = directory ++ [name] := by
  have entry : (above ++ [name]).getLast?.getD "" = name := by simp
  obtain ⟨directory, walked, targeted⟩ := bind_eq_ok.mp targeted
  rw [List.dropLast_concat] at walked
  simp only [entry] at targeted
  split at targeted
  next stepped =>
    obtain ⟨stands, rfl⟩ := step_name isName stepped
    cases targeted
    exact ⟨directory, walked, stands, rfl⟩
  next =>
    split at targeted
    next stands =>
      cases targeted
      exact ⟨directory, walked, stands, rfl⟩
    next => cases targeted
  next => cases targeted

/-! ## Making directories -/

/-- Directories have been made where nothing was, and nothing else has changed. -/
structure Grows (before after : Workspace) : Prop where
  here : after.workingDirectory = before.workingDirectory
  kept : ∀ names content, before.lookup names = some content → after.lookup names = some content
  made : ∀ names, before.lookup names = none →
    after.lookup names = none ∨ after.lookup names = some .directory

theorem Grows.refl (w : Workspace) : Grows w w where
  here := rfl
  kept _ _ stands := stands
  made _ absent := .inl absent

theorem Grows.trans {first second third : Workspace} (one : Grows first second)
    (two : Grows second third) : Grows first third where
  here := two.here.trans one.here
  kept names content stands := two.kept names content (one.kept names content stands)
  made names absent := by
    rcases one.made names absent with still | made
    · exact two.made names still
    · exact .inr (two.kept names _ made)

/-- Making directories touches no file. -/
theorem Grows.file? {before after : Workspace} (grows : Grows before after) (names : List String) :
    after.file? names = before.file? names := by
  unfold Workspace.file?
  cases stands : before.lookup names with
  | none =>
    rcases grows.made names stands with still | made
    · simp [still]
    · simp [made]
  | some content => rw [grows.kept names content stands]

theorem grows_set_directory {w : Workspace} {place : List String} (absent : w.lookup place = none) :
    Grows w (w.set place .directory) where
  here := rfl
  kept other content stands := by
    rw [lookup_set (ne_nil_of_lookup absent)]
    split
    next here => simp [here, absent] at stands
    next => exact stands
  made other nothing := by
    rw [lookup_set (ne_nil_of_lookup absent)]
    split
    · exact .inr rfl
    · exact .inl nothing

theorem grows_enter {w after : Workspace} {start parts : List String}
    (entered : w.enter start parts = .ok after) : Grows w after := by
  obtain ⟨⟨place, found⟩, targeted, entered⟩ := bind_eq_ok.mp entered
  have stands := lookup_target targeted
  cases found with
  | none =>
    cases entered
    exact grows_set_directory stands
  | some content =>
    cases content with
    | directory =>
      cases entered
      exact .refl w
    | file bytes => cases entered

theorem grows_attempt {w : Workspace} {change : Except Failure Workspace}
    (grows : ∀ after, change = .ok after → Grows w after) :
    Grows w (w.attempt change).workspace := by
  cases change with
  | error e => exact .refl w
  | ok after => exact grows after rfl

/-- An attempt at making directories makes some of them, and that is all it does. -/
theorem grows_enterAll (w : Workspace) (start : List String) (directories : List (List String)) :
    Grows w (w.enterAll start directories).workspace := by
  induction directories with
  | nil => exact .refl w
  | cons parts above ih =>
    unfold enterAll
    split
    · dsimp only
      split
      · exact ih
      · exact ih.trans (grows_attempt fun _ => grows_enter)
    · exact grows_attempt fun _ => grows_enter

theorem grows_makeDirectory (w : Workspace) (path : String) :
    Grows w (w.makeDirectory path).workspace := by
  unfold makeDirectory
  split
  · exact .refl w
  · exact grows_enterAll w _ _

-- A directory is not made under the name of a dot in it, but the one above stays.
example : (empty.makeDirectory "../out/new/.").failure? = some .notFound ∧
    (empty.makeDirectory "../out/new/.").workspace.lookup ["out"] = some .directory := by
  decide

theorem checkPath_of_makeDirectory {w : Workspace} {path : String}
    (made : (w.makeDirectory path).failure? = none) : checkPath path = .ok () := by
  unfold makeDirectory at made
  split at made
  next => cases made
  next checked => exact checked

/-! ## Writing a file -/

/-- A file with a name is written in the directory that the parts before the name lead to. -/
theorem write_eq_ok {w after : Workspace} {path name : String} {above : List String}
    {bytes : List UInt8} (spelled : Path.parts path = above ++ [name])
    (isName : Path.IsName name) (written : w.write path bytes = .ok after) :
    ∃ directory, above.foldlM w.step (w.start path) = .ok directory ∧
      w.lookup directory = some .directory ∧
      w.lookup (directory ++ [name]) ≠ some .directory ∧
      after = w.set (directory ++ [name]) (.file bytes) := by
  obtain ⟨_, written⟩ := check_then_eq_ok.mp written
  obtain ⟨⟨place, found⟩, targeted, written⟩ := bind_eq_ok.mp written
  have here := lookup_target targeted
  rw [spelled] at targeted
  obtain ⟨directory, walked, stands, rfl⟩ := target_name isName targeted
  refine ⟨directory, walked, stands, ?_⟩
  rw [here]
  cases found with
  | none =>
    cases written
    exact ⟨nofun, rfl⟩
  | some content =>
    cases content with
    | directory => cases written
    | file old =>
      cases written
      exact ⟨nofun, rfl⟩

/-- A file that is written in the place of a file or of nothing takes no place away. -/
theorem keeps_set_file {w : Workspace} {place : List String} (below : place ≠ [])
    (noDirectory : w.lookup place ≠ some .directory) (bytes : List UInt8) :
    Keeps w (w.set place (.file bytes)) := by
  constructor
  · intro names stands
    have differs : names ≠ place := fun same => noDirectory (same ▸ stands)
    rw [lookup_set below, if_neg differs, stands]
  · intro names found
    rw [lookup_set below]
    split
    · rfl
    · exact found

/-- Exactly one file is written: the one of the given name in the directory at a path. -/
structure SavesFile (before after : Workspace) (path name : String) (bytes : List UInt8) :
    Prop where
  here : after.workingDirectory = before.workingDirectory
  saved : ∃ directory, after.resolve path = .ok directory ∧
    after.lookup directory = some .directory ∧
    ∀ names, after.file? names =
      if names = directory ++ [name] then some bytes else before.file? names

/-- Making a directory and writing a file in it changes this one file. -/
theorem savesFile_of_write {w after : Workspace} {path name : String} {bytes : List UInt8}
    (isName : Path.IsName name) (makes : (w.makeDirectory path).failure? = none)
    (writes : (w.makeDirectory path).workspace.write (Path.join path name) bytes = .ok after) :
    SavesFile w after path name bytes := by
  have checked := checkPath_of_makeDirectory makes
  have grown := grows_makeDirectory w path
  generalize (w.makeDirectory path).workspace = made at grown writes
  have given : path ≠ "" := by
    intro empty
    subst empty
    cases checked
  obtain ⟨above, joined, spelled⟩ := Path.exists_parts_join given isName.whole
  obtain ⟨directory, walked, stands, noDirectory, rfl⟩ := write_eq_ok joined isName writes
  have below : directory ++ [name] ≠ [] := by simp
  have apart : directory ≠ directory ++ [name] := by simp
  have startsAlike : made.start (Path.join path name) = made.start path := by
    unfold start
    rw [Path.isAbsolute_join given]
  rw [startsAlike] at walked
  have still : (made.set (directory ++ [name]) (.file bytes)).lookup directory =
      some .directory := by
    rw [lookup_set below, if_neg apart, stands]
  have walkedAgain := walk_of_keeps (keeps_set_file below noDirectory bytes) walked
  refine ⟨grown.here, directory, check_then_eq_ok.mpr ⟨checked, ?_⟩, still, fun names => ?_⟩
  · rcases spelled with whole | slash
    · rw [whole]
      exact walkedAgain
    · -- The empty part behind the last slash stays in the directory.
      rw [slash, List.foldlM_append]
      refine bind_eq_ok.mpr ⟨_, walkedAgain, bind_eq_ok.mpr ⟨_, ?_, rfl⟩⟩
      exact step_eq_ok.mpr (.stay still rfl)
  · rw [file?_set below, grown.file?]

end CallLibrary.Workspace
