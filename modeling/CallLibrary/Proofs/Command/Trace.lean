import CallLibrary.Proofs.Command.Requests
import CallLibrary.Proofs.Manifest.DerivedNames
import CallLibrary.Proofs.Workspace.Entries

/-!
# What a run leaves behind

A run that fails has written no file and printed nothing: the library is written after all else has
succeeded, and a file is written as a whole or not at all. A run that succeeds changes nothing but
the file that it was asked to write, which holds the text that would have been printed otherwise.
The name of that file is the name of the library with an ending. Since the library is named by an
identifier, the file lies in the given directory and not elsewhere.
-/

namespace CallLibrary

open Solidity

/-- A library's name with an ending names a file in any directory. -/
theorem isName_of_isIdentifier {library : String} (identifier : IsIdentifier library) :
    Workspace.Path.IsName (library ++ ".sol") := by
  obtain ⟨first, rest, spelled, starts, continues⟩ := identifier
  have long : ∀ name : String, name.toList.length < 4 → library ++ ".sol" ≠ name := by
    intro name short same
    have lengths := congrArg (fun s => s.toList.length) same
    simp only [String.toList_append, List.length_append] at lengths
    have ending : ".sol".toList.length = 4 := by decide
    omega
  constructor
  · have noSlash : ¬ StartsName '/' ∧ ¬ ContinuesName '/' := by decide
    simp only [String.toList_append, spelled, List.mem_append, List.mem_cons, not_or]
    refine ⟨⟨?_, ?_⟩, by decide⟩
    · intro slash
      exact noSlash.1 (slash ▸ starts)
    · intro slash
      exact noSlash.2 (continues _ slash)
  · have notEmpty := long "" (by decide)
    have notDot := long "." (by decide)
    simp [Workspace.Path.isIdle, notEmpty, notDot]
  · exact long ".." (by decide)

namespace Command

open CallLibrary.Outcome

/-- A request has written a library into a directory: one file, with what is printed if there is no
directory to write to. -/
structure SavesLibrary (before after : Workspace) (manifest directory : String) (m : Manifest)
    (text : String) : Prop where
  loaded : Manifest.ofFile manifest (before.read manifest) = .ok m
  named : Workspace.Path.IsName (m.system.library ++ ".sol")
  saved : before.SavesFile after directory (m.system.library ++ ".sol") (ResourceId.utf8 text)
  asked : Request.ofArguments ["generate", "--manifest=" ++ manifest] =
    .ok (.generate manifest none)
  printed : ∀ arguments, Request.ofArguments arguments = .ok (.generate manifest none) →
    ∀ texts, run before arguments texts = ⟨0, text, before⟩

/-- What a request that succeeds does to a workspace. -/
def Request.Effect (before after : Workspace) : Request → Prop
  | .generate manifest (some directory) =>
    ∃ m text, SavesLibrary before after manifest directory m text
  | _ => after = before

/-- What is printed is no reply to a request to save. -/
theorem effect_of_print {request : Request} {texts : Texts}
    {read : String → Except Workspace.Failure String} {text : String}
    (replied : request.reply texts read = .ok (.print text)) (w : Workspace) :
    request.Effect w w := by
  unfold Request.Effect
  split
  next manifest directory =>
    obtain ⟨_, _, replied⟩ := bind_eq_ok.mp replied
    cases replied
  next => rfl

/-- How a run ends: it fails before anything is written, it prints the reply to a request, or it
saves a library. -/
theorem run_cases (w : Workspace) (arguments : List String) (texts : Texts) :
    (∃ status, status ≠ 0 ∧ run w arguments texts = ⟨status, "", w⟩) ∨
    (∃ request text, Request.ofArguments arguments = .ok request ∧
      request.reply texts w.read = .ok (.print text) ∧ run w arguments texts = ⟨0, text, w⟩) ∨
    ∃ manifest directory options text,
      Request.ofArguments arguments = .ok (.generate manifest (some directory)) ∧
      generate manifest (w.read manifest) = .ok (options, text) ∧
      run w arguments texts = save w directory (Generator.fileName options) text := by
  unfold run
  cases asked : Request.ofArguments arguments with
  | error e => exact .inl ⟨usageStatus, by decide, rfl⟩
  | ok request =>
    cases replied : request.reply texts w.read with
    | error e =>
      simp only [replied]
      exact .inl ⟨failureStatus, by decide, rfl⟩
    | ok reply =>
      cases reply with
      | print text =>
        simp only [replied]
        exact .inr (.inl ⟨request, text, rfl, replied, rfl⟩)
      | save directory name text =>
        obtain ⟨manifest, options, rfl, generated, rfl⟩ := reply_eq_save replied
        simp only [replied]
        exact .inr (.inr ⟨manifest, directory, options, text, rfl, generated, rfl⟩)

/-- Saving ends in one of two ways. -/
theorem save_cases {w : Workspace} {directory name text : String}
    (isName : Workspace.Path.IsName name) :
    ((save w directory name text).status = failureStatus ∧
      (save w directory name text).output = "" ∧
      ∀ names, (save w directory name text).workspace.file? names = w.file? names) ∨
    ((save w directory name text).status = 0 ∧
      w.SavesFile (save w directory name text).workspace directory name
        (ResourceId.utf8 text)) := by
  have grown := Workspace.grows_makeDirectory w directory
  unfold save
  dsimp only
  split
  · exact .inl ⟨rfl, rfl, grown.file?⟩
  next made =>
    split
    · exact .inl ⟨rfl, rfl, grown.file?⟩
    next written writes => exact .inr ⟨rfl, Workspace.savesFile_of_write isName made writes⟩

/-- The file of a generated library lies in its directory and not elsewhere. -/
theorem isName_fileName {manifest text : String} {content : Except Workspace.Failure String}
    {options : Interface.Options} (generated : generate manifest content = .ok (options, text)) :
    Workspace.Path.IsName (Generator.fileName options) := by
  obtain ⟨m, loaded, rfl, _⟩ := generate_eq_ok.mp generated
  obtain ⟨source, _, parsed⟩ := ofFile_eq_ok.mp loaded
  exact isName_of_isIdentifier (Manifest.valid_of_parse parsed).library.1

/-- What is saved is what is printed without a directory. -/
theorem savesLibrary_of_save {w after : Workspace} {manifest directory text : String}
    {options : Interface.Options}
    (generated : generate manifest (w.read manifest) = .ok (options, text))
    (saved : w.SavesFile after directory (Generator.fileName options) (ResourceId.utf8 text)) :
    ∃ m, SavesLibrary w after manifest directory m text := by
  have named := isName_fileName generated
  obtain ⟨m, loaded, rfl, _⟩ := generate_eq_ok.mp generated
  obtain ⟨_, read, _⟩ := ofFile_eq_ok.mp loaded
  have given : manifest ≠ "" := by
    intro empty
    subst empty
    cases read
  refine ⟨m, loaded, named, saved, ofArguments_long given, fun arguments asked texts => ?_⟩
  simp only [run, asked, (reply_of_generate generated texts).1]

/-- A run that fails prints nothing and leaves all files as they are. A run that succeeds writes one
file if it was asked to generate a library into a directory, and changes nothing otherwise. -/
theorem run_trace (w : Workspace) (arguments : List String) (texts : Texts) :
    ((run w arguments texts).status ≠ 0 → (run w arguments texts).output = "" ∧
      ∀ names, (run w arguments texts).workspace.file? names = w.file? names) ∧
    ((run w arguments texts).status = 0 → ∃ request, Request.ofArguments arguments = .ok request ∧
      request.Effect w (run w arguments texts).workspace) := by
  rcases run_cases w arguments texts with
    ⟨status, failed, ran⟩ | ⟨request, text, asked, replied, ran⟩ |
      ⟨manifest, directory, options, text, asked, generated, ran⟩
  · rw [ran]
    exact ⟨fun _ => ⟨rfl, fun _ => rfl⟩, fun succeeded => absurd succeeded failed⟩
  · rw [ran]
    exact ⟨fun failed => absurd rfl failed, fun _ => ⟨request, asked, effect_of_print replied w⟩⟩
  · rw [ran]
    rcases save_cases (w := w) (isName_fileName generated) with
      ⟨failed, printed, kept⟩ | ⟨succeeded, saved⟩
    · have notZero : failureStatus ≠ 0 := by decide
      exact ⟨fun _ => ⟨printed, kept⟩, fun succeeded => absurd (failed ▸ succeeded) notZero⟩
    · refine ⟨fun failed => absurd succeeded failed, fun _ => ?_⟩
      obtain ⟨m, saves⟩ := savesLibrary_of_save generated saved
      exact ⟨.generate manifest (some directory), asked, m, text, saves⟩

def depotWorkspace : Workspace :=
  Workspace.empty.add "system.toml"
    (.file (ResourceId.utf8 "[system]\nname = \"Depot\"\nlibrary = \"DepotCalls\"\n"))

theorem depot_run_trace :
    ((run depotWorkspace ["check", "-m", "depot.toml"]).status ≠ 0 ∧
      (run depotWorkspace ["check", "-m", "depot.toml"]).output = "" ∧
      ∀ names, (run depotWorkspace ["check", "-m", "depot.toml"]).workspace.file? names =
        depotWorkspace.file? names) ∧
    (run depotWorkspace ["generate", "-o", "/out"]).status = 0 ∧
      ∃ request, Request.ofArguments ["generate", "-o", "/out"] = .ok request ∧
        request.Effect depotWorkspace
          (run depotWorkspace ["generate", "-o", "/out"]).workspace := by
  have failed : (run depotWorkspace ["check", "-m", "depot.toml"]).status ≠ 0 := by
    decide +kernel
  have succeeded : (run depotWorkspace ["generate", "-o", "/out"]).status = 0 := by
    decide +kernel
  exact ⟨⟨failed, (run_trace depotWorkspace _ .firstLines).1 failed⟩, succeeded,
    (run_trace depotWorkspace _ .firstLines).2 succeeded⟩

end Command

end CallLibrary
