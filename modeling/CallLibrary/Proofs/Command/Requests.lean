import CallLibrary.Command.Run
import CallLibrary.Proofs.Outcome

/-!
# What arguments ask for and what is generated

A manifest can be named behind a short option, or together with the long one. Whichever subcommand
it is named for, it is read in the same way.
-/

namespace CallLibrary.Command

open CallLibrary.Outcome

/-- What follows the name of a subcommand is read by the subcommand. -/
theorem ofArguments_verb (verb : Verb) (rest : List String) :
    Request.ofArguments (verb.name :: rest) = readArguments verb none {} rest := by
  have form : Argument.ofText verb.name = .word verb.name := by cases verb <;> decide
  have noHelp : verb.name ≠ "help" := by cases verb <;> decide
  have known : Verb.ofName? verb.name = some verb := by cases verb <;> decide
  simp only [Request.ofArguments, form, noHelp, if_false, known]
  cases readArguments verb none {} rest with
  | error e => rfl
  | ok request => rfl

theorem setValue_manifest {manifest : String} (given : manifest ≠ "") :
    RequestDraft.setValue {} .manifest manifest = .ok { manifest := some manifest } := by
  simp [RequestDraft.setValue, given]

/-- A name that is written together with the long option is taken as it is. -/
theorem ofArguments_long {manifest : String} (given : manifest ≠ "") :
    Request.ofArguments ["generate", "--manifest=" ++ manifest] =
      .ok (.generate manifest none) := by
  have form : Argument.ofText ("--manifest=" ++ manifest) =
      .long "manifest" (some manifest) := by
    simp [Argument.ofText, String.toList_append]
  have known : (Switch.allowed (some .generate)).find? (fun switch => switch.name == "manifest") =
      some .manifest := by decide
  have taken : RequestDraft.addLong {} (some .generate) "manifest" (some manifest) =
      .ok (.next { manifest := some manifest }) := by
    simp only [RequestDraft.addLong, known, RequestDraft.addSwitch, setValue_manifest given]
    rfl
  rw [show "generate" = Verb.generate.name from rfl, ofArguments_verb]
  simp only [readArguments, form, taken]
  rfl

/-- A word is the whole argument. -/
theorem eq_of_ofText_word {text word : String} (form : Argument.ofText text = .word word) :
    word = text := by
  unfold Argument.ofText at form
  split at form
  · cases form
  · simp only at form
    split at form
    · cases form
    · cases form
  · cases form
  · cases form
    rfl

/-- What is named behind the short option is taken, or it is refused. -/
theorem readValue_manifest (manifest : String) :
    (∃ e, readValue {} .manifest manifest = .error e) ∨
      readValue {} .manifest manifest = .ok { manifest := some manifest } := by
  unfold readValue
  split
  next value form =>
    rw [eq_of_ofText_word form]
    by_cases empty : manifest = ""
    · exact .inl ⟨.emptyValue "manifest", by simp [RequestDraft.setValue, empty, Switch.name]⟩
    · exact .inr (setValue_manifest empty)
  next => exact .inl ⟨_, rfl⟩

theorem readArguments_short {verb : Verb} (manifests : Switch.manifest ∈ Switch.allowed (some verb))
    (manifest : String) :
    readArguments verb none {} ["-m", manifest] =
      readValue {} .manifest manifest >>= fun draft => draft.finish verb := by
  have form : Argument.ofText "-m" = .short ['m'] := by decide
  have awaits : RequestDraft.addLetters {} (some verb) ['m'] = .ok (.await .manifest {}) := by
    revert manifests
    cases verb <;> decide
  simp only [readArguments, form, awaits]
  rfl

/-- Behind the short option a name is taken or refused, for both subcommands alike. -/
theorem ofArguments_short (manifest : String) :
    (∃ e, Request.ofArguments ["generate", "-m", manifest] = .error e ∧
      Request.ofArguments ["check", "-m", manifest] = .error e) ∨
    (Request.ofArguments ["generate", "-m", manifest] = .ok (.generate manifest none) ∧
      Request.ofArguments ["check", "-m", manifest] = .ok (.check manifest)) := by
  have generate : Request.ofArguments ["generate", "-m", manifest] =
      readValue {} .manifest manifest >>= fun draft => draft.finish .generate :=
    (ofArguments_verb .generate _).trans (readArguments_short (by decide) manifest)
  have check : Request.ofArguments ["check", "-m", manifest] =
      readValue {} .manifest manifest >>= fun draft => draft.finish .check :=
    (ofArguments_verb .check _).trans (readArguments_short (by decide) manifest)
  rw [generate, check]
  rcases readValue_manifest manifest with ⟨e, refused⟩ | taken
  · rw [refused]
    exact .inl ⟨e, rfl, rfl⟩
  · rw [taken]
    exact .inr ⟨rfl, rfl⟩

/-- A manifest comes from a file that could be read and satisfies the rules. -/
theorem ofFile_eq_ok {path : String} {content : Except Workspace.Failure String} {m : Manifest} :
    Manifest.ofFile path content = .ok m ↔
      ∃ text, content = .ok text ∧ Manifest.parse (.ofPath path) ⟨text, path⟩ = .ok m := by
  cases content with
  | error failure => simp [Manifest.ofFile]
  | ok text => simp [Manifest.ofFile, mapError_eq_ok]

/-- A library is generated exactly if the manifest can be loaded and its options can be rendered. -/
theorem generate_eq_ok {manifest source : String} {content : Except Workspace.Failure String}
    {options : Interface.Options} :
    generate manifest content = .ok (options, source) ↔
      ∃ m, Manifest.ofFile manifest content = .ok m ∧ m.options = options ∧
        Generator.render options = .ok source := by
  unfold generate
  rw [bind_eq_ok]
  simp only [mapError_eq_ok, bind_eq_ok, pure_eq_ok, Except.ok.injEq, Prod.mk.injEq]
  constructor
  · intro ⟨m, loaded, text, rendered, same, sameText⟩
    subst same sameText
    exact ⟨m, loaded, rfl, rendered⟩
  · intro ⟨m, loaded, same, rendered⟩
    subst same
    exact ⟨m, loaded, source, rendered, rfl, rfl⟩

/-- What is printed for a manifest that is generated without a directory, or checked. -/
theorem reply_of_generate {manifest source : String} {options : Interface.Options}
    {read : String → Except Workspace.Failure String}
    (generated : generate manifest (read manifest) = .ok (options, source)) (texts : Texts) :
    (Request.generate manifest none).reply texts read = .ok (.print source) ∧
      (Request.check manifest).reply texts read = .ok (.print (report manifest options)) := by
  simp only [Request.reply, generated]
  exact ⟨rfl, rfl⟩

/-- A file is saved for one kind of request only. -/
theorem reply_eq_save {request : Request} {texts : Texts}
    {read : String → Except Workspace.Failure String} {directory name text : String}
    (replied : request.reply texts read = .ok (.save directory name text)) :
    ∃ manifest options, request = .generate manifest (some directory) ∧
      generate manifest (read manifest) = .ok (options, text) ∧
      name = Generator.fileName options := by
  cases request with
  | generate manifest output =>
    obtain ⟨⟨options, source⟩, generated, replied⟩ := bind_eq_ok.mp replied
    cases output with
    | none => cases replied
    | some given =>
      cases replied
      exact ⟨manifest, options, rfl, generated, rfl⟩
  | check manifest =>
    obtain ⟨_, _, replied⟩ := bind_eq_ok.mp replied
    cases replied
  | completions shell => cases replied
  | help topic => cases replied
  | version => cases replied

end CallLibrary.Command
