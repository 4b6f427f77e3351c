import CallLibrary.Command.Report
import CallLibrary.Command.Texts
import CallLibrary.Generator.Assembly

/-!
# Running the command

The reply to a request depends on the manifest that the request names and on nothing else. A library
is written only after all of it has been generated, so a request that fails writes no file and
prints nothing.
-/

namespace CallLibrary.Command

open Calls (GenerationError)
open Manifest (LoadError)

inductive CommandError
  | load (error : LoadError)
  | generation (error : GenerationError)
  | unwritable (path : String)
  deriving DecidableEq, Repr

def CommandError.message : CommandError → String
  | .load error => error.message
  | .generation error => error.message
  | .unwritable path => "failed to write '" ++ path ++ "'"

inductive Reply
  | print (text : String)
  /-- A file to write in a directory that is made if needed. -/
  | save (directory file text : String)
  deriving DecidableEq, Repr

def Request.manifest? : Request → Option String
  | .generate manifest _ => some manifest
  | .check manifest => some manifest
  | .completions _ => none
  | .help _ => none
  | .version => none

/-- The options from a file's manifest and the library that they give. -/
def generate (manifest : String) (content : Except Workspace.Failure String) :
    Except CommandError (Interface.Options × String) := do
  let m ← (Manifest.ofFile manifest content).mapError .load
  let source ← (Generator.render m.options).mapError .generation
  return (m.options, source)

/-- The reply to a request, given the files that it may read. -/
def Request.reply (request : Request) (texts : Texts)
    (read : String → Except Workspace.Failure String) : Except CommandError Reply :=
  match request with
  | .generate manifest output => do
    let (options, source) ← Command.generate manifest (read manifest)
    match output with
    | none => return .print source
    | some directory => return .save directory (Generator.fileName options) source
  | .check manifest => do
    let (options, _) ← Command.generate manifest (read manifest)
    return .print (report manifest options)
  | .completions shell => return .print (texts.script shell)
  | .help topic => return .print (texts.help topic)
  | .version => return .print versionText

def savedText (directory file : String) : String :=
  "Generated: " ++ Workspace.Path.join directory file ++ "\n"

/-- The end of a run: its exit status, what it printed and the workspace that it leaves. -/
structure Outcome where
  status : Nat
  output : String
  workspace : Workspace
  deriving DecidableEq, Repr

def failureStatus : Nat := 1

def usageStatus : Nat := 2

/-- Writes a file in a directory that is made if needed. Directories that were made stay even if
others cannot be made or the file cannot be written. -/
def save (w : Workspace) (directory file text : String) : Outcome :=
  let made := w.makeDirectory directory
  match made.failure? with
  | some _ => ⟨failureStatus, "", made.workspace⟩
  | none =>
    match made.workspace.write (Workspace.Path.join directory file) (ResourceId.utf8 text) with
    | .error _ => ⟨failureStatus, "", made.workspace⟩
    | .ok written => ⟨0, savedText directory file, written⟩

def run (w : Workspace) (arguments : List String) (texts : Texts := .firstLines) : Outcome :=
  match Request.ofArguments arguments with
  | .error _ => ⟨usageStatus, "", w⟩
  | .ok request =>
    match request.reply texts w.read with
    | .error _ => ⟨failureStatus, "", w⟩
    | .ok (.print text) => ⟨0, text, w⟩
    | .ok (.save directory file text) => save w directory file text

end CallLibrary.Command
