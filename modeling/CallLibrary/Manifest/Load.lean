import CallLibrary.Document.Json.Reader
import CallLibrary.Document.Toml.Reader
import CallLibrary.Manifest.Diagnostic
import CallLibrary.Manifest.Schema
import CallLibrary.Manifest.Validation
import CallLibrary.Workspace.Basic

/-!
# Loading a manifest

A manifest is a TOML or a JSON document. It is read first and checked as a whole afterwards, so a
manifest that was loaded satisfies all rules.
-/

namespace CallLibrary

open Document

inductive ManifestFormat
  | toml
  | json
  deriving DecidableEq, Repr

/-- The format of a file: JSON if its extension says so in letters of either case. -/
def ManifestFormat.ofPath (path : String) : ManifestFormat :=
  match Workspace.Path.fileExtension? path with
  | some name => if name.toList.map Char.toLower = "json".toList then .json else .toml
  | none => .toml

namespace Manifest

/-- The file that holds a manifest unless another one is named. -/
def standardFile : String := "system.toml"

/-- What is wrong with a source that cannot be read as a manifest. -/
def unreadable (source : Source) (style : Decimal.Style) : Failure → Diagnostic
  | .malformed => ⟨source.file, none, .malformed⟩
  | .misfit cause span => ⟨source.file, span, .misfit (cause.message style)⟩

/-- Reads a manifest without checking it. -/
def decode (format : ManifestFormat) (source : Source) : Except Diagnostic Manifest :=
  match format with
  | .toml =>
    (Toml.decode ((shape Toml.format).read Toml.format) source.text).mapError
      (unreadable source Toml.style)
  | .json =>
    (Json.decode ((shape Json.format).read Json.format) source.text).mapError
      (unreadable source Json.style)

def parse (format : ManifestFormat) (source : Source) : Except Diagnostic Manifest := do
  let m ← decode format source
  match m.validate with
  | .ok () => return m
  | .error violation => .error (source.diagnose violation)

/-- Why no manifest could be loaded from a file. -/
inductive LoadError
  | unreadable (path : String) (failure : Workspace.Failure)
  | rejected (diagnostic : Diagnostic)
  deriving DecidableEq, Repr

namespace LoadError

def message : LoadError → String
  | .unreadable path _ => "failed to read '" ++ path ++ "'"
  | .rejected diagnostic => diagnostic.problem.message

def help? : LoadError → Option String
  | .unreadable _ _ => some "check that the manifest path exists and is readable"
  | .rejected diagnostic => diagnostic.problem.help?

end LoadError

/-- The manifest in a file, given what reading the file gave. -/
def ofFile (path : String) (content : Except Workspace.Failure String) :
    Except LoadError Manifest :=
  match content with
  | .error failure => .error (.unreadable path failure)
  | .ok text => (parse (.ofPath path) ⟨text, path⟩).mapError .rejected

end Manifest

end CallLibrary
