import CallLibrary.Manifest.Violation
import CallLibrary.Text.Span

/-!
# Diagnostics

What is wrong with a manifest's text, and where. A violation is shown at the first place where its
subject stands between double quotes, or else at the first place where it stands at all.
-/

namespace CallLibrary

open Text (Span)

/-- The text of a manifest and the name of its file. -/
structure Source where
  text : String
  file : String
  deriving DecidableEq, Repr

inductive Problem
  /-- It is no document of its format. -/
  | malformed
  /-- The document does not have the structure of a manifest. -/
  | misfit (wording : String)
  | violation (violation : Violation)
  deriving DecidableEq, Repr

namespace Problem

def message : Problem → String
  | .malformed => "failed to parse system manifest: the document is malformed"
  | .misfit wording => "failed to parse system manifest: " ++ wording
  | .violation v => v.message

/-- The code by which tools know a problem. -/
def code : Problem → String
  | .malformed => "syslib::parse_error"
  | .misfit _ => "syslib::parse_error"
  | .violation v => v.code

def help? : Problem → Option String
  | .malformed => none
  | .misfit _ => none
  | .violation v => v.help?

/-- The remark at the place of a problem. -/
def remark : Problem → String
  | .malformed => "parse error here"
  | .misfit _ => "parse error here"
  | .violation v => v.remark

end Problem

/-- A problem in a file and its place, if that is known. -/
structure Diagnostic where
  file : String
  span : Option Span
  problem : Problem
  deriving DecidableEq, Repr

namespace Source

/-- The first place where a name stands between double quotes, or else the first place where it
stands. -/
def find? (source : Source) (name : String) : Option Span :=
  let needle := name.toList
  let characters := source.text.toList
  if name.isEmpty then none
  else match Text.find? ('"' :: needle ++ ['"']) characters with
    | some offset => some ⟨offset + 1, Text.byteLength needle⟩
    | none => (Text.find? needle characters).map fun offset => ⟨offset, Text.byteLength needle⟩

def diagnose (source : Source) (violation : Violation) : Diagnostic :=
  ⟨source.file, source.find? violation.subject, .violation violation⟩

end Source

end CallLibrary
