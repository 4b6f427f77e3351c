import CallLibrary.Interface.Parameter
import CallLibrary.ResourceId
import CallLibrary.Solidity.Identifier

/-!
# Violations

What a well-formed manifest may do wrong. A violation has a wording and a subject, the name or text
in the manifest that it is about.
-/

namespace CallLibrary

open Interface (Parameter)
open Solidity (NameDefect)

/-- A rule that a manifest breaks. The context of a name says what it would have named. -/
inductive Violation
  /-- A rule with a wording of its own, about a subject. -/
  | rule (message subject : String)
  /-- A name that the language keeps for itself. -/
  | reservedName (name context : String)
  /-- A name that is no identifier. -/
  | badName (name context : String) (defect : NameDefect)
  deriving DecidableEq, Repr

namespace Violation

/-- The wording for a text that takes too many bytes. -/
def tooLong (what name : String) (limit : Nat) : String :=
  what ++ " '" ++ name ++ "' is " ++ toString name.utf8ByteSize ++ " bytes long, at most "
    ++ toString limit ++ " are allowed"

def emptySystemName : Violation := .rule "system name cannot be empty" ""

def longSystemName (name : String) : Violation :=
  .rule (tooLong "system name" name ResourceId.nameBytes) name

def longNamespace (name : String) : Violation :=
  .rule (tooLong "namespace" name ResourceId.namespaceBytes) name

def badResourceId (id : String) : Violation :=
  .rule "resource id must be '0x' followed by 64 hex digits" id

def emptyImportPath (symbol : String) : Violation :=
  .rule ("import '" ++ symbol ++ "' has an empty path") symbol

/-- A parameter that has to be named, at a position of its owner. -/
def unnamedParameter (owner : String) (position : Nat) (parameter : Parameter) : Violation :=
  .rule ("parameter " ++ toString position ++ " ('" ++ parameter.declaration ++ "') of '" ++ owner
    ++ "' must be named") owner

def message : Violation → String
  | .rule message _ => message
  | .reservedName name _ => "'" ++ name ++ "' is a Solidity reserved word"
  | .badName name context _ => "invalid " ++ context ++ " name '" ++ name ++ "'"

/-- The text in the manifest that a violation is about. -/
def subject : Violation → String
  | .rule _ subject => subject
  | .reservedName name _ => name
  | .badName name _ _ => name

/-- The code by which tools know a violation. -/
def code : Violation → String
  | .rule _ _ => "syslib::validation_error"
  | .reservedName _ _ => "syslib::reserved_keyword"
  | .badName _ _ _ => "syslib::invalid_identifier"

def help? : Violation → Option String
  | .rule _ _ => none
  | .reservedName name _ =>
    some ("rename '" ++ name ++ "' to something else, e.g. '_" ++ name ++ "' or '" ++ name
      ++ "Value'")
  | .badName _ _ defect =>
    some (defect.reason ++ ". Use only letters, numbers, underscores and '$', "
      ++ "starting with a letter, underscore or '$'.")

/-- The remark at the place of a violation. -/
def remark : Violation → String
  | .rule message _ => message
  | .reservedName _ _ => "reserved word used here"
  | .badName _ _ _ => "invalid identifier"

end Violation

end CallLibrary
