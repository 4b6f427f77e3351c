import CallLibrary.Command.Request

/-!
# Texts about the command

The scripts that complete the command in a shell and the texts that explain how it is used are made
from its definition elsewhere. Nothing that the command does depends on them, and here they are
known by their first lines only.
-/

namespace CallLibrary.Command

def versionText : String := "syslib 0.3.0\n"

/-- The texts that are printed on request and made elsewhere. -/
structure Texts where
  script : Shell → String
  help : Topic → String

def Shell.firstLine : Shell → String
  | .bash => "_syslib() \x7b"
  | .elvish => ""
  | .fish =>
    "# Print an optspec for argparse to handle cmd's options that are independent of any "
      ++ "subcommand."
  | .powershell => ""
  | .zsh => "#compdef syslib"

def Topic.firstLine : Topic → String
  | .program => "Generate typed Solidity call libraries from system manifests"
  | .verb .generate => "Generate a system library from a manifest"
  | .verb .check => "Validate a manifest without writing any code"
  | .verb .completions => "Generate shell completions"
  | .help => "Print this message or the help of the given subcommand(s)"

def Texts.firstLines : Texts where
  script shell := shell.firstLine ++ "\n"
  help topic := topic.firstLine ++ "\n"

end CallLibrary.Command
