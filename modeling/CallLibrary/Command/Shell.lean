/-!
# Shells

The shells that the command can be completed in.
-/

namespace CallLibrary.Command

inductive Shell
  | bash
  | elvish
  | fish
  | powershell
  | zsh
  deriving DecidableEq, Repr

namespace Shell

def all : List Shell := [.bash, .elvish, .fish, .powershell, .zsh]

def name : Shell → String
  | .bash => "bash"
  | .elvish => "elvish"
  | .fish => "fish"
  | .powershell => "powershell"
  | .zsh => "zsh"

def ofName? (name : String) : Option Shell := all.find? fun shell => shell.name == name

end Shell

end CallLibrary.Command
