import CallLibrary.Interface.Parameter
import CallLibrary.Solidity.Declaration

/-!
# Wrappers of a call

A wrapper is a struct that carries the system to call and the account to call it as. The two
wrappers have the same fields and differ in the functions that they select.
-/

namespace CallLibrary.Calls

open Interface (Parameter)
open Solidity (Declaration)

/-- The struct that a call is made on. -/
inductive Wrapper
  /-- Calls go through the world. -/
  | world
  /-- Calls come from a root system and go past the world's dispatch. -/
  | root
  deriving DecidableEq, Repr

namespace Wrapper

def name : Wrapper → String
  | .world => "CallWrapper"
  | .root => "RootCallWrapper"

def declaration (w : Wrapper) : Declaration :=
  .struct w.name [.named "ResourceId" "systemId", .named "address" "from"]

/-- The struct as a type of parameters and results. -/
def value (w : Wrapper) : Parameter := ⟨w.name, some .memory, none⟩

/-- The struct as the first parameter of a function. -/
def receiver (w : Wrapper) : Parameter := ⟨w.name, some .memory, some "self"⟩

/-- The expression that makes a struct. -/
def construct (w : Wrapper) (systemId sender : String) : String :=
  w.name ++ "(" ++ systemId ++ ", " ++ sender ++ ")"

end Wrapper

end CallLibrary.Calls
