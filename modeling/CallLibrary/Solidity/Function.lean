import CallLibrary.Interface.Parameter
import CallLibrary.Layout.Builder

/-!
# Functions of a library

Functions of a generated library are internal or private. The keyword for writing the state is the
absence of one.
-/

namespace CallLibrary.Solidity

open Interface (Parameter)
open Layout (Fragment)

/-- What a function's signature says about its use of the state. -/
inductive Access
  | writing
  | view
  | pure
  deriving DecidableEq, Repr

/-- The keyword in a signature, with the space before it. -/
def Access.suffix : Access → String
  | .writing => ""
  | .view => " view"
  | .pure => " pure"

def parameterList (parameters : List Parameter) : String :=
  String.intercalate ", " (parameters.map (·.declaration))

/-- The return values in a signature, empty for a function that returns nothing. -/
def returnClause (returns : List Parameter) : String :=
  if returns.isEmpty then "" else "returns (" ++ parameterList returns ++ ")"

structure Function where
  name : String
  parameters : List Parameter := []
  isPrivate : Bool := false
  access : Access := .writing
  returns : List Parameter := []
  body : List Fragment := []
  deriving Repr

namespace Function

/-- The first line of a function, opening brace included. -/
def signature (f : Function) : String :=
  let clause := returnClause f.returns
  "function " ++ f.name ++ "(" ++ parameterList f.parameters ++ ")"
    ++ (if f.isPrivate then " private" else " internal")
    ++ f.access.suffix
    ++ (if clause.isEmpty then "" else " " ++ clause)
    ++ " \x7b"

def fragment (f : Function) : Fragment :=
  .block f.signature f.body (some "\x7d")

def source (f : Function) : String := Layout.render [f.fragment]

end Function

end CallLibrary.Solidity
