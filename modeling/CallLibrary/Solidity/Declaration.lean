import CallLibrary.Interface.Basic
import CallLibrary.Solidity.Function
import CallLibrary.Solidity.Import
import CallLibrary.Solidity.Library

/-!
# Declarations

The declarations that a generated source file is made of, and the lines that each of them takes.
-/

namespace CallLibrary.Solidity

open Interface (ErrorSignature Parameter)
open Layout (Fragment)

/-- A declaration at file level or in a library. -/
inductive Declaration
  | error (signature : ErrorSignature)
  | valueType (name underlying : String)
  | constant (type name value : String) (comment : Option String)
  /-- The functions of a library made available on all values of a type. -/
  | binding (source target : String)
  | struct (name : String) (fields : List Parameter)
  | importing (statement : Import)
  | function (definition : Function)
  | library (definition : Library)
  | verbatim (fragments : List Fragment)
  deriving Repr

def errorLine (e : ErrorSignature) : String :=
  "error " ++ e.name ++ "(" ++ parameterList e.parameters ++ ");"

def errorLines (errors : List ErrorSignature) : List Fragment :=
  errors.map fun e => .line (errorLine e)

def Declaration.fragments : Declaration → List Fragment
  | .error signature => [.line (errorLine signature)]
  | .valueType name underlying => [.line ("type " ++ name ++ " is " ++ underlying ++ ";")]
  | .constant type name value comment =>
    let remark := match comment with
      | some text => [.comment text]
      | none => []
    remark ++ [.line (type ++ " constant " ++ name ++ " = " ++ value ++ ";")]
  | .binding source target => [.line ("using " ++ source ++ " for " ++ target ++ " global;")]
  | .struct name fields =>
    let body := fields.map fun field => .line (field.declaration ++ ";")
    [.block ("struct " ++ name ++ " \x7b") body (some "\x7d")]
  | .importing statement => [.line statement.statement]
  | .function definition => [definition.fragment]
  | .library definition => definition.fragments
  | .verbatim fragments => fragments

end CallLibrary.Solidity
