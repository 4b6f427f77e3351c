import CallLibrary.Calls.Argument
import CallLibrary.Calls.Wrapper

/-!
# Call forms

Each function of a system is given once per call form, under its own name and with its own
parameters and results. The forms differ in the parameter in front of these, the receiver:

* the direct form is called on the handle of the system and goes on to the forwarded form;
* the forwarded form is called on a wrapper and goes through the world. It refuses to run in a root
  system, and calls functions that only read as static calls;
* the root form is called on the root wrapper and goes past the world. A system of the root
  namespace has it for nonpayable functions only.
-/

namespace CallLibrary.Calls

open Interface (Function Mutability Parameter)
open Layout (Fragment)
open Solidity (Access)

/-- A calling convention. -/
inductive Form
  | direct
  | forwarded
  | root
  deriving DecidableEq, Repr

/-- All forms, in the order in which a library gives them. -/
def Form.all : List Form := [.direct, .forwarded, .root]

def Form.name : Form → String
  | .direct => "direct"
  | .forwarded => "forwarded"
  | .root => "root"

/-- The names of a library that the functions of all forms depend on. -/
structure Setting where
  /-- The type of the system's handle. -/
  handleType : String
  /-- The contract that declares the functions. -/
  interface : String
  /-- The error that refuses a forwarded call. -/
  guardError : String
  /-- Whether the system belongs to the root namespace. -/
  isRoot : Bool
  deriving DecidableEq, Repr

/-- What a function's variants say about the state. Every variant reads the address of the store, so
none is pure, and internal functions cannot be payable. -/
def variantAccess (m : Mutability) : Access :=
  if m.isReadOnly then .view else .writing

def hasRootForm (isRoot : Bool) (m : Mutability) : Bool :=
  !isRoot || m == .nonpayable

/-- A variant of a function: the receiver, then the declared parameters and results. -/
def variant (function : Function) (receiver : Parameter) (body : List Fragment) :
    Solidity.Function where
  name := function.name
  parameters := receiver :: function.parameters
  access := variantAccess function.mutability
  returns := function.returns
  body := body

def directBody (function : Function) : Except GenerationError (List Fragment) := do
  let arguments ← argumentNames function.name function.parameters
  let call := Wrapper.world.construct "self.toResourceId()" "address(0)"
    ++ "." ++ function.name ++ "(" ++ arguments ++ ");"
  return [.line (if function.returns.isEmpty then call else "return " ++ call)]

/-- The statements that refuse a call made by a root system. -/
def guard (guardError : String) : List Fragment :=
  [.comment ("if the contract calling this function is a root system, "
      ++ "it should use `callAsRoot`"),
    .line ("if (address(_world()) == address(this)) revert " ++ guardError ++ "();")]

/-- A call through the world that cannot change the state; a failure is raised again as it is. -/
def staticDispatch (returns : List Parameter) : List Fragment :=
  [.line "bytes memory worldCall = self.from == address(0)",
    .indented
      [.line "? abi.encodeCall(IWorldCall.call, (self.systemId, systemCall))",
        .line ": abi.encodeCall(IWorldCall.callFrom, (self.from, self.systemId, systemCall));"],
    .line "(bool success, bytes memory returnData) = address(_world()).staticcall(worldCall);",
    .line "if (!success) revertWithBytes(returnData);"]
    ++ decodedResult "abi.decode(returnData, (bytes))" returns

/-- A call through the world, on behalf of another account if the wrapper names one. -/
def worldDispatch (returns : List Parameter) : List Fragment :=
  decodedResult
    ("self.from == address(0) ? _world().call(self.systemId, systemCall) : "
      ++ "_world().callFrom(self.from, self.systemId, systemCall)")
    returns

/-- The statement that encodes the call of a system. -/
def systemCall (interface : String) (function : Function) :
    Except GenerationError Fragment := do
  let call ← encodedCall interface function
  return .line ("bytes memory systemCall = " ++ call ++ ";")

def forwardedBody (setting : Setting) (function : Function) :
    Except GenerationError (List Fragment) := do
  let encode ← systemCall setting.interface function
  let dispatch :=
    if function.mutability.isReadOnly then staticDispatch function.returns
    else worldDispatch function.returns
  return guard setting.guardError ++ encode :: dispatch

/-- The expression that calls a system from a root system. -/
def rootDispatch (m : Mutability) : String :=
  if m.isReadOnly then "SystemCall.staticcallOrRevert(self.from, self.systemId, systemCall)"
  else "SystemCall.callWithHooksOrRevert(self.from, self.systemId, systemCall, msg.value)"

def rootBody (setting : Setting) (function : Function) :
    Except GenerationError (List Fragment) := do
  let encode ← systemCall setting.interface function
  return encode :: decodedResult (rootDispatch function.mutability) function.returns

/-- The variant of a function in a form, `none` if there is no such variant. -/
def Form.variant? (form : Form) (setting : Setting) (function : Function) :
    Except GenerationError (Option Solidity.Function) :=
  match form with
  | .direct => do
    let body ← directBody function
    return some (variant function (.named setting.handleType "self") body)
  | .forwarded => do
    let body ← forwardedBody setting function
    return some (variant function Wrapper.world.receiver body)
  | .root =>
    if hasRootForm setting.isRoot function.mutability then do
      let body ← rootBody setting function
      return some (variant function Wrapper.root.receiver body)
    else return none

end CallLibrary.Calls
