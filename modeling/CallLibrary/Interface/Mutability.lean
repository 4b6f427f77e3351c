/-!
# State mutability

What a contract's function may do to the state and to the value sent along with a call.
-/

namespace CallLibrary.Interface

/-- The declared mutability of a function. -/
inductive Mutability
  | pure
  | view
  | nonpayable
  | payable
  deriving DecidableEq, Repr

namespace Mutability

def keyword : Mutability → String
  | .pure => "pure"
  | .view => "view"
  | .nonpayable => "nonpayable"
  | .payable => "payable"

/-- The mutability that a text names. Interfaces often leave the name of a nonpayable function
empty. -/
def ofKeyword? (word : String) : Option Mutability :=
  if word = "pure" then some .pure
  else if word = "view" then some .view
  else if word = "nonpayable" ∨ word = "" then some .nonpayable
  else if word = "payable" then some .payable
  else none

/-- The texts that name a mutability, in the order in which messages list them. -/
def keywords : List String := ["pure", "view", "", "nonpayable", "payable"]

/-- Whether a function with this mutability leaves the state as it is. -/
def isReadOnly : Mutability → Bool
  | .pure => true
  | .view => true
  | .nonpayable => false
  | .payable => false

end Mutability

end CallLibrary.Interface
