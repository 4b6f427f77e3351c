/-!
# Indentation

How one level of indentation is written.
-/

namespace CallLibrary.Layout

inductive Indent
  | spaces (width : Nat)
  | tab
  deriving DecidableEq, Repr

namespace Indent

def standard : Indent := .spaces 2

/-- The text of one level. Widths of two, four and eight are written as such, all others as four. -/
def unit : Indent → String
  | .spaces 2 => "  "
  | .spaces 8 => "        "
  | .spaces _ => "    "
  | .tab => "\t"

end Indent

end CallLibrary.Layout
