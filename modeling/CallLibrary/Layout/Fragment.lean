/-!
# Fragments of code

A fragment is a piece of source text without its indentation, so that pieces can be put together
before it is known how deep they stand.
-/

namespace CallLibrary.Layout

/-- A piece of source text. -/
inductive Fragment
  /-- One line of code. -/
  | line (text : String)
  /-- An empty line, never indented. -/
  | blank
  /-- A header line, a body one level deeper, and a closing line if there is one. -/
  | block (header : String) (body : List Fragment) (close : Option String)
  /-- Fragments one level deeper. -/
  | indented (body : List Fragment)
  /-- A comment to the end of the line. -/
  | comment (text : String)
  /-- A documentation comment with its lines. -/
  | documentation (lines : List String)
  deriving Repr

end CallLibrary.Layout
