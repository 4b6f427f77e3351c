/-!
# Places in a text

A place is counted in bytes of the text's UTF-8 form, so that an editor can be pointed at it.
-/

namespace CallLibrary.Text

/-- A stretch of a text: the bytes before it and the bytes in it. -/
structure Span where
  offset : Nat
  length : Nat
  deriving DecidableEq, Repr

/-- The number of bytes that characters take in UTF-8. -/
def byteLength : List Char → Nat
  | [] => 0
  | c :: rest => c.utf8Size + byteLength rest

/-- The number of bytes before the first occurrence of `needle`, if there is one. -/
def find? (needle : List Char) : List Char → Option Nat
  | [] => if needle.isEmpty then some 0 else none
  | c :: rest =>
    if needle.isPrefixOf (c :: rest) then some 0
    else (find? needle rest).map (c.utf8Size + ·)

end CallLibrary.Text
