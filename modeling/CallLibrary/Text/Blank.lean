import CallLibrary.Text.Split

/-!
# Blank characters and words

Declarations are cut into words at blank characters. A character is blank when it has the Unicode
property `White_Space`; the zero-width space and the byte-order mark do not have it and belong to
words.
-/

namespace CallLibrary.Text

/-- First and last code point of each run of characters with the property `White_Space`. -/
def blankRanges : List (Nat × Nat) :=
  [(0x09, 0x0D), (0x20, 0x20), (0x85, 0x85), (0xA0, 0xA0), (0x1680, 0x1680), (0x2000, 0x200A),
    (0x2028, 0x2029), (0x202F, 0x202F), (0x205F, 0x205F), (0x3000, 0x3000)]

def isBlank (c : Char) : Bool :=
  blankRanges.any fun (first, last) => first ≤ c.toNat && c.toNat ≤ last

/-- The maximal runs of characters that are not blank, in order. -/
def words (s : String) : List String :=
  ((pieces isBlank s.toList).filter fun piece => !piece.isEmpty).map String.ofList

end CallLibrary.Text
