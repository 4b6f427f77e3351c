/-!
# Cutting a text at marks

A text is cut at every character of a kind, so that joining the pieces with the characters that were
cut out gives the text back. There is always at least one piece.
-/

namespace CallLibrary.Text

/-- The piece before the first mark, and the pieces after each mark, empty ones included. -/
def split (isMark : Char → Bool) : List Char → List Char × List (List Char)
  | [] => ([], [])
  | c :: rest =>
    let (piece, others) := split isMark rest
    if isMark c then ([], piece :: others) else (c :: piece, others)

def pieces (isMark : Char → Bool) (text : List Char) : List (List Char) :=
  let (piece, others) := split isMark text
  piece :: others

end CallLibrary.Text
