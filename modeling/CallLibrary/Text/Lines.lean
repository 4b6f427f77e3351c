/-!
# Lines of a text

A line ends at a line feed, and one carriage return just before that line feed belongs to the
ending. A last line needs no ending: it keeps a carriage return at its end, and a text that ends in
a line feed has no further, empty line.
-/

namespace CallLibrary.Text

def linesOf : List Char → List (List Char)
  | [] => []
  | c :: rest =>
    if c = '\n' then [] :: linesOf rest
    else if c = '\r' && rest.head? == some '\n' then linesOf rest
    else match linesOf rest with
      | [] => [[c]]
      | line :: lines => (c :: line) :: lines

/-- The lines of a text, without their endings. -/
def lines (s : String) : List String :=
  (linesOf s.toList).map String.ofList

end CallLibrary.Text
