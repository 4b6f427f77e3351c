import CallLibrary.Text.Split

/-!
# Paths

A path is a text whose parts stand between slashes. Empty parts and single dots name nothing, and
two dots name the directory above.
-/

namespace CallLibrary.Workspace.Path

/-- The parts of a path, empty ones included. -/
def parts (path : String) : List String :=
  (Text.pieces (· == '/') path.toList).map String.ofList

def isAbsolute (path : String) : Bool := path.toList.head? == some '/'

/-- Whether a part of a path stays in the directory it is looked up in. -/
def isIdle (part : String) : Bool := part == "" || part == "."

/-- A path and those above it, by their parts. A dot at the end counts in the path itself only. -/
def ancestors (path : String) : List (List String) :=
  let names := (parts path).filter fun part => !isIdle part
  let above := (List.range names.length).map names.take
  ((parts path).filter (· != "") :: above.reverse).filter (!·.isEmpty)

/-- The last part of a path that names something, unless it is the directory above. -/
def fileName? (path : String) : Option String :=
  ((parts path).filter fun part => !isIdle part).getLast?.filter (· != "..")

/-- What follows the last dot in the name of a file. A dot at the start of the name does not
count. -/
def fileExtension? (path : String) : Option String := do
  let name ← fileName? path
  let letters := name.toList.reverse
  let after := letters.takeWhile (· != '.')
  if (letters.drop (after.length + 1)).isEmpty then none
  else some (String.ofList after.reverse)

/-- The path of a file in a directory. -/
def join (directory file : String) : String :=
  if directory.isEmpty || directory.toList.getLast? == some '/' then directory ++ file
  else directory ++ "/" ++ file

end CallLibrary.Workspace.Path
