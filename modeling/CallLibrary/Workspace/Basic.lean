import CallLibrary.Workspace.Path

/-!
# Workspaces

A workspace is a tree of directories and files with the directory that a command works in. The tree
is listed by its entries, each with the names on the way to it; the directory at the top has no
names and no entry. Paths are looked up from the working directory, or from the top if they start
there, and two dots at the top stay at the top.
-/

namespace CallLibrary

inductive Content
  | directory
  | file (bytes : List UInt8)
  deriving DecidableEq, Repr

structure Workspace where
  entries : List (List String × Content)
  /-- The names on the way to the working directory. -/
  workingDirectory : List String
  deriving DecidableEq, Repr

namespace Workspace

inductive Failure
  | notFound
  | notDirectory
  | isDirectory
  | notText
  | longName
  | badName
  deriving DecidableEq, Repr

/-- A workspace with a working directory below the top and nothing else. -/
def empty : Workspace := ⟨[(["work"], .directory)], ["work"]⟩

def lookup (w : Workspace) (names : List String) : Option Content :=
  if names.isEmpty then some .directory else w.entries.lookup names

/-- Entries with one of them set. A new entry comes last. -/
def setEntry (names : List String) (content : Content) :
    List (List String × Content) → List (List String × Content)
  | [] => [(names, content)]
  | entry :: rest =>
    if entry.1 = names then (names, content) :: rest else entry :: setEntry names content rest

def set (w : Workspace) (names : List String) (content : Content) : Workspace :=
  { w with entries := setEntry names content w.entries }

/-- A workspace with one more entry in its working directory, and the directories above it. -/
def add (w : Workspace) (path : String) (content : Content) : Workspace :=
  let names := (Path.parts path).filter fun part => !Path.isIdle part
  let above := (List.range names.length).map fun count => w.workingDirectory ++ names.take count
  let made := above.foldl (fun w p => if (w.lookup p).isSome then w else w.set p .directory) w
  if names.isEmpty then made else made.set (w.workingDirectory ++ names) content

/-! ## Paths -/

def nameLimit : Nat := 255

def pathLimit : Nat := 4095

/-- The place that one part of a path leads to from another place. Only directories lead on. -/
def step (w : Workspace) (place : List String) (part : String) : Except Failure (List String) :=
  match w.lookup place with
  | some .directory =>
    if Path.isIdle part then .ok place
    else if part = ".." then .ok place.dropLast
    else if nameLimit < part.utf8ByteSize then .error .longName
    else if (w.lookup (place ++ [part])).isSome then .ok (place ++ [part])
    else .error .notFound
  | some (.file _) => .error .notDirectory
  | none => .error .notFound

/-- The place that the parts of a path are looked up from. -/
def start (w : Workspace) (path : String) : List String :=
  if Path.isAbsolute path then [] else w.workingDirectory

def checkPath (path : String) : Except Failure Unit :=
  if path.toList.contains '\x00' then .error .badName
  else if path.isEmpty then .error .notFound
  else if pathLimit < path.utf8ByteSize then .error .longName
  else .ok ()

def resolve (w : Workspace) (path : String) : Except Failure (List String) := do
  checkPath path
  (Path.parts path).foldlM w.step (w.start path)

def read (w : Workspace) (path : String) : Except Failure String := do
  match w.lookup (← w.resolve path) with
  | some (.file bytes) =>
    match String.fromUTF8? ⟨bytes.toArray⟩ with
    | some text => .ok text
    | none => .error .notText
  | some .directory => .error .isDirectory
  | none => .error .notFound

/-! ## Changes -/

/-- The place that the parts of a path lead to from another place, and what stands there. Nothing
has to stand at the last part, but only a directory has a place for it. -/
def target (w : Workspace) (start : List String) (parts : List String) :
    Except Failure (List String × Option Content) := do
  let above ← parts.dropLast.foldlM w.step start
  let name := parts.getLast?.getD ""
  match w.step above name with
  | .ok place => return (place, w.lookup place)
  | .error .notFound =>
    if w.lookup above = some .directory then return (above ++ [name], none)
    else .error .notFound
  | .error e => .error e

/-- Makes the directory at the end of a path, given by its parts, unless it is there. The directory
above has to be there. -/
def enter (w : Workspace) (start parts : List String) : Except Failure Workspace := do
  match ← w.target start parts with
  | (_, some .directory) => return w
  | (_, some (.file _)) => .error .notDirectory
  | (place, none) => return w.set place .directory

/-- The end of an attempt: the workspace that it leaves behind, also if it fails half way. -/
structure Attempt where
  workspace : Workspace
  failure? : Option Failure

/-- An attempt at one change of a workspace, which is made as a whole or not at all. -/
def attempt (w : Workspace) : Except Failure Workspace → Attempt
  | .ok changed => ⟨changed, none⟩
  | .error e => ⟨w, some e⟩

/-- Makes the first of some directories. If the one above it is not there, those after the first are
made before it. -/
def enterAll (w : Workspace) (start : List String) : List (List String) → Attempt
  | [] => ⟨w, none⟩
  | parts :: above =>
    match w.enter start parts with
    | .error .notFound =>
      let made := w.enterAll start above
      if made.failure?.isSome then made
      else made.workspace.attempt (made.workspace.enter start parts)
    | entered => w.attempt entered

def makeDirectory (w : Workspace) (path : String) : Attempt :=
  match checkPath path with
  | .error e => ⟨w, some e⟩
  | .ok () => w.enterAll (w.start path) (Path.ancestors path)

/-- Writes a file in a directory that is there, in place of a file of that name. -/
def write (w : Workspace) (path : String) (bytes : List UInt8) : Except Failure Workspace := do
  checkPath path
  match ← w.target (w.start path) (Path.parts path) with
  | (_, some .directory) => .error .isDirectory
  | (place, _) => return w.set place (.file bytes)

/-- The files in the working directory that a workspace has and another one has not, or with other
bytes. -/
def changes (after before : Workspace) : List (List String × List UInt8) :=
  after.entries.filterMap fun entry =>
    match entry.2 with
    | .directory => none
    | .file bytes =>
      if before.lookup entry.1 = some entry.2 then none
      else if after.workingDirectory.isPrefixOf entry.1 then
        some (entry.1.drop after.workingDirectory.length, bytes)
      else none

end Workspace

end CallLibrary
