import CallLibrary.Interface.Basic

/-!
# Collecting imports

Imports are collected per source path: paths stay in the order in which they were first asked for,
and the symbols of a path are listed once each, in the order of their code points.
-/

namespace CallLibrary.Solidity

/-- The import of symbols from one source path. -/
structure Import where
  path : String
  symbols : List String
  deriving DecidableEq, Repr

def Import.statement (i : Import) : String :=
  "import \x7b " ++ String.intercalate ", " i.symbols ++ " \x7d from \"" ++ i.path ++ "\";"

/-- The imports collected so far, one entry per path. -/
structure ImportTable where
  entries : List Import
  deriving DecidableEq, Repr

/-- A symbol put in its place among sorted symbols, unless it is there. -/
def insertSymbol (symbol : String) : List String → List String
  | [] => [symbol]
  | s :: rest =>
    if symbol < s then symbol :: s :: rest
    else if symbol = s then s :: rest
    else s :: insertSymbol symbol rest

namespace ImportTable

def empty : ImportTable := ⟨[]⟩

/-- The entries with one more symbol asked for from a path. A new path comes last. -/
def addEntry (path symbol : String) : List Import → List Import
  | [] => [⟨path, [symbol]⟩]
  | entry :: rest =>
    if entry.path = path then { entry with symbols := insertSymbol symbol entry.symbols } :: rest
    else entry :: addEntry path symbol rest

def add (table : ImportTable) (path symbol : String) : ImportTable :=
  ⟨addEntry path symbol table.entries⟩

/-- Takes a symbol away from every path, and with it the paths that are left without symbols. -/
def erase (table : ImportTable) (symbol : String) : ImportTable :=
  let kept := table.entries.map fun entry =>
    { entry with symbols := entry.symbols.filter (· != symbol) }
  ⟨kept.filter fun entry => !entry.symbols.isEmpty⟩

def pathsOf (table : ImportTable) (symbol : String) : List String :=
  (table.entries.filter fun entry => entry.symbols.contains symbol).map (·.path)

def ofRequests (requests : List Interface.ImportRequest) : ImportTable :=
  requests.foldl (fun table request => table.add request.path request.symbol) empty

end ImportTable

end CallLibrary.Solidity
