import CallLibrary.Solidity.Declaration
import CallLibrary.Text.Lines

/-!
# Source files

A source file has a header, its imports and its declarations. These sections follow each other with
one blank line between any two; a header counts as a section even if it has no lines.
-/

namespace CallLibrary.Solidity

open Layout (Fragment)

structure SourceUnit where
  header : Option String
  imports : List Import
  body : List (List Fragment)
  deriving Repr

/-- The header of every generated file. -/
def standardHeader : String :=
  "// SPDX-License-Identifier: MIT\npragma solidity >=0.8.24;\n\n"
    ++ "/* Autogenerated file. Do not edit manually. */"

namespace SourceUnit

def empty : SourceUnit := ⟨none, [], []⟩

/-- Sets the header, in place of an earlier one. -/
def withHeader (u : SourceUnit) (header : String) : SourceUnit :=
  { u with header := some header }

def withImports (u : SourceUnit) (imports : List Import) : SourceUnit :=
  { u with imports := u.imports ++ imports }

/-- Adds a declaration as a section, even if it has no lines. -/
def add (u : SourceUnit) (declaration : Declaration) : SourceUnit :=
  { u with body := u.body ++ [declaration.fragments] }

/-- Adds declarations as one section, unless they have no lines. -/
def addGroup (u : SourceUnit) (declarations : List Declaration) : SourceUnit :=
  let fragments := declarations.flatMap (·.fragments)
  if fragments.isEmpty then u else { u with body := u.body ++ [fragments] }

def headerFragments (header : String) : List Fragment :=
  (Text.lines header).map fun line => if line.isEmpty then .blank else .line line

def sections (u : SourceUnit) : List (List Fragment) :=
  let header := match u.header with
    | some text => [headerFragments text]
    | none => []
  let imports :=
    if u.imports.isEmpty then [] else [u.imports.map fun i => .line i.statement]
  header ++ imports ++ u.body

def render (u : SourceUnit) : String :=
  Layout.render (u.sections.intersperse [.blank]).flatten

end SourceUnit

end CallLibrary.Solidity
