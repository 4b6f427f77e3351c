import CallLibrary.Document.Node
import CallLibrary.Text.Span

/-!
# TOML tables

Entries and headers put a table together piece by piece. What may still be added to a table depends
on how it came about: an inline table is complete, a table with a header of its own takes no dotted
keys from outside, and a header may be given once to a table that other headers only implied.
-/

namespace CallLibrary.Document.Toml

/-- A stretch of a document, by the text that follows its start and the text that follows its end.
Text in front of both does not change it. -/
structure Extent where
  start : List Char
  stop : List Char
  deriving DecidableEq, Repr

def Extent.span (size : Nat) (e : Extent) : Text.Span :=
  let start := Text.byteLength e.start
  ⟨size - start, start - Text.byteLength e.stop⟩

inductive Origin
  /-- It was written between braces. -/
  | inline
  /-- It has a header of its own; so has the document. -/
  | header
  /-- A longer header runs through it. -/
  | implied
  /-- A dotted key runs through it. -/
  | dotted
  deriving DecidableEq, Repr

/-- A value of a document in the making. -/
inductive Item where
  | scalar (mark : Extent) (value : Scalar)
  /-- Items between brackets, or the elements that headers add to an array of tables. -/
  | array (mark : Extent) (ofTables : Bool) (items : List Item)
  | table (mark : Extent) (origin : Origin) (entries : List (Key Extent × Item))

abbrev Entries := List (Key Extent × Item)

/-- One step in putting a document together. -/
inductive Statement
  /-- A value under a key, at the end of a path of keys. -/
  | entry (path : List (Key Extent)) (key : Key Extent) (value : Item)
  /-- A table that the next entries belong to. -/
  | header (mark : Extent) (path : List (Key Extent)) (key : Key Extent)
  /-- An element of an array of tables that the next entries belong to. -/
  | element (mark : Extent) (path : List (Key Extent)) (key : Key Extent)

/-- Changes or adds the entry for a key. -/
def alter (key : Key Extent)
    (change : Option (Key Extent × Item) → Option (Key Extent × Item)) :
    Entries → Option Entries
  | [] => do
    let entry ← change none
    some [entry]
  | entry :: rest =>
    if entry.1.text = key.text then do
      let entry ← change (some entry)
      some (entry :: rest)
    else do
      let rest ← alter key change rest
      some (entry :: rest)

def alterLast (change : Item → Option Item) : List Item → Option (List Item)
  | [] => none
  | [item] => do
    let item ← change item
    some [item]
  | item :: rest => do
    let rest ← alterLast change rest
    some (item :: rest)

/-- Changes the entries of the table at the end of a path. Tables that are missing on the way are
made with the origin `made`; a path of dotted keys only runs through tables without a header. In an
array of tables the path runs through the last element. -/
def descend (made : Origin) (change : Origin → Entries → Option Entries) :
    List (Key Extent) → Origin → Entries → Option Entries
  | [], origin, entries => change origin entries
  | key :: path, _, entries =>
    let through := fun (item : Item) =>
      match item with
      | .table mark origin inner => do
        let inner ← descend made change path origin inner
        some (.table mark origin inner)
      | _ => none
    alter key
      (fun entry? =>
        match entry? with
        | none => do
          let inner ← descend made change path made []
          some (key, .table key.mark made inner)
        | some (found, .array mark true items) => do
          let items ← alterLast through items
          some (found, .array mark true items)
        | some (found, .table mark origin inner) =>
          if origin = .inline || (made = .dotted && origin = .header) then none
          else do
            let item ← through (.table mark origin inner)
            some (found, item)
        | some _ => none)
      entries

/-- Adds an entry under a path of dotted keys to the entries of a table. The table that it ends in
has to be made by dotted keys if there is a path, and no key may be given twice. -/
def insertEntry (path : List (Key Extent)) (key : Key Extent) (value : Item) :
    Origin → Entries → Option Entries :=
  descend .dotted
    (fun origin entries =>
      if !path.isEmpty && origin != .dotted then none
      else alter key (fun entry? => if entry?.isSome then none else some (key, value)) entries)
    path

/-- A document in the making: its entries, and the path to the table that the next entries belong
to. -/
structure Draft where
  entries : Entries
  current : List (Key Extent)

namespace Draft

def empty : Draft := ⟨[], []⟩

/-- Takes one more statement, `none` if it cannot follow those before it. -/
def apply (draft : Draft) : Statement → Option Draft
  | .entry path key value => do
    let entries ← descend .implied (insertEntry path key value) draft.current .header draft.entries
    some { draft with entries }
  | .header mark path key => do
    let entries ← descend .implied
      (fun _ =>
        alter key fun entry? =>
          match entry? with
          | none => some (key, .table mark .header [])
          | some (_, .table _ .implied inner) => some (key, .table mark .header inner)
          | some _ => none)
      path .header draft.entries
    some ⟨entries, path ++ [key]⟩
  | .element mark path key => do
    let element := .table mark .header []
    let entries ← descend .implied
      (fun _ =>
        alter key fun entry? =>
          match entry? with
          | none => some (key, .array mark true [element])
          | some (found, .array first true items) =>
            some (found, .array first true (items ++ [element]))
          | some _ => none)
      path .header draft.entries
    some ⟨entries, path ++ [key]⟩

end Draft

/-- An entry put in its place among entries in the order of their keys. -/
def insertSorted (entry : Key Extent × Node Extent) :
    List (Key Extent × Node Extent) → List (Key Extent × Node Extent)
  | [] => [entry]
  | other :: rest =>
    if other.1.text.getD "" < entry.1.text.getD "" then other :: insertSorted entry rest
    else entry :: other :: rest

mutual

def Item.toNode : Item → Node Extent
  | .scalar mark value => .scalar mark value
  | .array mark _ items => .array mark (nodesOf items)
  | .table mark _ entries => .table mark (entriesOf entries)

def nodesOf : List Item → List (Node Extent)
  | [] => []
  | item :: rest => item.toNode :: nodesOf rest

/-- The entries of a table in the order of their keys. -/
def entriesOf : List (Key Extent × Item) → List (Key Extent × Node Extent)
  | [] => []
  | (key, item) :: rest => insertSorted (key, item.toNode) (entriesOf rest)

end

end CallLibrary.Document.Toml
