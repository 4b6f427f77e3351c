import CallLibrary.Layout.Builder

/-!
# Libraries

A library block with its documentation in front. Members are separated by one blank line; one member
may be several declarations that belong together.
-/

namespace CallLibrary.Solidity

open Layout (Fragment)

structure Library where
  name : String
  documentation : List String
  members : List (List Fragment)
  deriving Repr

namespace Library

def empty (name : String) : Library := ⟨name, [], []⟩

def document (l : Library) (line : String) : Library :=
  { l with documentation := l.documentation ++ [line] }

def add (l : Library) (member : List Fragment) : Library :=
  { l with members := l.members ++ [member] }

def addAll (l : Library) (members : List (List Fragment)) : Library :=
  { l with members := l.members ++ members }

/-- Adds declarations that belong together as one member, unless there are none. -/
def addGroup (l : Library) (group : List Fragment) : Library :=
  if group.isEmpty then l else l.add group

/-- The library as a documentation comment, if it has one, and a block. -/
def fragments (l : Library) : List Fragment :=
  let body := (l.members.intersperse [.blank]).flatten
  let comment := if l.documentation.isEmpty then [] else [.documentation l.documentation]
  comment ++ [.block ("library " ++ l.name ++ " \x7b") body (some "\x7d")]

end Library

end CallLibrary.Solidity
