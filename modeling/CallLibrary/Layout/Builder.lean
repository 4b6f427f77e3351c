import CallLibrary.Layout.Fragment
import CallLibrary.Layout.Indent

/-!
# Building a source text

A builder holds the text written so far and the level at which the next line stands. Every line is
the unit of indentation repeated as often as the level says, the line's text, and a line feed; a
blank line is a line feed alone.
-/

namespace CallLibrary.Layout

/-- A source text in the making. -/
structure Builder where
  indent : Indent
  level : Nat
  text : String
  deriving DecidableEq, Repr

namespace Builder

def empty (indent : Indent) : Builder := ⟨indent, 0, ""⟩

/-- The indentation of a line at the current level. -/
def margin (b : Builder) : String :=
  String.join (List.replicate b.level b.indent.unit)

def line (b : Builder) (text : String) : Builder :=
  { b with text := b.text ++ (b.margin ++ text ++ "\n") }

def blank (b : Builder) : Builder :=
  { b with text := b.text ++ "\n" }

def deeper (b : Builder) : Builder :=
  { b with level := b.level + 1 }

/-- Goes one level back; the outermost level is the last. -/
def shallower (b : Builder) : Builder :=
  { b with level := b.level - 1 }

/-- Writes a comment to the end of the line. -/
def comment (b : Builder) (text : String) : Builder :=
  b.line ("// " ++ text)

def documentation (b : Builder) (lines : List String) : Builder :=
  (lines.foldl (fun b text => b.line (" * " ++ text)) (b.line "/**")).line " */"

mutual

/-- Writes a fragment at the current level and comes back to that level. -/
def add (b : Builder) : Fragment → Builder
  | .line text => b.line text
  | .blank => b.blank
  | .block header body close =>
    let b := (((b.line header).deeper).addAll body).shallower
    match close with
    | some text => b.line text
    | none => b
  | .indented body => ((b.deeper).addAll body).shallower
  | .comment text => b.comment text
  | .documentation lines => b.documentation lines

def addAll (b : Builder) : List Fragment → Builder
  | [] => b
  | fragment :: rest => (b.add fragment).addAll rest

end

end Builder

/-- The text of fragments at the outermost level, in the style of generated sources. -/
def render (fragments : List Fragment) : String :=
  ((Builder.empty .standard).addAll fragments).text

end CallLibrary.Layout
