import CallLibrary.Text.Hex
import CallLibrary.Text.Hidden

/-!
# Quoted text in messages

A message shows a text between double quotes. A quote, a backslash and the common control
characters are written with a backslash, other characters without a mark of their own by code point
between braces, and all else as it is.
-/

namespace CallLibrary.Text

def quoteChar (c : Char) : List Char :=
  match c with
  | '\x00' => ['\\', '0']
  | '\t' => ['\\', 't']
  | '\n' => ['\\', 'n']
  | '\r' => ['\\', 'r']
  | '"' => ['\\', '"']
  | '\\' => ['\\', '\\']
  | c => if isHidden c then ['\\', 'u', '\x7b'] ++ hexNat c.toNat ++ ['\x7d'] else [c]

def quote (s : String) : String :=
  String.ofList ('"' :: s.toList.flatMap quoteChar ++ ['"'])

end CallLibrary.Text
