import ImageStock.Text.Hex
import ImageStock.Text.Unprintable

/-!
A text between double quotes, on one line and printable. Five characters have a short escape,
unprintable ones are given by number, and an apostrophe stays as it is.
-/

namespace ImageStock.Text

def quotedChar (c : Char) : List Char :=
  match c with
  | '\x00' => ['\\', '0']
  | '\t' => ['\\', 't']
  | '\r' => ['\\', 'r']
  | '\n' => ['\\', 'n']
  | '\\' => ['\\', '\\']
  | '"' => ['\\', '"']
  | c =>
    if unprintable.contains c then ['\\', 'u', '\x7b'] ++ hex c.toNat ++ ['\x7d'] else [c]

def quoted (s : String) : String :=
  String.ofList ('"' :: s.toList.flatMap quotedChar ++ ['"'])

end ImageStock.Text
