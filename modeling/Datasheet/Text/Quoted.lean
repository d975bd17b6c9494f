import Datasheet.Text.Printable

/-!
# Quoted texts

A text in quotes for a log line (`quoted`), and a list of such texts
(`quotedList`). What a reader could not see is written by its code point.
-/

namespace Datasheet

/-- A character within quotes. -/
def quotedChar (c : Char) : List Char :=
  match c with
  | '"' => ['\\', '"']
  | '\\' => ['\\', '\\']
  | '\n' => ['\\', 'n']
  | '\r' => ['\\', 'r']
  | '\t' => ['\\', 't']
  | '\x00' => ['\\', '0']
  | c =>
    if isHidden c then ['\\', 'u', '{'] ++ Nat.toDigits 16 c.toNat ++ ['}']
    else [c]

def quoted (s : String) : List Char := '"' :: s.toList.flatMap quotedChar ++ ['"']

/-- Quoted texts in brackets, with commas between them. -/
def quotedList (texts : List String) : String :=
  .ofList ('[' :: [',', ' '].intercalate (texts.map quoted) ++ [']'])

end Datasheet
