/-
# Quoted texts in messages

A text is quoted so that every character of it can be seen: control characters, combining marks and
characters without a printable form are written by their codes.
-/

import RequiredArgs.Unicode.Property

namespace RequiredArgs
namespace Text

open Unicode (CharSet)

/-- The characters without a printable form: those of the categories other than letters, marks,
numbers, punctuation and symbols, the space apart. -/
def unprintable : CharSet :=
  (CharSet.union (Unicode.categoriesSet ["cc", "cf", "co", "zl", "zp", "zs"])
    Unicode.unassigned).diff (.single ' ')

/-- A character as it stands between quotes. -/
def escapedChar (c : Char) : List Char :=
  match c with
  | '\x00' => ['\\', '0']
  | '\t' => ['\\', 't']
  | '\r' => ['\\', 'r']
  | '\n' => ['\\', 'n']
  | '"' => ['\\', '"']
  | '\\' => ['\\', '\\']
  | _ =>
    if 0x20 ≤ c.toNat && c.toNat < 0x7F then [c]
    else if Unicode.graphemeExtend.contains c || unprintable.contains c then
      ['\\', 'u', '\x7b'] ++ Nat.toDigits 16 c.toNat ++ ['\x7d']
    else [c]

/-- The text between double quotes, with its characters escaped. -/
def quoted (s : String) : String :=
  .ofList ('"' :: s.toList.flatMap escapedChar ++ ['"'])

end Text
end RequiredArgs
