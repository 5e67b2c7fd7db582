import LogCourier.Text.Ascii
import LogCourier.Text.Unprintable

/-!
# Quoted text

A text between double quotes, with a backslash form for what cannot be shown.
-/

namespace LogCourier.Text

/-- How one character stands between quotes: a letter form for the usual controls, quote and
backslash, the code point in base sixteen for what is unprintable, else the character. -/
def quotedChar (c : Char) : List Char :=
  match c with
  | '\x00' => ['\\', '0']
  | '\t' => ['\\', 't']
  | '\n' => ['\\', 'n']
  | '\r' => ['\\', 'r']
  | '"' => ['\\', '"']
  | '\\' => ['\\', '\\']
  | c => if isUnprintable c then ['\\', 'u', '{'] ++ hexDigits c.toNat ++ ['}'] else [c]

def quoted (s : String) : String :=
  String.ofList ('"' :: s.toList.flatMap quotedChar ++ ['"'])

end LogCourier.Text
