import TextGrammar.Unicode.Classes
/-!
# Quoted text

Text between double quotes on one line: what could not be seen or would join another character is
written by its code point.
-/
namespace TextGrammar.Quoted

def hexDigits (n : Nat) : List Char := Nat.toDigits 16 n

/-- Quotes and backslashes are escaped, the common controls by letters, and characters that are
not printable or extend the one before them by their number in hexadecimal. -/
def encodeChar (c : Char) : List Char :=
  if c = '\x00' then ['\\', '0']
  else if c = '\t' then ['\\', 't']
  else if c = '\r' then ['\\', 'r']
  else if c = '\n' then ['\\', 'n']
  else if c = '"' then ['\\', '"']
  else if c = '\\' then ['\\', '\\']
  else if Unicode.isGraphemeExtend c.toNat || !Unicode.isPrintable c.toNat then
    ['\\', 'u', '{'] ++ hexDigits c.toNat ++ ['}']
  else [c]

def encode (text : String) : String :=
  String.ofList ('"' :: text.toList.flatMap encodeChar ++ ['"'])

end TextGrammar.Quoted
