import ComponentDirective.Text.Visible

/-!
# Quoted texts in messages

A text that a message quotes stands between double quotes. The quote and the backslash are escaped, some controls have a
short escape, and a character that does not show by itself is written as its code point in braces.
-/

namespace ComponentDirective.Text

/-- The code point of a character in hexadecimal digits, in braces. -/
def codePoint (c : Char) : List Char := ['\\', 'u', '\x7b'] ++ Nat.toDigits 16 c.toNat ++ ['\x7d']

/-- The form of a character inside a quoted text. -/
def quotedChar (c : Char) : List Char :=
  if c = '\x00' then ['\\', '0']
  else if c = '\t' then ['\\', 't']
  else if c = '\r' then ['\\', 'r']
  else if c = '\n' then ['\\', 'n']
  else if c = '"' then ['\\', '"']
  else if c = '\\' then ['\\', '\\']
  else if isVisible c then [c]
  else codePoint c

def quoted (s : String) : String := String.ofList ('"' :: s.toList.flatMap quotedChar ++ ['"'])

end ComponentDirective.Text
