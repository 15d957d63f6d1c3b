import SealedCredentials.Text.Hidden

/-!
# Quoted texts in messages

A message that cites a text or a character puts it in quotes and escapes what would be
unreadable or ambiguous there.  A text stands in double quotes and escapes those; a single
character stands in single quotes and escapes those.
-/

set_option autoImplicit false

namespace SealedCredentials.Text

/-- The value of a natural number in hexadecimal, lower case, without leading zeros. -/
def hexadecimal (n : Nat) : List Char := Nat.toDigits 16 n

/-- A character inside quotes of the kind `quote`. -/
def escapeIn (quote c : Char) : List Char :=
  if c = '\u0000' then ['\\', '0']
  else if c = '\t' then ['\\', 't']
  else if c = '\r' then ['\\', 'r']
  else if c = '\n' then ['\\', 'n']
  else if c = '\\' then ['\\', '\\']
  else if c = quote then ['\\', quote]
  else if isHidden c then ['\\', 'u', '{'] ++ hexadecimal c.toNat ++ ['}']
  else [c]

/-- A text in double quotes. -/
def quoted (text : String) : String :=
  String.ofList ('"' :: text.toList.flatMap (escapeIn '"') ++ ['"'])

/-- A character in single quotes. -/
def quotedChar (c : Char) : String :=
  String.ofList ('\'' :: escapeIn '\'' c ++ ['\''])

/-- A text with its ASCII capitals in lower case; other characters stay. -/
def lowerAscii (text : String) : String := String.ofList (text.toList.map Char.toLower)

end SealedCredentials.Text
