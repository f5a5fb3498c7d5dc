import HugePool.Text.Unprintable

/-!
# Quoted strings

A name is shown between double quotes.  The quote and the backslash are preceded by a backslash,
the tab, the line feed, the carriage return and the null character are written `\t`, `\n`, `\r` and
`\0`, and every other character that has no visible form of its own is written as its code point,
`\u` and lower-case hexadecimal digits in braces.
-/

namespace HugePool.Text

/-- The written form of one character inside quotes. -/
def escape (c : Char) : List Char :=
  if c = '"' then ['\\', '"']
  else if c = '\\' then ['\\', '\\']
  else if c = '\t' then ['\\', 't']
  else if c = '\n' then ['\\', 'n']
  else if c = '\r' then ['\\', 'r']
  else if c = '\x00' then ['\\', '0']
  else if isUnprintable c then
    ['\\', 'u', '\x7b'] ++ Nat.toDigits 16 c.toNat ++ ['\x7d']
  else [c]

/-- A string between double quotes. -/
def quote (s : String) : String :=
  String.ofList ('"' :: (s.toList.flatMap escape ++ ['"']))

end HugePool.Text
