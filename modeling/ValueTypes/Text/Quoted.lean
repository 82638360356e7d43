/-
  Quoted texts, as messages and listings show them.

  A quoted text stands in double quotes.  The quote itself, the backslash, NUL, tab, carriage
  return and newline have an escape of their own; a character that would not be seen, or that
  would change the one before it, is written by its code point in braces.  Everything else stands
  as it is, the single quote included.
-/
import ValueTypes.Text.PrintTable

namespace ValueTypes.Text

/-- The lowercase hexadecimal digits of a number, without leading zeros. -/
def hexDigits (n : Nat) : List Char := Nat.toDigits 16 n

/-- How a quoted text writes one character. -/
def quotedChar (c : Char) : List Char :=
  if c = '\x00' then ['\\', '0']
  else if c = '\t' then ['\\', 't']
  else if c = '\r' then ['\\', 'r']
  else if c = '\n' then ['\\', 'n']
  else if c = '"' then ['\\', '"']
  else if c = '\\' then ['\\', '\\']
  else if extending.contains c || unprintable.contains c then
    ['\\', 'u', '\x7b'] ++ hexDigits c.toNat ++ ['\x7d']
  else [c]

/-- The text in double quotes, with escapes. -/
def quoted (s : String) : String :=
  String.ofList ('"' :: s.toList.flatMap quotedChar ++ ['"'])

example : quoted "a'\"\u200b\t" = "\"a'\\\"\\u\x7b200b\x7d\\t\"" := by decide +kernel

end ValueTypes.Text
