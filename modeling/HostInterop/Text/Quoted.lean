import HostInterop.Text.Printable
import HostInterop.Text.GraphemeExtend

/-!
# Quoted text

The quoted form of a text or a character, as values are shown to a reader: between double
quotes for a text and single quotes for a character. Inside, NUL, tab, carriage return, line
feed, the backslash and the enclosing quote are written with a backslash and a letter; a
grapheme extender or a character that is not printable is written `\u` with its code point in
lower-case hexadecimal between braces; every other character stands for itself.
-/

namespace HostInterop.Text

/-- The code point of `c` as an escape: backslash, `u`, and lower-case hexadecimal in braces. -/
def codeEscape (c : Char) : List Char :=
  '\\' :: 'u' :: '\x7b' :: Nat.toDigits 16 c.toNat ++ ['\x7d']

/-- How `c` is written inside a quoted text whose quote is `quote`. -/
def escapeIn (quote : Char) (c : Char) : List Char :=
  if c = '\x00' then ['\\', '0']
  else if c = '\t' then ['\\', 't']
  else if c = '\r' then ['\\', 'r']
  else if c = '\n' then ['\\', 'n']
  else if c = '\\' then ['\\', '\\']
  else if c = quote then ['\\', c]
  else if isGraphemeExtend c || !isPrintable c then codeEscape c
  else [c]

/-- The quoted form of a text: double quotes around each character written as `escapeIn`. -/
def quote (s : String) : String :=
  String.ofList ('"' :: s.toList.flatMap (escapeIn '"') ++ ['"'])

/-- The quoted form of a character: single quotes around it, written as `escapeIn`. -/
def quoteChar (c : Char) : String :=
  String.ofList ('\'' :: escapeIn '\'' c ++ ['\''])

end HostInterop.Text
