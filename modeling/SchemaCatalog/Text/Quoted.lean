import SchemaCatalog.Text.Hex
import SchemaCatalog.Text.Printable

/-!
# Quoted texts in messages

A text in double quotes, a character in single ones. Characters that are not printable stand as
escapes.

* `Quoted.text`, `Quoted.char`.
-/

namespace SchemaCatalog.Quoted

/-- The escape `\u\x7bn\x7d` of a character, its code in hexadecimal. -/
def codeEscape (c : Char) : List Char :=
  ['\\', 'u', '\x7b'] ++ Hex.ofNat c.toNat ++ ['\x7d']

/-- A character between quotes `quote`. -/
def escape (quote c : Char) : List Char :=
  if c.toNat = 0 then ['\\', '0']
  else if c = '\t' then ['\\', 't']
  else if c = '\r' then ['\\', 'r']
  else if c = '\n' then ['\\', 'n']
  else if c = '\\' ∨ c = quote then ['\\', c]
  else if Text.isPrintable c then [c]
  else codeEscape c

/-- A text in double quotes. -/
def text (s : String) : String :=
  String.ofList ('"' :: s.toList.flatMap (escape '"') ++ ['"'])

/-- A character in single quotes. -/
def char (c : Char) : String :=
  String.ofList ('\x27' :: escape '\x27' c ++ ['\x27'])

end SchemaCatalog.Quoted
