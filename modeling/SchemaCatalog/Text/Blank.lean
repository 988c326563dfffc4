/-!
# Blanks

* `Text.isBlank`: the characters that count as blanks.
* `Text.trimmed`: a text without the blanks at its ends.
-/

namespace SchemaCatalog.Text

/-- Whether a character has the Unicode property of white space. -/
def isBlank (c : Char) : Bool :=
  let n := c.toNat
  (9 ≤ n && n ≤ 13) ||
    [0x20, 0x85, 0xA0, 0x1680, 0x2028, 0x2029, 0x202F, 0x205F, 0x3000].contains n ||
  (0x2000 ≤ n && n ≤ 0x200A)

/-- A text without the blanks at its ends. -/
def trimmed (s : String) : String :=
  String.ofList ((s.toList.dropWhile isBlank).reverse.dropWhile isBlank).reverse

end SchemaCatalog.Text
