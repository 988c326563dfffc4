import SchemaCatalog.Text.Digits
import SchemaCatalog.Text.Utf8
import SchemaCatalog.Yaml.Cursor
import SchemaCatalog.Yaml.Token

/-!
# Tags and directives

* `Yaml.readTag`: the type in front of a node, as a handle and the rest.
* `Yaml.readDirective`: a line that starts with a percent sign.
-/

namespace SchemaCatalog.Yaml

/-- The characters other than those of words that may stand in any tag. -/
def tagMarks : List Char :=
  [';', '/', '?', ':', '@', '&', '=', '+', '$', '.', '%', '!', '~', '*', '\x27', '(', ')']

/-- Whether a character may stand in a tag; between angle brackets commas and brackets may, too. -/
def isTagChar (verbatim : Bool) (c : Char) : Bool :=
  isWord c || tagMarks.contains c || (verbatim && [',', '[', ']'].contains c)

/-- The number of bytes of a character whose first byte is `b`, zero if no character starts so. -/
def sequenceLength (b : Nat) : Nat :=
  if b < 0x80 then 1 else if b / 32 = 6 then 2 else if b / 16 = 14 then 3 else if b / 8 = 30 then 4
  else 0

/-- Reads `n` more bytes of an escaped character. -/
def readEscapedTail : Nat → List Char → Option (List UInt8 × List Char)
  | 0, s => some ([], s)
  | n + 1, '%' :: a :: b :: s => do
    let byte ← Digits.number? 16 [a, b]
    if byte / 64 ≠ 2 then .none
    let (bytes, s) ← readEscapedTail n s
    return (UInt8.ofNat byte :: bytes, s)
  | _ + 1, _ => none

/-- Reads an escaped character, the percent sign included. Bytes that spell none stand for the
replacement character. -/
def readEscaped : List Char → Option (List Char × List Char)
  | '%' :: a :: b :: s => do
    let byte ← Digits.number? 16 [a, b]
    let n := sequenceLength byte
    if n = 0 then .none
    let (bytes, s) ← readEscapedTail (n - 1) s
    match Text.ofUtf8? (UInt8.ofNat byte :: bytes) with
    | some text => return (text.toList, s)
    | none => return ([Char.ofNat 0xFFFD], s)
  | _ => none

def readTagChars (verbatim : Bool) : Nat → Cursor → Option (List Char × Cursor)
  | 0, c => some ([], c)
  | fuel + 1, c =>
    match c.rest with
    | '%' :: _ => do
      let (x, rest) ← readEscaped c.rest
      let (xs, c) ← readTagChars verbatim fuel (c.skipTo rest)
      return (x ++ xs, c)
    | x :: _ =>
      if isTagChar verbatim x then (readTagChars verbatim fuel c.skip).map fun r => (x :: r.1, r.2)
      else some ([], c)
    | [] => some ([], c)

/-- Reads at least one character of a tag. -/
def readTagText (verbatim : Bool) (c : Cursor) : Option (List Char × Cursor) := do
  let (text, c) ← readTagChars verbatim c.rest.length c
  if text.isEmpty then .none else return (text, c)

/-- Reads an exclamation mark, letters, and a second exclamation mark if there is one. -/
def readHandle (c : Cursor) : Option (List Char × Cursor) :=
  match c.rest with
  | '!' :: r =>
    let word := r.takeWhile isWord
    let c := c.skipN (word.length + 1)
    if c.rest.head? = some '!' then some ('!' :: word ++ ['!'], c.skip) else some ('!' :: word, c)
  | _ => none

/-- Whether a tag may end here; between brackets a comma may follow it. -/
def endsTag (inFlow : Bool) (s : List Char) : Bool :=
  atBlankOrEnd s || (inFlow && s.head? = some ',')

/-- Reads a tag. A single exclamation mark is a tag of its own. -/
def readTag (inFlow : Bool) (c : Cursor) : Option (Token × Cursor) := do
  let (token, c) ←
    match c.rest with
    | '!' :: '<' :: _ => do
      let (text, c) ← readTagText true (c.skipN 2)
      if c.rest.head? ≠ some '>' then .none
      pure (Token.tag "" (String.ofList text), c.skip)
    | _ => do
      let (handle, c) ← readHandle c
      if 2 ≤ handle.length ∧ handle.getLast? = some '!' then
        let (text, c) ← readTagText false c
        pure (Token.tag (String.ofList handle) (String.ofList text), c)
      else
        let (text, c) ← readTagChars false c.rest.length c
        let suffix := handle.drop 1 ++ text
        pure (if suffix.isEmpty then Token.tag "" "!" else Token.tag "!" (String.ofList suffix), c)
  if endsTag inFlow c.rest then return (token, c) else .none

/-! ## Directives -/

def readVersionNumber (c : Cursor) : Option (Nat × Cursor) :=
  let ds := c.rest.takeWhile Char.isDigit
  if ds.isEmpty ∨ 9 < ds.length then none
  else some (Nat.ofDigitChars 10 ds 0, c.skipN ds.length)

/-- Reads what follows the name of a directive. -/
def readDirectiveValue (name : List Char) (c : Cursor) : Option (Token × Cursor) := do
  if name = "YAML".toList then
    let (major, c) ← readVersionNumber (c.skipWhile isBlank)
    if c.rest.head? ≠ some '.' then .none
    let (minor, c) ← readVersionNumber c.skip
    return (.versionDirective major minor, c)
  else if name = "TAG".toList then
    let (handle, c) ← readHandle (c.skipWhile isBlank)
    if handle ≠ ['!'] ∧ handle.getLast? ≠ some '!' then .none
    if (c.rest.head?.map isBlank).getD false = false then .none
    let (front, c) ← readTagText true (c.skipWhile isBlank)
    if atBlankOrEnd c.rest = false then .none
    return (.tagDirective (String.ofList handle) (String.ofList front), c)
  else .none

/-- Reads a directive with the rest of its line. -/
def readDirective (c : Cursor) : Option (Token × Cursor) := do
  let c := c.skip
  let name := c.rest.takeWhile isWord
  let c := c.skipN name.length
  if name.isEmpty ∨ atBlankOrEnd c.rest = false then .none
  let (token, c) ← readDirectiveValue name c
  let c := c.skipWhile isBlank
  let c := if c.rest.head? = some '#' then c.skipWhile fun x => !isBreak x else c
  if atBreakOrEnd c.rest = false then .none
  return (token, c.skipLine)

end SchemaCatalog.Yaml
