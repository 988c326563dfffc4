import SchemaCatalog.Text.Digits
import SchemaCatalog.Yaml.Cursor

/-!
# Quoted scalars

* `Yaml.readSingleQuoted`, `Yaml.readDoubleQuoted`: a scalar after its opening quote.
-/

namespace SchemaCatalog.Yaml

def simpleEscape? (c : Char) : Option Char :=
  [('0', 0), ('a', 7), ('b', 8), ('t', 9), ('\t', 9), ('n', 10), ('v', 11), ('f', 12), ('r', 13),
    ('e', 27), (' ', 32), ('"', 34), ('/', 47), ('\\', 92), ('N', 0x85), ('_', 0xA0), ('L', 0x2028),
    ('P', 0x2029)].lookup c |>.map Char.ofNat

/-- The character whose code the given digits spell. -/
def codeChar? (digits : List Char) : Option Char := do
  let code ← Digits.number? 16 digits
  if (0xD800 ≤ code ∧ code ≤ 0xDFFF) ∨ 0x10FFFF < code then .none else return Char.ofNat code

/-! ## Pieces -/

/-- Splits a piece of a scalar in single quotes off the front of a text, up to a blank, a line end
or the closing quote. -/
def splitSinglePiece : List Char → List Char × List Char
  | [] => ([], [])
  | '\x27' :: '\x27' :: s => let r := splitSinglePiece s; ('\x27' :: r.1, r.2)
  | x :: s =>
    if x = '\x27' || isBlank x || isBreak x then ([], x :: s)
    else let r := splitSinglePiece s; (x :: r.1, r.2)

/-- Splits a piece of a scalar in double quotes off the front of a text, up to a blank, a line end,
a backslash in front of one, or the closing quote. -/
def splitDoublePiece : List Char → Option (List Char × List Char)
  | [] => some ([], [])
  | '\\' :: 'x' :: a :: b :: s =>
    match codeChar? [a, b] with
    | some x => (splitDoublePiece s).map fun r => (x :: r.1, r.2)
    | none => none
  | '\\' :: 'u' :: a :: b :: c :: d :: s =>
    match codeChar? [a, b, c, d] with
    | some x => (splitDoublePiece s).map fun r => (x :: r.1, r.2)
    | none => none
  | '\\' :: 'U' :: a :: b :: c :: d :: e :: f :: g :: h :: s =>
    match codeChar? [a, b, c, d, e, f, g, h] with
    | some x => (splitDoublePiece s).map fun r => (x :: r.1, r.2)
    | none => none
  | '\\' :: e :: s =>
    if isBreak e then some ([], '\\' :: e :: s)
    else
      match simpleEscape? e with
      | some x => (splitDoublePiece s).map fun r => (x :: r.1, r.2)
      | none => none
  | x :: s =>
    if x = '\\' then none
    else if x = '"' || isBlank x || isBreak x then some ([], x :: s)
    else (splitDoublePiece s).map fun r => (x :: r.1, r.2)

/-! ## Scalars -/

def readSingleQuoted : Nat → Cursor → Option (List Char × Cursor)
  | 0, _ => none
  | fuel + 1, c =>
    if c.column = 0 ∧ atDocumentMark c.rest then none
    else
      let (piece, rest) := splitSinglePiece c.rest
      let c := c.skipTo rest
      match rest with
      | [] => none
      | '\x27' :: _ => some (piece, c.skip)
      | _ => do
        let (gap, c) ← readBlanks 0 fuel .none c
        let (text, c) ← readSingleQuoted fuel c
        return (piece ++ gap.text ++ text, c)

/-- Reads a scalar in double quotes. A line end after a backslash is left out, with the blanks of
the next line. -/
def readDoubleQuoted : Nat → Cursor → Option (List Char × Cursor)
  | 0, _ => none
  | fuel + 1, c =>
    if c.column = 0 ∧ atDocumentMark c.rest then none
    else do
      let (piece, rest) ← splitDoublePiece c.rest
      let c := c.skipTo rest
      match rest with
      | [] => none
      | '"' :: _ => return (piece, c.skip)
      | x :: _ => do
        let (gap, c) ←
          if x = '\\' then readBlanks 0 fuel ⟨[], [], [], true⟩ c.skip.skipLine
          else readBlanks 0 fuel .none c
        let (text, c) ← readDoubleQuoted fuel c
        return (piece ++ gap.text ++ text, c)

end SchemaCatalog.Yaml
