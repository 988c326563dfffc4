import SchemaCatalog.Yaml.Cursor

/-!
# Block scalars

* `Yaml.readBlock`: a scalar after its bar or angle, line by line, with or without folding.
-/

namespace SchemaCatalog.Yaml

/-- What happens to the line ends after the last line: all are dropped, the first stays, or all
stay. -/
inductive Chomp
  | strip
  | clip
  | keep
  deriving DecidableEq, Repr

/-- The marks after the bar or angle; `increment` is how far the block is indented, if it is told.
-/
structure BlockHeader where
  chomp : Chomp
  increment : Option Nat
  deriving DecidableEq, Repr

def chomp? (c : Char) : Option Chomp :=
  if c = '+' then some .keep else if c = '-' then some .strip else none

/-- Reads the marks after the bar or angle, in either order; an indentation of zero is refused. -/
def readBlockHeader (c : Cursor) : Option (BlockHeader × Cursor) :=
  let digit (c : Cursor) : Option (Option Nat × Cursor) :=
    match c.rest with
    | d :: _ =>
      if d = '0' then none
      else if d.isDigit then some (some (d.toNat - 48), c.skip)
      else some (none, c)
    | [] => some (none, c)
  match c.rest.head?.bind chomp? with
  | some chomp => (digit c.skip).map fun r => (⟨chomp, r.1⟩, r.2)
  | none =>
    (digit c).map fun r =>
      match r.1, r.2.rest.head?.bind chomp? with
      | some n, some chomp => (⟨chomp, some n⟩, r.2.skip)
      | n, _ => (⟨.clip, n⟩, r.2)

/-- Reads indentation and empty lines. `indent` is zero as long as the indentation is not known;
`widest` is the widest one seen. The answer holds the line ends and the widest indentation. -/
def readEmptyLines (indent : Nat) : Nat → Nat → List Char → Cursor →
    Option (Nat × List Char × Cursor)
  | 0, widest, breaks, c => some (widest, breaks, c)
  | fuel + 1, widest, breaks, c =>
    let c := c.skipN <|
      let spaces := (c.rest.takeWhile (· = ' ')).length
      if indent = 0 then spaces else min spaces (indent - c.column)
    let widest := max widest c.column
    if (indent = 0 ∨ c.column < indent) ∧ c.rest.head? = some '\t' then none
    else
      match c.rest with
      | b :: _ =>
        if isBreak b then readEmptyLines indent fuel widest (breaks ++ c.lineBreak) c.skipLine
        else some (widest, breaks, c)
      | [] => some (widest, breaks, c)

/-- The lines of a block so far: the text without the last line end, that line end, the empty lines
after it, and whether the last line starts with a blank. -/
structure BlockLines where
  text : List Char
  lastBreak : List Char
  breaks : List Char
  leadingBlank : Bool
  deriving Repr

namespace BlockLines

/-- The text in front of one more line, which starts with a blank or not. A folded line end between
two lines that do not start with a blank is a space, or nothing if empty lines follow it. -/
def joined (b : BlockLines) (folded startsBlank : Bool) : List Char :=
  if folded && b.lastBreak = ['\n'] && !b.leadingBlank && !startsBlank then
    b.text ++ (if b.breaks.isEmpty then [' '] else []) ++ b.breaks
  else b.text ++ b.lastBreak ++ b.breaks

/-- The whole text. -/
def finish (b : BlockLines) : Chomp → List Char
  | .strip => b.text
  | .clip => b.text ++ b.lastBreak
  | .keep => b.text ++ b.lastBreak ++ b.breaks

end BlockLines

/-- Reads the lines that are indented by `indent`. -/
def readBlockLines (folded : Bool) (indent : Nat) :
    Nat → BlockLines → Cursor → Option (BlockLines × Cursor)
  | 0, b, c => some (b, c)
  | fuel + 1, b, c =>
    if c.column ≠ indent ∨ c.rest.isEmpty then some (b, c)
    else do
      let startsBlank := (c.rest.head?.map isBlank).getD false
      let line := c.rest.takeWhile fun x => !isBreak x
      let c := c.skipN line.length
      let lastBreak := c.lineBreak
      let text := b.joined folded startsBlank ++ line
      let c := c.skipLine
      let (_, breaks, c) ← readEmptyLines indent c.rest.length 0 [] c
      readBlockLines folded indent fuel ⟨text, lastBreak, breaks, startsBlank⟩ c

/-- Reads a block scalar after its bar or angle. `outer` is the indentation around it, `-1` at the
top level. -/
def readBlock (folded : Bool) (outer : Int) (c : Cursor) : Option (List Char × Cursor) := do
  let (header, c) ← readBlockHeader c
  let c := c.skipWhile isBlank
  let c := if c.rest.head? = some '#' then c.skipWhile fun x => !isBreak x else c
  if atBreakOrEnd c.rest = false then .none
  let c := c.skipLine
  let told := (header.increment.map fun n => if 0 ≤ outer then outer.toNat + n else n).getD 0
  let (widest, breaks, c) ← readEmptyLines told (c.rest.length + 1) 0 [] c
  let indent := if told = 0 then max (max widest (outer + 1).toNat) 1 else told
  let (lines, c) ← readBlockLines folded indent (c.rest.length + 1) ⟨[], [], breaks, false⟩ c
  return (lines.finish header.chomp, c)

end SchemaCatalog.Yaml
