import SchemaCatalog.Json.Number
import SchemaCatalog.Text.Digits

/-!
# Reading JSON

Strict JSON: one value with blanks around it, at most 127 levels of lists and objects.

* `Json.readString`: a quoted text with its escapes; a surrogate that stands alone is refused.
* `Json.readValue`: one value off the front of a text.
* `Json.parse`: a whole text.
-/

namespace SchemaCatalog.Json

/-- The four characters that may stand between tokens. -/
def isBlank (c : Char) : Bool :=
  c = ' ' || c = '\n' || c = '\r' || c = '\t'

/-- The text without the blanks at its front. -/
def skipBlanks (s : List Char) : List Char := s.dropWhile isBlank

/-! ## Texts -/

/-- The 16-bit number of four hexadecimal digits. -/
def unit? (a b c d : Char) : Option Nat := Digits.number? 16 [a, b, c, d]

/-- The character of a one-letter escape. -/
def simpleEscape? (c : Char) : Option Char :=
  if c = '"' ∨ c = '\\' ∨ c = '/' then some c
  else if c = 'b' then some (Char.ofNat 8)
  else if c = 'f' then some (Char.ofNat 12)
  else if c = 'n' then some '\n'
  else if c = 'r' then some '\r'
  else if c = 't' then some '\t'
  else none

def isHighHalf (n : Nat) : Bool := decide (0xD800 ≤ n ∧ n ≤ 0xDBFF)

def isLowHalf (n : Nat) : Bool := decide (0xDC00 ≤ n ∧ n ≤ 0xDFFF)

def pairChar (hi lo : Nat) : Char :=
  Char.ofNat (0x10000 + (hi - 0xD800) * 0x400 + (lo - 0xDC00))

/-- Reads the rest of a quoted text up to its closing quote. -/
def readString : List Char → Option (List Char × List Char)
  | [] => none
  | '"' :: rest => some ([], rest)
  | '\\' :: 'u' :: a :: b :: c :: d :: rest =>
    match unit? a b c d with
    | none => none
    | some n =>
      if isLowHalf n then none
      else if isHighHalf n then
        match rest with
        | '\\' :: 'u' :: a' :: b' :: c' :: d' :: rest' =>
          match unit? a' b' c' d' with
          | none => none
          | some m =>
            if isLowHalf m then
              (readString rest').map fun r => (pairChar n m :: r.1, r.2)
            else none
        | _ => none
      else (readString rest).map fun r => (Char.ofNat n :: r.1, r.2)
  | '\\' :: c :: rest =>
    match simpleEscape? c with
    | none => none
    | some e => (readString rest).map fun r => (e :: r.1, r.2)
  | c :: rest =>
    if c.toNat < 32 ∨ c = '\\' then none
    else (readString rest).map fun r => (c :: r.1, r.2)

/-! ## Values -/

/-- Drops `word` from the front of a text. -/
def dropWord : List Char → List Char → Option (List Char)
  | [], s => some s
  | w :: ws, c :: s => if c = w then dropWord ws s else none
  | _ :: _, [] => none

mutual

/-- Reads a value, blanks before it included. `depth` is the number of levels that may still be
opened, and `fuel` bounds the number of steps. -/
def readValue (fuel depth : Nat) (s : List Char) : Option (Json × List Char) :=
  match fuel with
  | 0 => none
  | fuel + 1 =>
    match skipBlanks s with
    | [] => none
    | '"' :: rest => (readString rest).map fun r => (string (String.ofList r.1), r.2)
    | '[' :: rest =>
      match depth with
      | 0 => none
      | depth + 1 =>
        match skipBlanks rest with
        | ']' :: rest => some (array [], rest)
        | rest => (readItems fuel depth rest).map fun r => (array r.1, r.2)
    | '\x7b' :: rest =>
      match depth with
      | 0 => none
      | depth + 1 =>
        match skipBlanks rest with
        | '\x7d' :: rest => some (object [], rest)
        | rest => (readMembers fuel depth rest).map fun r => (object r.1, r.2)
    | 'n' :: rest => (dropWord ['u', 'l', 'l'] rest).map fun r => (null, r)
    | 't' :: rest => (dropWord ['r', 'u', 'e'] rest).map fun r => (bool true, r)
    | 'f' :: rest => (dropWord ['a', 'l', 's', 'e'] rest).map fun r => (bool false, r)
    | rest => do
      let (literal, rest) ← Literal.read rest
      return (number (← literal.value?), rest)

/-- Reads the items of a list up to its closing bracket; at least one follows. -/
def readItems (fuel depth : Nat) (s : List Char) : Option (List Json × List Char) :=
  match fuel with
  | 0 => none
  | fuel + 1 => do
    let (item, rest) ← readValue fuel depth s
    match skipBlanks rest with
    | ']' :: rest => return ([item], rest)
    | ',' :: rest =>
      let (items, rest) ← readItems fuel depth rest
      return (item :: items, rest)
    | _ => none

/-- Reads the members of an object up to its closing brace; at least one follows. -/
def readMembers (fuel depth : Nat) (s : List Char) : Option (List (String × Json) × List Char) :=
  match fuel with
  | 0 => none
  | fuel + 1 =>
    match skipBlanks s with
    | '"' :: rest => do
      let (name, rest) ← readString rest
      match skipBlanks rest with
      | ':' :: rest =>
        let (value, rest) ← readValue fuel depth rest
        match skipBlanks rest with
        | '\x7d' :: rest => return ([(String.ofList name, value)], rest)
        | ',' :: rest =>
          let (members, rest) ← readMembers fuel depth rest
          return ((String.ofList name, value) :: members, rest)
        | _ => none
      | _ => none
    | _ => none

end

/-- The greatest number of levels of lists and objects. -/
def maxDepth : Nat := 127

/-- Reads a text that holds one value and nothing else. -/
def parse (s : List Char) : Option Json := do
  let (value, rest) ← readValue (2 * s.length + 2) maxDepth s
  if (skipBlanks rest).isEmpty then return value else none

end SchemaCatalog.Json
