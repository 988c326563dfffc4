/-!
# Hexadecimal text

Two digits per byte. Writing uses lower-case digits, reading takes either case.

* `Hex.encode`, `Hex.decode`: bytes to digits and back.
* `Hex.DecodeError`: why a text is refused.
-/

namespace SchemaCatalog.Hex

/-- The lower-case digit of a value below sixteen. -/
def digit (n : Nat) : Char :=
  if n < 10 then Char.ofNat (48 + n) else Char.ofNat (87 + n)

/-- The upper-case digit of a value below sixteen. -/
def upperDigit (n : Nat) : Char :=
  if n < 10 then Char.ofNat (48 + n) else Char.ofNat (55 + n)

/-- The value of a digit given by its code, in either case. -/
def value? (code : Nat) : Option Nat :=
  if 48 ≤ code ∧ code ≤ 57 then some (code - 48)
  else if 97 ≤ code ∧ code ≤ 102 then some (code - 87)
  else if 65 ≤ code ∧ code ≤ 70 then some (code - 55)
  else none

/-- The two digits of a byte. -/
def encodeByte (b : UInt8) : List Char :=
  [digit (b.toNat / 16), digit (b.toNat % 16)]

def encode (bs : List UInt8) : String :=
  String.ofList (bs.flatMap encodeByte)

/-- The digits of a number, most significant first, without leading zeros. -/
def ofNat (n : Nat) : List Char :=
  Nat.toDigits 16 n

/-- Why a text is no hexadecimal text: the number of its bytes is odd, or the byte `code` at `index`
is no digit. -/
inductive DecodeError
  | oddLength
  | invalidDigit (code : UInt8) (index : Nat)
  deriving DecidableEq, Repr

/-- Reads pairs of digits; `index` counts the bytes before `text`. -/
def decodePairs (index : Nat) : List UInt8 → Except DecodeError (List UInt8)
  | hi :: lo :: rest =>
    match value? hi.toNat, value? lo.toNat with
    | none, _ => .error (.invalidDigit hi index)
    | some _, none => .error (.invalidDigit lo (index + 1))
    | some h, some l => (decodePairs (index + 2) rest).map (UInt8.ofNat (16 * h + l) :: ·)
  | _ => .ok []

/-- Reads hexadecimal text, given by its bytes; an odd length is refused first. -/
def decode (text : List UInt8) : Except DecodeError (List UInt8) :=
  if text.length % 2 = 1 then .error .oddLength else decodePairs 0 text

end SchemaCatalog.Hex
