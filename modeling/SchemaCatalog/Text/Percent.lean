import SchemaCatalog.Text.Hex
import SchemaCatalog.Text.Utf8

/-!
# Percent encoding

* `Percent.encode`: a text as one path segment: letters, digits and `-._~` stand for themselves,
  every other byte is written as `%` and two upper-case digits.
* `Percent.decode`: the bytes that such a text stands for.
-/

namespace SchemaCatalog.Percent

/-- Whether a byte stands for itself. -/
def isUnreserved (b : UInt8) : Bool :=
  let n := b.toNat
  decide ((48 ≤ n ∧ n ≤ 57) ∨ (65 ≤ n ∧ n ≤ 90) ∨ (97 ≤ n ∧ n ≤ 122) ∨
    n = 45 ∨ n = 46 ∨ n = 95 ∨ n = 126)

def escapeByte (b : UInt8) : List Char :=
  ['%', Hex.upperDigit (b.toNat / 16), Hex.upperDigit (b.toNat % 16)]

/-- A byte in its written form. -/
def encodeByte (b : UInt8) : List Char :=
  if isUnreserved b then [Char.ofNat b.toNat] else escapeByte b

def encode (s : String) : List Char :=
  (Text.utf8 s).flatMap encodeByte

/-- The bytes of a written text: an escape stands for one byte, and a `%` without two digits after
it for itself. -/
def decode : List Char → List UInt8
  | [] => []
  | '%' :: a :: b :: rest =>
    match Hex.value? a.toNat, Hex.value? b.toNat with
    | some h, some l => UInt8.ofNat (16 * h + l) :: decode rest
    | _, _ => 37 :: decode (a :: b :: rest)
  | c :: rest => String.utf8EncodeChar c ++ decode rest

end SchemaCatalog.Percent
