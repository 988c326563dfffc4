import SchemaCatalog.Binary64
import SchemaCatalog.Json.Basic

/-!
# JSON numbers

* `Json.Literal`: the parts of a number as it is written.
* `Json.Literal.read`: splits a number off the front of a text.
* `Json.Literal.value?`: its value. A literal with a point, an exponent, a negative zero or too many
  digits is no integer; one beyond the range of doubles has no value.
-/

namespace SchemaCatalog.Json

/-- The parts of a number literal: whether a minus sign stands in front, the digits before and after
the point, and the sign and digits of the exponent. -/
structure Literal where
  negative : Bool
  whole : List Char
  fraction : Option (List Char)
  exponent : Option (Bool × List Char)
  deriving DecidableEq, Repr

namespace Literal

/-- Reads the digits before the point; a leading zero stands alone. -/
def readWhole : List Char → Option (List Char × List Char)
  | '0' :: rest => if (rest.head?.map Char.isDigit).getD false then none else some (['0'], rest)
  | s => if (s.takeWhile Char.isDigit).isEmpty then none
         else some (s.takeWhile Char.isDigit, s.dropWhile Char.isDigit)

/-- Reads a point and the digits after it, if a point follows. -/
def readFraction : List Char → Option (Option (List Char) × List Char)
  | '.' :: s => if (s.takeWhile Char.isDigit).isEmpty then none
                else some (some (s.takeWhile Char.isDigit), s.dropWhile Char.isDigit)
  | s => some (none, s)

def readExponentDigits (negative : Bool) (s : List Char) :
    Option (Option (Bool × List Char) × List Char) :=
  if (s.takeWhile Char.isDigit).isEmpty then none
  else some (some (negative, s.takeWhile Char.isDigit), s.dropWhile Char.isDigit)

/-- Reads an exponent, if one follows. -/
def readExponent : List Char → Option (Option (Bool × List Char) × List Char)
  | c :: s =>
    if c = 'e' ∨ c = 'E' then
      match s with
      | '+' :: r => readExponentDigits false r
      | '-' :: r => readExponentDigits true r
      | r => readExponentDigits false r
    else some (none, c :: s)
  | [] => some (none, [])

/-- Splits a number literal off the front of `s`. -/
def read (s : List Char) : Option (Literal × List Char) := do
  let (negative, s) := match s with
    | '-' :: r => (true, r)
    | r => (false, r)
  let (whole, s) ← readWhole s
  let (fraction, s) ← readFraction s
  let (exponent, s) ← readExponent s
  return (⟨negative, whole, fraction, exponent⟩, s)

def text (l : Literal) : String :=
  String.ofList <|
    (if l.negative then ['-'] else []) ++ l.whole ++
    (match l.fraction with | some ds => '.' :: ds | none => []) ++
    (match l.exponent with
      | some (true, ds) => 'e' :: '-' :: ds
      | some (false, ds) => 'e' :: ds
      | none => [])

/-! ## Range -/

/-- The largest number of 64 bits. -/
def maxSignificand : Nat := 18446744073709551615

/-- The digits before the point as `n · 10^e`: once a digit does not fit into 64 bits, it and those
after it only count as places. -/
def wholePart : Nat → List Char → Nat × Nat
  | n, [] => (n, 0)
  | n, c :: cs =>
    let n' := 10 * n + (c.toNat - '0'.toNat)
    if n' ≤ maxSignificand then wholePart n' cs else (n, cs.length + 1)

/-- The digits after the point, added to `n` as long as they fit; the second number counts them. -/
def fractionPart : Nat → Nat → List Char → Nat × Nat
  | n, k, [] => (n, k)
  | n, k, c :: cs =>
    let n' := 10 * n + (c.toNat - '0'.toNat)
    if n' ≤ maxSignificand then fractionPart n' (k + 1) cs else (n, k)

/-- The literal without its sign as `n · 10^e`, the exponent left out, of at most 64 bits. -/
def significand (l : Literal) : Nat × Int :=
  let (n, e) := wholePart 0 l.whole
  let (n, k) := fractionPart n 0 (l.fraction.getD [])
  (n, (e : Int) - (k : Int))

/-- Whether the magnitude is that of a finite double, computed as the product of the significand and
the power of ten, each rounded first. -/
def inRange (l : Literal) : Bool :=
  let (n, e) := l.significand
  let written : Int := match l.exponent with
    | some (true, ds) => -(Nat.ofDigitChars 10 ds 0 : Int)
    | some (false, ds) => Nat.ofDigitChars 10 ds 0
    | none => 0
  if n = 0 then true
  else if 2147483647 < written then false
  else
    let e := e + written
    if e < 0 then true
    else if 308 < e then false
    else ((Binary64.ofDecimal n 0).mul (Binary64.ofDecimal 1 e)).isFinite

def value? (l : Literal) : Option Number :=
  let n := Nat.ofDigitChars 10 l.whole 0
  if l.fraction.isNone ∧ l.exponent.isNone ∧ l.negative = false ∧ n ≤ maxSignificand then
    some (.natural (UInt64.ofNat n))
  else if l.fraction.isNone ∧ l.exponent.isNone ∧ l.negative = true ∧ n ≠ 0 ∧ n ≤ Nat.pow 2 63 then
    some (.negative n)
  else if l.inRange then some (.real l.text)
  else none

end Literal

end SchemaCatalog.Json
