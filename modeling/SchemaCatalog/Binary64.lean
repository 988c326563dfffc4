/-!
# Double-precision magnitudes

A finite magnitude is `m · 2^q` with `m < 2^53` and `-1074 ≤ q`, as IEEE 754 has it.

* `Binary64.ofRatio`, `Binary64.ofDecimal`: the nearest magnitude, a tie going to the even one.
* `Binary64.shortest`: the fewest decimal digits that read back as the same magnitude.
* `Binary64.text`: those digits written out with a decimal point and no exponent.
-/

namespace SchemaCatalog

/-- A magnitude that a double can have: the number `m · 2^q`, or infinity beyond the largest finite
one. -/
inductive Binary64
  | finite (m : Nat) (q : Int)
  | infinite
  deriving DecidableEq, Repr

namespace Binary64

/-- The quotient rounded to the nearest whole number, a tie going to the even one. -/
def roundDiv (num den : Nat) : Nat :=
  let c := num / den
  let r := num % den
  if den < 2 * r then c + 1 else if 2 * r = den then c + c % 2 else c

/-- The numerator and denominator of `n · b^e`. -/
def scale (b n : Nat) (e : Int) : Nat × Nat :=
  if 0 ≤ e then (n * Nat.pow b e.toNat, 1) else (n, Nat.pow b (-e).toNat)

/-- The largest `e` with `2^e ≤ num / den`, for a positive quotient. -/
def floorLog2 (num den : Nat) : Int :=
  let e : Int := (Nat.log2 num : Int) - (Nat.log2 den : Int)
  let (p, r) := scale 2 den e
  if p ≤ num * r then e else e - 1

/-- The magnitude `m · 2^q`, or infinity from `2^1024` on. -/
def ofScaled (m : Nat) (q : Int) : Binary64 :=
  let (m, q) := if m = Nat.pow 2 53 then (Nat.pow 2 52, q + 1) else (m, q)
  if 971 < q then infinite else finite m q

/-- The magnitude nearest to `num / den`. -/
def ofRatio (num den : Nat) : Binary64 :=
  if num = 0 then finite 0 0
  else
    let q := max (floorLog2 num den - 52) (-1074)
    let (p, r) := scale 2 den q
    ofScaled (roundDiv (num * r) p) q

/-- The magnitude nearest to `digits · 10^e`. An exponent far outside the range decides the result
without computing the power. -/
def ofDecimal (digits : Nat) (e : Int) : Binary64 :=
  if digits = 0 then finite 0 0
  else
    let places : Int := (Nat.toDigits 10 digits).length
    if 400 < e + places then infinite
    else if e + places < -400 then finite 0 0
    else
      let (num, den) := scale 10 digits e
      ofRatio num den

/-- The magnitude nearest to the product of two magnitudes. -/
def mul : Binary64 → Binary64 → Binary64
  | finite m q, finite n r =>
    let (num, den) := scale 2 (m * n) (q + r)
    ofRatio num den
  | _, _ => infinite

def isFinite : Binary64 → Bool
  | finite _ _ => true
  | infinite => false

/-! ## Decimal digits -/

/-- Whether `c · 10^s` rounds to `m · 2^q`: it lies between the midpoints to the two neighbours,
which count when `m` is even. -/
def readsBack (m : Nat) (q : Int) (c : Nat) (s : Int) : Bool :=
  let (x, d) := scale 10 c s
  ofRatio x d == finite m q

/-- The distance of `c · 10^s` from `m · 2^q` as a numerator over a common denominator. -/
def distance (m : Nat) (q : Int) (c : Nat) (s : Int) : Nat :=
  let (x, d) := scale 10 c s
  let (v, w) := scale 2 m q
  (x * w - v * d) + (v * d - x * w)

/-- The decimal with `n` significant digits that reads back as `m · 2^q`, the nearer one of the two
next to it; `e` is the decimal exponent of the number. -/
def withDigits (m : Nat) (q e : Int) (n : Nat) : Option (Nat × Int) :=
  let s := e - (n : Int) + 1
  let (v, w) := scale 2 m q
  let (x, d) := scale 10 1 s
  let c := v * d / (w * x)
  match readsBack m q c s, readsBack m q (c + 1) s with
  | true, true => if distance m q (c + 1) s < distance m q c s then some (c + 1, s) else some (c, s)
  | true, false => some (c, s)
  | false, true => some (c + 1, s)
  | false, false => none

/-- The largest `e` with `10^e ≤ m · 2^q`, found by counting down from `e`. -/
def floorLog10 (m : Nat) (q : Int) : Nat → Int → Int
  | 0, e => e
  | fuel + 1, e =>
    let (v, w) := scale 2 m q
    let (x, d) := scale 10 1 e
    if x * w ≤ v * d then e else floorLog10 m q fuel (e - 1)

/-- The fewest digits `c`, with a power of ten `s`, for which `c · 10^s` reads back as `m · 2^q`. -/
def shortest (m : Nat) (q : Int) : Nat × Int :=
  if m = 0 then (0, 0)
  else
    let e := floorLog10 m q 640 309
    ((List.range' 1 17).findSome? (withDigits m q e)).getD (m, 0)

/-- The digits `c · 10^s` written out, with a decimal point and at least one digit on either side of
it. -/
def positional (c : Nat) (s : Int) : List Char :=
  let ds := Nat.toDigits 10 c
  if 0 ≤ s then ds ++ List.replicate s.toNat '0' ++ ['.', '0']
  else
    let places := (-s).toNat
    let padded := List.replicate (places + 1 - ds.length) '0' ++ ds
    let whole := padded.take (padded.length - places)
    let fraction := padded.drop (padded.length - places)
    whole ++ '.' :: fraction

/-- A magnitude in the fewest digits that read back. -/
def text : Binary64 → String
  | infinite => "inf"
  | finite m q =>
    let (c, s) := shortest m q
    String.ofList (positional c s)

end Binary64

end SchemaCatalog
