/-!
# Labels in ASCII letters

A label with other characters is written as its ASCII characters, a dash, and small numbers in
letters and digits, which say where the others belong.

* `Punycode.encode`, `Punycode.decode`.
-/

namespace SchemaCatalog.Url.Punycode

/-! ## Numbers -/

/-- The letter or digit for a value below 36. -/
def digit (n : Nat) : Char := Char.ofNat (if n < 26 then 97 + n else 22 + n)

def value? (c : Char) : Option Nat :=
  if c.isLower then some (c.toNat - 97) else if c.isDigit then some (c.toNat - 22) else none

/-- The least value at place `k` that another digit follows. -/
def threshold (k bias : Nat) : Nat := if k ≤ bias then 1 else min (k - bias) 26

theorem threshold_pos (k bias : Nat) : 1 ≤ threshold k bias := by
  unfold threshold
  split <;> omega

/-- Divides by 35 until the number is at most 455, and counts 36 for each time. -/
def scaleDown (delta : Nat) : Nat × Nat :=
  if 455 < delta then
    let r := scaleDown (delta / 35)
    (r.1, r.2 + 36)
  else (delta, 0)
termination_by delta
decreasing_by omega

/-- The bias after a number, of which `count` have been written. -/
def adapt (delta count : Nat) (first : Bool) : Nat :=
  let delta := if first then delta / 700 else delta / 2
  let r := scaleDown (delta + delta / count)
  r.2 + 36 * r.1 / (r.1 + 38)

/-- The digits of a number from place `k` on. -/
def digits (bias k n : Nat) : List Char :=
  let t := threshold k bias
  if n < t then [digit n]
  else digit (t + (n - t) % (36 - t)) :: digits bias (k + 36) ((n - t) / (36 - t))
termination_by n
decreasing_by
  have := threshold_pos k bias
  have := Nat.div_le_self (n - threshold k bias) (36 - threshold k bias)
  omega

/-! ## Writing -/

/-- What has been written of a label: the digits so far, the steps since the last character, the
bias of the next number, and how many characters. -/
structure Writing where
  text : List Char
  delta : Nat
  bias : Nat
  count : Nat
  deriving Repr

/-- Passes a character of the label while those with the code `code` are written. -/
def Writing.pass (basic code : Nat) (w : Writing) (c : Char) : Writing :=
  if c.toNat < code then { w with delta := w.delta + 1 }
  else if c.toNat = code then
    ⟨w.text ++ digits w.bias 36 w.delta, 0, adapt w.delta (w.count + 1) (w.count == basic),
      w.count + 1⟩
  else w

/-- Writes the characters with given codes in increasing order; `code` is the least code that is
left. -/
def writeCodes (label : List Char) (basic : Nat) : Nat → List Nat → Writing → Writing
  | _, [], w => w
  | code, next :: rest, w =>
    let w := { w with delta := w.delta + (next - code) * (w.count + 1) }
    let w := label.foldl (Writing.pass basic next) w
    writeCodes label basic (next + 1) rest { w with delta := w.delta + 1 }

def encode (label : List Char) : List Char :=
  let basic := label.filter fun c => c.toNat < 128
  let codes := ((label.map Char.toNat).filter fun n => 128 ≤ n).mergeSort.eraseDups
  let w := writeCodes label basic.length 128 codes ⟨[], 0, 72, basic.length⟩
  (if basic.isEmpty then [] else basic ++ ['-']) ++ w.text

/-! ## Reading -/

/-- What has been read of a label. `code` is the last character that was put in. `index` is the
place of the next one, with a multiple of the number of places for each code in between, and was
`before` ahead of this number. `weight` and `place` are those of the next digit. -/
structure Reading where
  label : List Char
  code : Nat
  index : Nat
  before : Nat
  bias : Nat
  weight : Nat
  place : Nat
  deriving Repr

def limit : Nat := Nat.pow 2 32 - 1

/-- Puts in the character at which a number points. -/
def Reading.insert (r : Reading) : Option Reading :=
  let count := r.label.length + 1
  let code := r.code + r.index / count
  let i := r.index % count
  if limit < code ∨ 0x10FFFF < code ∨ (0xD800 ≤ code ∧ code ≤ 0xDFFF) then none
  else
    let label := r.label.take i ++ Char.ofNat code :: r.label.drop i
    some ⟨label, code, i + 1, i + 1, adapt (r.index - r.before) count (r.before == 0), 1, 36⟩

/-- Reads digits. A number may not end in the middle. -/
def readDigits (r : Reading) : List Char → Option (List Char)
  | [] => if r.place = 36 then some r.label else none
  | c :: cs =>
    match value? c with
    | none => none
    | some d =>
      let index := r.index + d * r.weight
      let t := threshold r.place r.bias
      if limit < index then none
      else if d < t then
        match { r with index }.insert with
        | some r => readDigits r cs
        | none => none
      else if limit < r.weight * (36 - t) then none
      else readDigits { r with index, weight := r.weight * (36 - t), place := r.place + 36 } cs

def decode (s : List Char) : Option (List Char) :=
  let tail := (s.reverse.takeWhile (· ≠ '-')).reverse
  let basic := s.take (s.length - tail.length - 1)
  let tail := if basic.isEmpty then s else tail
  readDigits ⟨basic, 128, 0, 0, 72, 1, 36⟩ tail

end SchemaCatalog.Url.Punycode
