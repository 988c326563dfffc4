import SchemaCatalog.Text.Digits
import SchemaCatalog.Url.Basic

/-!
# IPv4 addresses in hosts

A host whose last part is a number has to be an address. Parts may be decimal, octal or hexadecimal,
and the last one stands for all bytes that are missing.

* `Ipv4.endsInNumber`, `Ipv4.parse`, `Ipv4.text`.
-/

namespace SchemaCatalog.Url.Ipv4

/-- The number in one part of a host: `0x` marks hexadecimal digits, a leading zero octal ones. -/
def number? : List Char → Option Nat
  | [] => none
  | '0' :: 'x' :: ds => Digits.number? 16 ds
  | '0' :: 'X' :: ds => Digits.number? 16 ds
  | '0' :: d :: ds => Digits.number? 8 (d :: ds)
  | ds => Digits.number? 10 ds

/-- The parts of a host between its dots. -/
def parts (host : List Char) : List (List Char) := host.splitOn '.'

/-- The parts without an empty one in the end, unless it is the only one. -/
def trimmedParts (host : List Char) : List (List Char) :=
  let ps := parts host
  if ps.getLast? = some [] then ps.dropLast else ps

/-- Whether the last part of a host is a number. -/
def endsInNumber (host : List Char) : Bool :=
  match (trimmedParts host).getLast? with
  | none => false
  | some p => (!p.isEmpty && p.all Char.isDigit) || (number? p).isSome

/-- The address with these numbers: all but the last are bytes, and the last fills the rest. -/
def combine (numbers : List Nat) : Option Nat :=
  match numbers.getLast? with
  | none => none
  | some last =>
    let bytes := numbers.dropLast
    if 4 < numbers.length then none
    else if Nat.pow 2 (8 * (4 - bytes.length)) ≤ last then none
    else if bytes.any fun b => decide (255 < b) then none
    else some (bytes.zipIdx.foldl (fun n b => n + b.1 * Nat.pow 2 (8 * (3 - b.2))) last)

def parse (host : List Char) : Except Url.Error Nat :=
  match ((trimmedParts host).mapM number?).bind combine with
  | some n => .ok n
  | none => .error .ipv4

def text (n : Nat) : List Char :=
  Nat.toDigits 10 (n / 16777216 % 256) ++ '.' :: Nat.toDigits 10 (n / 65536 % 256) ++
  '.' :: Nat.toDigits 10 (n / 256 % 256) ++ '.' :: Nat.toDigits 10 (n % 256)

end SchemaCatalog.Url.Ipv4
