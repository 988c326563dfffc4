import SchemaCatalog.Url.Ipv4

/-!
# IPv6 addresses in hosts

Eight groups of up to four hexadecimal digits. One run of zero groups may be written as two colons,
and the last two groups as an IPv4 address.

* `Ipv6.parse`, `Ipv6.text`.
-/

namespace SchemaCatalog.Url.Ipv6

/-- The groups read so far, and how many of them stand before the double colon, if there was one. -/
structure Groups where
  read : List Nat
  gap : Option Nat
  deriving Repr

def group? (p : List Char) : Option Nat :=
  if p.isEmpty ∨ 4 < p.length then none else Digits.number? 16 p

/-- The byte with these decimal digits, without leading zeros. -/
def byte? (p : List Char) : Option Nat :=
  match p with
  | [] => none
  | '0' :: _ :: _ => none
  | p => (Digits.number? 10 p).bind fun n => if n ≤ 255 then some n else none

/-- The two groups of an embedded IPv4 address. -/
def embedded? (p : List Char) : Option (List Nat) :=
  match (p.splitOn '.').mapM byte? with
  | some [a, b, c, d] => some [256 * a + b, 256 * c + d]
  | _ => none

/-- Reads the texts between colons. An empty one is the double colon; `atGap` says that the last
text may be empty, because a double colon is just before it. -/
def readGroups (g : Groups) (atGap : Bool) : List (List Char) → Option Groups
  | [] => some g
  | p :: ps =>
    if p.isEmpty then
      if ps.isEmpty then
        if atGap then some g else none
      else if g.read.length = 8 ∨ g.gap.isSome then none
      else readGroups ⟨g.read ++ [0], some (g.read.length + 1)⟩ true ps
    else if g.read.length = 8 then none
    else if ps.isEmpty ∧ p.contains '.' then
      if 6 < g.read.length then none
      else (embedded? p).map fun es => ⟨g.read ++ es, g.gap⟩
    else
      match group? p with
      | none => none
      | some n => readGroups ⟨g.read ++ [n], g.gap⟩ false ps

/-- The eight groups, zeros put where the double colon stands. -/
def fill (g : Groups) : Option (List Nat) :=
  match g.gap with
  | none => if g.read.length = 8 then some g.read else none
  | some k => some (g.read.take k ++ List.replicate (8 - g.read.length) 0 ++ g.read.drop k)

/-- The groups of the text between the brackets. -/
def parse (s : List Char) : Except Url.Error (List Nat) :=
  let groups := match s with
    | ':' :: ':' :: rest => readGroups ⟨[0], some 1⟩ true (rest.splitOn ':')
    | ':' :: _ => none
    | s => if s.length < 2 then none else readGroups ⟨[], none⟩ false (s.splitOn ':')
  match groups.bind fill with
  | some gs => .ok gs
  | none => .error .ipv6

/-- The start and length of the first longest run of zeros; `start` is the index of the list, and
`best` the longest run so far. -/
def longestRun (start : Nat) (best : Nat × Nat) (gs : List Nat) : Nat × Nat :=
  match gs with
  | [] => best
  | g :: rest =>
    let run := (start, (g :: rest).takeWhile (· = 0) |>.length)
    longestRun (start + 1) (if best.2 < run.2 then run else best) rest

/-- Groups in hexadecimal with colons between them. -/
def joined (gs : List Nat) : List Char :=
  List.intercalate [':'] (gs.map Hex.ofNat)

/-- An address in brackets; the first longest run of at least two zero groups is left out. -/
def text (gs : List Nat) : List Char :=
  let (start, count) := longestRun 0 (0, 0) gs
  let inner :=
    if count < 2 then joined gs
    else joined (gs.take start) ++ [':', ':'] ++ joined (gs.drop (start + count))
  '[' :: inner ++ [']']

end SchemaCatalog.Url.Ipv6
