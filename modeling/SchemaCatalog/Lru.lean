/-!
# Bounded cache with least-recently-used eviction

The entries are a list with the most recently touched key first.

* `Lru.get`, `Lru.insert`, `Lru.erase`: each says which entries it moves.
* `Lru.contains`, `Lru.size`: looking does not touch.
-/

namespace SchemaCatalog

/-- A cache that holds at most `capacity` entries, most recently touched first. -/
structure Lru (κ α : Type) where
  capacity : Nat
  entries : List (κ × α)
  deriving Repr

namespace Lru

section

variable {κ α : Type} [DecidableEq κ]

/-- An empty cache; it keeps at least one entry, also for capacity zero. -/
def empty (capacity : Nat) : Lru κ α := ⟨max capacity 1, []⟩

def find? (k : κ) (entries : List (κ × α)) : Option α :=
  (entries.find? fun e => e.1 = k).map Prod.snd

/-- The entries of other keys. -/
def without (k : κ) (entries : List (κ × α)) : List (κ × α) :=
  entries.filter fun e => e.1 ≠ k

/-- The value of `k`, whose entry becomes the most recent one. -/
def get (c : Lru κ α) (k : κ) : Option α × Lru κ α :=
  match find? k c.entries with
  | some a => (some a, { c with entries := (k, a) :: without k c.entries })
  | none => (none, c)

/-- Sets the value of `k` and makes its entry the most recent one. A new key in a full cache drives
out the entry that was touched least recently. -/
def insert (c : Lru κ α) (k : κ) (a : α) : Lru κ α :=
  { c with entries := ((k, a) :: without k c.entries).take c.capacity }

/-- Removes `k` and gives its value. -/
def erase (c : Lru κ α) (k : κ) : Option α × Lru κ α :=
  (find? k c.entries, { c with entries := without k c.entries })

def contains (c : Lru κ α) (k : κ) : Bool := (find? k c.entries).isSome

def size (c : Lru κ α) : Nat := c.entries.length

def describe (c : Lru κ α) : String :=
  s!"BoundedCache \x7b len: {c.size}, capacity: {c.capacity} \x7d"

end

end Lru

end SchemaCatalog
