import SchemaCatalog.Json.Reader

/-!
# Schema ids

* `SchemaId`: the 32-bit number under which the registry keeps a schema.
* `SchemaId.ofJson?`: reads one.
* `ResolvedSchema`: an id with the schema text found for it.
-/

namespace SchemaCatalog

structure SchemaId where
  val : UInt32
  deriving DecidableEq, Repr

namespace SchemaId

def text (id : SchemaId) : String := toString id.val.toNat

/-- The id of a number below `2^32`. -/
def ofNat? (n : Nat) : Option SchemaId :=
  if n < 4294967296 then some ⟨UInt32.ofNat n⟩ else none

def compare (a b : SchemaId) : Ordering := Ord.compare a.val.toNat b.val.toNat

/-- The id that a JSON text holds as an integer. -/
def ofJson? (s : String) : Option SchemaId := do
  let n ← (← Json.parse s.toList).asUInt64?
  ofNat? n.toNat

theorem val_of_ofNat? {n : Nat} {id : SchemaId} (h : ofNat? n = some id) : id.val.toNat = n := by
  unfold ofNat? at h
  split at h
  · cases h
    simp only [UInt32.toNat_ofNat']
    omega
  · cases h

end SchemaId

structure ResolvedSchema where
  id : SchemaId
  schema : String
  deriving DecidableEq, Repr

end SchemaCatalog
