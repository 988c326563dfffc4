import SchemaCatalog.Checksum

/-!
# Subject and version pairs

* `Key`: the pair that names an artifact version, with its checksum. `Key.same`: when two keys are
  the same.
* `KeySet`: a set of keys, bucketed by a hash of what a key is known by, its checksum.
  `KeySet.insert` and `KeySet.contains` compare the keys within a bucket.
-/

namespace SchemaCatalog

/-- A subject at a version, which is a number or `latest`. -/
structure Key where
  subject : String
  version : String
  deriving DecidableEq, Repr

namespace Key

def ofPair (p : String × String) : Key := ⟨p.1, p.2⟩

/-- The checksum of the subject's bytes followed by the version's. They are fed one after the
other. -/
def checksum (k : Key) : UInt32 :=
  Checksum.finish (Checksum.feed (Checksum.feed Checksum.start (Text.utf8 k.subject))
    (Text.utf8 k.version))

def text (k : Key) : String := k.subject ++ ":" ++ k.version

/-- Whether two keys are the same. Their checksums are compared first, and then their texts. -/
def same (k l : Key) : Bool :=
  k.checksum == l.checksum && k.subject == l.subject && k.version == l.version

def isFor (k : Key) (subject version : String) : Bool :=
  k.subject == subject && k.version == version

/-- The bytes that place a key in a hash table: its checksum, most significant byte first. -/
def hashBytes (k : Key) : List UInt8 :=
  let n := k.checksum.toNat
  [UInt8.ofNat (n / 16777216), UInt8.ofNat (n / 65536), UInt8.ofNat (n / 256), UInt8.ofNat n]

/-- **The checksum sees only the concatenated text.** -/
theorem checksum_eq_ofBytes (k : Key) :
    k.checksum = Checksum.ofBytes (Text.utf8 (k.subject ++ k.version)) := by
  rw [checksum, ← Checksum.feed_append, ← Text.utf8_append, Checksum.ofBytes]

theorem isFor_iff {k : Key} {subject version : String} :
    k.isFor subject version = true ↔ k = ⟨subject, version⟩ := by
  cases k
  simp [isFor]

end Key

/-- Keys in buckets, one bucket per hash in use; `hash` is that of the bytes that place a key. Keys
are in the order of their insertion. -/
structure KeySet where
  hash : List UInt8 → UInt64
  buckets : List (UInt64 × List Key)

namespace KeySet

/-- The empty set whose keys are placed by `hash`. -/
def withHash (hash : List UInt8 → UInt64) : KeySet := ⟨hash, []⟩

/-- The empty set whose keys are placed by their bytes as a number. -/
def empty : KeySet := withHash fun bs => bs.foldl (fun n b => 256 * n + b.toUInt64) 0

def place (s : KeySet) (k : Key) : UInt64 := s.hash k.hashBytes

/-- The keys with hash `n`. -/
def bucket (s : KeySet) (n : UInt64) : List Key :=
  (s.buckets.lookup n).getD []

/-- Whether `k` was inserted. -/
def contains (s : KeySet) (k : Key) : Bool :=
  (s.bucket (s.place k)).any fun l => k.same l

/-- The buckets with `k` added to that of `n`, which is opened if need be. -/
def addTo (n : UInt64) (k : Key) : List (UInt64 × List Key) → List (UInt64 × List Key)
  | [] => [(n, [k])]
  | (m, ks) :: rest => if m = n then (m, ks ++ [k]) :: rest else (m, ks) :: addTo n k rest

/-- Adds `k` unless it is there; the answer tells whether it was new. -/
def insert (s : KeySet) (k : Key) : Bool × KeySet :=
  if s.contains k then (false, s)
  else (true, { s with buckets := addTo (s.place k) k s.buckets })

def size (s : KeySet) : Nat :=
  s.buckets.foldl (fun n b => n + b.2.length) 0

end KeySet

end SchemaCatalog
