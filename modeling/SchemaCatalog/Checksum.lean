import SchemaCatalog.Text.Utf8

/-!
# CRC-32

The checksum with the reflected polynomial `0xEDB88320`, all ones as start value and as final mask.

* `Checksum.update`: one byte at a time. `Checksum.start`, `Checksum.feed`, `Checksum.finish`: a
  text may be fed in pieces.
* `Checksum.ofBytes`: the checksum of a text that is fed at once.
* `Checksum.feed_append`: feeding two pieces is feeding their concatenation.
-/

namespace SchemaCatalog.Checksum

/-- One bit of polynomial division. -/
def shift (state : UInt32) : UInt32 :=
  if state &&& 1 = 1 then (state >>> 1) ^^^ 0xEDB88320 else state >>> 1

/-- The state after one more byte. -/
def update (state : UInt32) (b : UInt8) : UInt32 :=
  shift (shift (shift (shift (shift (shift (shift (shift (state ^^^ b.toUInt32))))))))

/-- The state after more bytes. -/
def feed (state : UInt32) (bs : List UInt8) : UInt32 :=
  bs.foldl update state

/-- The state before the first byte. -/
def start : UInt32 := 0xFFFFFFFF

/-- The checksum of all bytes that led to a state. -/
def finish (state : UInt32) : UInt32 := state ^^^ 0xFFFFFFFF

def ofBytes (bs : List UInt8) : UInt32 := finish (feed start bs)

theorem feed_append (state : UInt32) (bs cs : List UInt8) :
    feed state (bs ++ cs) = feed (feed state bs) cs :=
  List.foldl_append

end SchemaCatalog.Checksum
