import SchemaCatalog.IdEncoding
import SchemaCatalog.SchemaId

/-!
# The id envelope

An enveloped record is a zero byte, the schema id with its most significant byte first, and the
payload. The id is four or eight bytes wide.

* `Envelope.split`: a record as id and payload.
* `Envelope.header`: the bytes in front of the payload.
* `Envelope.decode`, `Envelope.encode`: through a payload codec, which writes chunks of bytes and
  reports a count or an error.
-/

namespace SchemaCatalog

/-- Why a record could not be encoded or decoded: it does not start with an envelope, the payload
encoder reported no bytes, or the payload codec failed. -/
inductive CodecError
  | missingEnvelope
  | emptyPayload
  | payload (reason : String)
  deriving DecidableEq, Repr

namespace CodecError

def message : CodecError → String
  | missingEnvelope => "Record has no schema id envelope"
  | emptyPayload => "Payload encoder produced no bytes"
  | payload reason => s!"Payload codec error: {reason}"

end CodecError

/-- What a payload codec is told besides the bytes: the trace and the stream that the record belongs
to, and the schema of the payload. -/
structure PayloadContext where
  traceId : UInt64
  streamId : UInt64
  schemaId : SchemaId
  deriving DecidableEq, Repr

/-- What a payload codec does with its bytes: the chunks that it writes, in order, and the count or
error that it reports in the end. -/
structure Writing where
  chunks : List (List UInt8)
  result : Except CodecError UInt64

namespace Writing

/-- All bytes written. -/
def bytes (w : Writing) : List UInt8 := w.chunks.flatten

/-- Writes `bs` in one chunk and reports how many there are. -/
def all (bs : List UInt8) : Writing := ⟨[bs], .ok (UInt64.ofNat bs.length)⟩

end Writing

abbrev PayloadCodec := PayloadContext → List UInt8 → Writing

def PayloadCodec.passThrough : PayloadCodec := fun _ bs => .all bs

/-- The result of a call together with what the receiver of the bytes holds after it. -/
structure Delivered where
  sink : List UInt8
  result : Except CodecError UInt64

namespace Envelope

def magicByte : UInt8 := 0

/-- The length of the longest envelope, which is also the headroom to reserve for one. -/
def maxLength : Nat := 9

/-- The number whose bytes are `bs`, the most significant one first. -/
def bigEndian (bs : List UInt8) : Nat := bs.foldl (fun n b => 256 * n + b.toNat) 0

/-- The last `width` bytes of `n`, the most significant one first. -/
def bigEndianBytes (n : Nat) : Nat → List UInt8
  | 0 => []
  | width + 1 => bigEndianBytes (n / 256) width ++ [UInt8.ofNat n]

def length (e : IdEncoding) : Nat := 1 + e.width

/-- The id in a field; of a wide field only the last four bytes count. -/
def readId (field : List UInt8) : SchemaId := ⟨UInt32.ofNat (bigEndian field)⟩

/-- Splits a record into its id and payload. A record without a complete envelope has no id, and all
of it is payload. -/
def split (e : IdEncoding) : List UInt8 → Option SchemaId × List UInt8
  | [] => (none, [])
  | b :: rest =>
    if b = magicByte ∧ e.width ≤ rest.length then
      (some (readId (rest.take e.width)), rest.drop e.width)
    else (none, b :: rest)

def id? (e : IdEncoding) (data : List UInt8) : Option SchemaId := (split e data).1

/-- The envelope for an id. -/
def header (e : IdEncoding) (id : SchemaId) : List UInt8 :=
  magicByte :: bigEndianBytes id.val.toNat e.width

/-- Puts the envelope for an id at the start of a buffer. -/
def overwrite (e : IdEncoding) (id : SchemaId) (buffer : List UInt8) : List UInt8 :=
  header e id ++ buffer.drop (length e)

/-- The readable form of the codec for an encoding. -/
def describe (e : IdEncoding) : String :=
  s!"IdCodec \x7b width: {e.width} \x7d"

/-- Hands the payload of a record to a decoder, which writes to the receiver itself. -/
def decode (e : IdEncoding) (traceId streamId : UInt64) (data : List UInt8) (sink : List UInt8)
    (decoder : PayloadCodec) : Delivered :=
  match split e data with
  | (none, _) => ⟨sink, .error .missingEnvelope⟩
  | (some id, payload) =>
    let w := decoder ⟨traceId, streamId, id⟩ payload
    ⟨sink ++ w.bytes, w.result⟩

/-- Writes the envelope for `id` and the encoded `value`. The encoder writes to a buffer of its own,
so that an error, or a count of zero, leaves the receiver as it was. Lengths wrap at `2^64`. -/
def encode (e : IdEncoding) (traceId streamId : UInt64) (id : SchemaId) (value : List UInt8)
    (sink : List UInt8) (encoder : PayloadCodec) : Delivered :=
  let w := encoder ⟨traceId, streamId, id⟩ value
  match w.result with
  | .error err => ⟨sink, .error err⟩
  | .ok count =>
    if count = 0 then ⟨sink, .error .emptyPayload⟩
    else ⟨sink ++ header e id ++ w.bytes, .ok (UInt64.ofNat (length e) + count)⟩

end Envelope

end SchemaCatalog
