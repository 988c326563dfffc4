import SchemaCatalog.Proofs.Envelope.RoundTrip

/-!
# Encoding is all or nothing

* `Writing.into`: what a receiver holds after a codec has written to it, one chunk after the other.
  `Writing.into_eq`: it is what the receiver held before, followed by all chunks in order.
* `Envelope.Names`: the bytes are a complete envelope for an id.
* `Envelope.encode_of_error`, `Envelope.encode_of_zero`, `Envelope.encode_of_staged`: what comes of
  each report.
* `Envelope.Bench`: an encoding move by move. `Envelope.sink_afterMoves_take`: nothing reaches the
  caller before the encoder reports.
* **`Envelope.encode_atomic`**: the caller's receiver gets all of a record or nothing of it.
-/

namespace SchemaCatalog

/-! ## Receivers -/

namespace Writing

/-- A receiver takes one more chunk. -/
def accept (receiver chunk : List UInt8) : List UInt8 := receiver ++ chunk

/-- What a receiver holds after a codec has written to it. -/
def into (w : Writing) (receiver : List UInt8) : List UInt8 :=
  w.chunks.foldl accept receiver

theorem foldl_accept (chunks : List (List UInt8)) (receiver : List UInt8) :
    chunks.foldl accept receiver = receiver ++ chunks.flatten := by
  induction chunks generalizing receiver with
  | nil => simp
  | cons chunk chunks ih =>
    rw [List.foldl_cons, ih, accept, List.flatten_cons, List.append_assoc]

theorem into_eq (w : Writing) (receiver : List UInt8) :
    w.into receiver = receiver ++ w.bytes :=
  foldl_accept w.chunks receiver

end Writing

namespace Envelope

open Writing (accept)

variable {e : IdEncoding} {id : SchemaId} {traceId streamId : UInt64} {value sink : List UInt8}
  {encoder : PayloadCodec}

/-! ## Envelopes -/

/-- The bytes are a complete envelope for an id. -/
structure Names (e : IdEncoding) (id : SchemaId) (envelope : List UInt8) : Prop where
  marked : envelope.head? = some magicByte
  complete : envelope.length = length e
  number : bigEndian envelope.tail = id.val.toNat

theorem names_header (e : IdEncoding) (id : SchemaId) : Names e id (header e id) where
  marked := rfl
  complete := length_header e id
  number := by
    rw [header, List.tail_cons, bigEndian_bigEndianBytes, Nat.mod_eq_of_lt (toNat_lt_width e id)]

theorem take_overwrite (e : IdEncoding) (id : SchemaId) (buffer : List UInt8) :
    (overwrite e id buffer).take (length e) = header e id := by
  rw [overwrite, List.take_left' (length_header e id)]

/-! ## Encoding -/

theorem encode_of_error {err : CodecError}
    (h : (encoder ⟨traceId, streamId, id⟩ value).result = .error err) :
    encode e traceId streamId id value sink encoder = ⟨sink, .error err⟩ := by
  simp only [encode, h]

theorem encode_of_zero (h : (encoder ⟨traceId, streamId, id⟩ value).result = .ok 0) :
    encode e traceId streamId id value sink encoder = ⟨sink, .error .emptyPayload⟩ := by
  simp only [encode, h, if_true]

theorem encode_congr {other : PayloadCodec}
    (hbytes : (other ⟨traceId, streamId, id⟩ value).into [] =
      (encoder ⟨traceId, streamId, id⟩ value).into [])
    (hresult : (other ⟨traceId, streamId, id⟩ value).result =
      (encoder ⟨traceId, streamId, id⟩ value).result) :
    encode e traceId streamId id value sink other =
      encode e traceId streamId id value sink encoder := by
  rw [Writing.into_eq, Writing.into_eq, List.nil_append, List.nil_append] at hbytes
  simp only [encode, hbytes, hresult]

/-- A count that is not zero has the envelope handed on, and then what was staged. -/
theorem encode_of_staged {count : UInt64}
    (h : (encoder ⟨traceId, streamId, id⟩ value).result = .ok count) (hne : count ≠ 0) :
    encode e traceId streamId id value sink encoder =
      ⟨accept (accept sink (header e id)) ((encoder ⟨traceId, streamId, id⟩ value).into []),
        .ok (UInt64.ofNat (length e) + count)⟩ := by
  rw [encode_of_count e id sink h hne, Writing.into_eq, List.nil_append, accept, accept]

theorem toNat_length_add (e : IdEncoding) (count : UInt64) :
    (UInt64.ofNat (length e) + count).toNat = (length e + count.toNat) % 2 ^ 64 := by
  rw [UInt64.toNat_add, UInt64.toNat_ofNat', Nat.mod_add_mod]

theorem sink_encode_eq_iff :
    (encode e traceId streamId id value sink encoder).sink = sink ↔
      ∃ err, (encode e traceId streamId id value sink encoder).result = .error err := by
  cases h : (encoder ⟨traceId, streamId, id⟩ value).result with
  | error err => simp [encode_of_error h]
  | ok count =>
    by_cases hne : count = 0
    · subst hne
      simp [encode_of_zero h]
    · simp [encode_of_count e id sink h hne, header]

/-- What is handed on in the end is the envelope and the encoder's bytes. -/
theorem eq_of_encode {out : List UInt8} {n : UInt64}
    (h : encode e traceId streamId id value sink encoder = ⟨sink ++ out, .ok n⟩) :
    out = header e id ++ (encoder ⟨traceId, streamId, id⟩ value).bytes := by
  cases hresult : (encoder ⟨traceId, streamId, id⟩ value).result with
  | error err =>
    rw [encode_of_error hresult] at h
    simp at h
  | ok count =>
    by_cases hne : count = 0
    · subst hne
      rw [encode_of_zero hresult] at h
      simp at h
    · rw [encode_of_count e id sink hresult hne, List.append_assoc] at h
      exact (List.append_cancel_left (congrArg Delivered.sink h)).symm

/-! ## Encoding move by move -/

/-- What an encoder does. -/
inductive Move
  | write (chunk : List UInt8)
  | report (result : Except CodecError UInt64)

/-- All moves of an encoder in order. -/
def moves (w : Writing) : List Move := w.chunks.map .write ++ [.report w.result]

/-- The buffer that an encoder writes to, and the caller's receiver. -/
structure Bench where
  scratch : List UInt8
  sink : List UInt8

/-- One move. Only a report of bytes has something handed on. -/
def Bench.step (e : IdEncoding) (id : SchemaId) (b : Bench) : Move → Bench
  | .write chunk => { b with scratch := accept b.scratch chunk }
  | .report (.error _) => b
  | .report (.ok count) =>
    if count = 0 then b
    else { b with sink := accept (accept b.sink (header e id)) b.scratch }

/-- The bench after some moves from an empty buffer. -/
def afterMoves (e : IdEncoding) (id : SchemaId) (sink : List UInt8) (ms : List Move) : Bench :=
  ms.foldl (Bench.step e id) ⟨[], sink⟩

theorem foldl_step_write (b : Bench) (chunks : List (List UInt8)) :
    (chunks.map Move.write).foldl (Bench.step e id) b =
      ⟨chunks.foldl accept b.scratch, b.sink⟩ := by
  induction chunks generalizing b with
  | nil => rfl
  | cons chunk chunks ih =>
    rw [List.map_cons, List.foldl_cons, ih]
    rfl

/-- Nothing reaches the caller before the encoder reports. -/
theorem sink_afterMoves_take (w : Writing) {n : Nat} (hn : n ≤ w.chunks.length) :
    (afterMoves e id sink ((moves w).take n)).sink = sink := by
  have htake : (moves w).take n = (w.chunks.take n).map Move.write := by
    rw [moves, List.take_append_of_le_length (by rwa [List.length_map]), List.map_take]
  rw [afterMoves, htake, foldl_step_write]

theorem sink_afterMoves :
    (afterMoves e id sink (moves (encoder ⟨traceId, streamId, id⟩ value))).sink =
      (encode e traceId streamId id value sink encoder).sink := by
  rw [afterMoves, moves, List.foldl_append, foldl_step_write, List.foldl_cons, List.foldl_nil]
  cases h : (encoder ⟨traceId, streamId, id⟩ value).result with
  | error err => rw [encode_of_error h, Bench.step]
  | ok count =>
    by_cases hne : count = 0
    · subst hne
      rw [encode_of_zero h, Bench.step, if_pos rfl]
    · rw [encode_of_staged h hne, Bench.step, if_neg hne]
      rfl

/-- **Encoding is all or nothing.** An error of the encoder is passed on, and a count of zero is an
error of its own; whatever was staged by then, the receiver is as before. Any other count has the
complete envelope and all that was staged handed on, in this order, and the length reported. Up to
the report no chunk has reached the receiver, and how the bytes are cut into chunks is of no
consequence. -/
theorem encode_atomic (e : IdEncoding) (traceId streamId : UInt64) (id : SchemaId)
    (value sink : List UInt8) (encoder : PayloadCodec) :
    (∀ err, (encoder ⟨traceId, streamId, id⟩ value).result = .error err →
      encode e traceId streamId id value sink encoder = ⟨sink, .error err⟩) ∧
    ((encoder ⟨traceId, streamId, id⟩ value).result = .ok 0 →
      encode e traceId streamId id value sink encoder = ⟨sink, .error .emptyPayload⟩) ∧
    (∀ count, (encoder ⟨traceId, streamId, id⟩ value).result = .ok count → count ≠ 0 →
      ∃ envelope n, Names e id envelope ∧
        envelope = (overwrite e id (List.replicate maxLength 0)).take (length e) ∧
        encode e traceId streamId id value sink encoder =
          ⟨accept (accept sink envelope) ((encoder ⟨traceId, streamId, id⟩ value).into []),
            .ok n⟩ ∧
        n.toNat = (length e + count.toNat) % 2 ^ 64 ∧
        (length e + count.toNat < 2 ^ 64 → n.toNat = length e + count.toNat)) ∧
    ((encode e traceId streamId id value sink encoder).sink = sink ↔
      ∃ err, (encode e traceId streamId id value sink encoder).result = .error err) ∧
    (∀ n ≤ (encoder ⟨traceId, streamId, id⟩ value).chunks.length,
      (afterMoves e id sink ((moves (encoder ⟨traceId, streamId, id⟩ value)).take n)).sink =
        sink) ∧
    (afterMoves e id sink (moves (encoder ⟨traceId, streamId, id⟩ value))).sink =
      (encode e traceId streamId id value sink encoder).sink ∧
    ∀ other : PayloadCodec,
      (other ⟨traceId, streamId, id⟩ value).into [] =
        (encoder ⟨traceId, streamId, id⟩ value).into [] →
      (other ⟨traceId, streamId, id⟩ value).result =
        (encoder ⟨traceId, streamId, id⟩ value).result →
      encode e traceId streamId id value sink other =
        encode e traceId streamId id value sink encoder := by
  refine ⟨fun err => encode_of_error, encode_of_zero, ?_, sink_encode_eq_iff,
    fun n hn => sink_afterMoves_take _ hn, sink_afterMoves, fun other => encode_congr⟩
  intro count hcount hne
  have hlen := toNat_length_add e count
  refine ⟨header e id, _, names_header e id, (take_overwrite e id _).symm,
    encode_of_staged hcount hne, hlen, ?_⟩
  intro hlt
  rw [hlen, Nat.mod_eq_of_lt hlt]

/-- An encoder that fails after a chunk leaves what was in the receiver before. -/
example :
    (encode .legacy 0 0 ⟨9⟩ [120] [112] fun _ bs => ⟨[bs, bs], .error (.payload "cut")⟩).sink =
      [112] := by
  rfl

end Envelope

end SchemaCatalog
