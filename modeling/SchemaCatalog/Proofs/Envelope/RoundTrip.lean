import SchemaCatalog.Envelope
import Mathlib.Algebra.Group.Nat.Defs
import Mathlib.Data.List.Induction

/-!
# What is framed is read back

* `Envelope.bigEndian_bigEndianBytes`: bytes hold a number up to the power of their count.
* `Envelope.bigEndianBytes_bigEndian`: the number in some bytes is written as these bytes.
* `Envelope.readId_bigEndianBytes`: both widths hold every id.
* `Envelope.split_header`: a record is split where its payload starts, whatever the payload looks
  like.
* **`Envelope.round_trip`**: a value that is framed and encoded is decoded again, under the context
  that the encoder was given.
-/

namespace SchemaCatalog.Envelope

variable (e : IdEncoding) (id : SchemaId) (payload sink : List UInt8)

/-! ## Fields -/

theorem length_bigEndianBytes (n width : Nat) : (bigEndianBytes n width).length = width := by
  induction width generalizing n with
  | zero => rfl
  | succ width ih => simp [bigEndianBytes, ih]

theorem bigEndian_concat (bs : List UInt8) (b : UInt8) :
    bigEndian (bs ++ [b]) = 256 * bigEndian bs + b.toNat := by
  simp [bigEndian]

theorem bigEndian_bigEndianBytes (n width : Nat) :
    bigEndian (bigEndianBytes n width) = n % 256 ^ width := by
  induction width generalizing n with
  | zero => simp [bigEndianBytes, bigEndian, Nat.mod_one]
  | succ width ih =>
    have hbyte : (UInt8.ofNat n).toNat = n % 256 := UInt8.toNat_ofNat'
    rw [bigEndianBytes, bigEndian_concat, ih, hbyte, Nat.pow_succ', Nat.mod_mul]
    omega

theorem bigEndian_lt (bs : List UInt8) : bigEndian bs < 256 ^ bs.length := by
  induction bs using List.reverseRecOn with
  | nil => simp [bigEndian]
  | append_singleton bs b ih =>
    have hb := b.toNat_lt
    rw [bigEndian_concat, List.length_append, List.length_singleton, Nat.pow_succ]
    omega

theorem bigEndianBytes_bigEndian (bs : List UInt8) :
    bigEndianBytes (bigEndian bs) bs.length = bs := by
  induction bs using List.reverseRecOn with
  | nil => rfl
  | append_singleton bs b ih =>
    have hb := b.toNat_lt
    have hdiv : (256 * bigEndian bs + b.toNat) / 256 = bigEndian bs := by omega
    have hbyte : UInt8.ofNat (256 * bigEndian bs + b.toNat) = b := by
      apply UInt8.toNat_inj.1
      rw [UInt8.toNat_ofNat']
      omega
    rw [bigEndian_concat, List.length_append, List.length_singleton, bigEndianBytes, hdiv, ih,
      hbyte]

theorem toNat_lt_width : id.val.toNat < 256 ^ e.width := by
  have h32 := id.val.toNat_lt
  cases e <;> simp only [IdEncoding.width] <;> omega

theorem readId_bigEndianBytes : readId (bigEndianBytes id.val.toNat e.width) = id := by
  rw [readId, bigEndian_bigEndianBytes, Nat.mod_eq_of_lt (toNat_lt_width e id),
    UInt32.ofNat_toNat]

/-! ## Records -/

theorem length_header : (header e id).length = length e := by
  rw [header, List.length_cons, length_bigEndianBytes, length, Nat.add_comm]

theorem length_le_maxLength : length e ≤ maxLength := by
  cases e <;> decide

/-- A record is split where its payload starts, whatever the payload looks like. -/
theorem split_header : split e (header e id ++ payload) = (some id, payload) := by
  have hlen := length_bigEndianBytes id.val.toNat e.width
  have hwide : e.width ≤ (bigEndianBytes id.val.toNat e.width ++ payload).length := by
    rw [List.length_append, hlen]
    omega
  rw [header, List.cons_append, split, if_pos ⟨rfl, hwide⟩, List.take_left' hlen,
    List.drop_left' hlen, readId_bigEndianBytes]

theorem decode_header (traceId streamId : UInt64) (decoder : PayloadCodec) :
    decode e traceId streamId (header e id ++ payload) sink decoder =
      ⟨sink ++ (decoder ⟨traceId, streamId, id⟩ payload).bytes,
        (decoder ⟨traceId, streamId, id⟩ payload).result⟩ := by
  simp only [decode, split_header]

theorem encode_of_count {traceId streamId : UInt64} {value : List UInt8} {encoder : PayloadCodec}
    {count : UInt64} (hcount : (encoder ⟨traceId, streamId, id⟩ value).result = .ok count)
    (hne : count ≠ 0) :
    encode e traceId streamId id value sink encoder =
      ⟨sink ++ header e id ++ (encoder ⟨traceId, streamId, id⟩ value).bytes,
        .ok (UInt64.ofNat (length e) + count)⟩ := by
  simp only [encode, hcount, if_neg hne]

/-! ## There and back -/

/-- **What is framed is read back.** If the encoder writes something and reports how much, the record
is its payload behind the envelope of the id. The id and the payload are found in it again, every
decoder is handed them under the context of the encoder, and one that undoes the encoder restores
the value. -/
theorem round_trip (e : IdEncoding) (traceId streamId : UInt64) (id : SchemaId)
    (value sink : List UInt8) (encoder decoder : PayloadCodec) (payload : List UInt8)
    (count : UInt64) (writes : (encoder ⟨traceId, streamId, id⟩ value).bytes = payload)
    (nonempty : payload ≠ [])
    (reports : (encoder ⟨traceId, streamId, id⟩ value).result = .ok count)
    (exact : count.toNat = payload.length)
    (restores : (decoder ⟨traceId, streamId, id⟩ payload).bytes = value) :
    ∃ (record : List UInt8) (n : UInt64),
      encode e traceId streamId id value sink encoder = ⟨sink ++ record, .ok n⟩ ∧
      n = UInt64.ofNat (length e + payload.length) ∧
      (length e + payload.length < 2 ^ 64 → n.toNat = length e + payload.length) ∧
      record.length = length e + payload.length ∧
      record.length ≤ payload.length + maxLength ∧
      id? e record = some id ∧
      split e record = (some id, payload) ∧
      (∀ (receiver : List UInt8) (d : PayloadCodec),
        decode e traceId streamId record receiver d =
          ⟨receiver ++ (d ⟨traceId, streamId, id⟩ payload).bytes,
            (d ⟨traceId, streamId, id⟩ payload).result⟩) ∧
      ∀ receiver, (decode e traceId streamId record receiver decoder).sink = receiver ++ value := by
  have hne : count ≠ 0 := by
    rintro rfl
    exact nonempty (List.length_eq_zero_iff.1 exact.symm)
  have hcount : UInt64.ofNat (length e) + count = UInt64.ofNat (length e + payload.length) := by
    rw [UInt64.ofNat_add, ← exact, UInt64.ofNat_toNat]
  have hlen : (header e id ++ payload).length = length e + payload.length := by
    rw [List.length_append, length_header]
  refine ⟨header e id ++ payload, _, ?_, rfl, ?_, hlen, ?_, ?_, split_header e id payload, ?_, ?_⟩
  · rw [encode_of_count e id sink reports hne, writes, hcount, List.append_assoc]
  · exact fun hlt => UInt64.toNat_ofNat_of_lt' hlt
  · have := length_le_maxLength e
    omega
  · rw [id?, split_header]
  · exact fun receiver d => decode_header e id payload receiver traceId streamId d
  · intro receiver
    rw [decode_header, restores]

/-- A payload that looks like an envelope itself. -/
theorem round_trip_envelopeInside :
    split .legacy [0, 0, 0, 1, 0, 0, 0, 0, 0, 9, 7] = (some ⟨256⟩, [0, 0, 0, 0, 9, 7]) := by
  obtain ⟨record, n, hencode, -, -, -, -, -, hsplit, -⟩ := round_trip .legacy 1 2 ⟨256⟩
    [0, 0, 0, 0, 9, 7] [5] .passThrough .passThrough [0, 0, 0, 0, 9, 7] 6 rfl (by decide) rfl rfl rfl
  have hrecord : record = [0, 0, 0, 1, 0, 0, 0, 0, 0, 9, 7] := by
    have hsink := congrArg Delivered.sink hencode
    exact ((List.append_right_inj [5]).1 hsink).symm
  rw [← hrecord]
  exact hsplit

end SchemaCatalog.Envelope
