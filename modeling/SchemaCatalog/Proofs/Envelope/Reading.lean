import SchemaCatalog.Proofs.Envelope.Staging

/-!
# Which records are enveloped

* `Envelope.Reads`: the wire format. `Envelope.reads_split`: a record is split as the format says.
* `Envelope.header_readId_append_eq_iff`: a record is framed again as it was exactly if the number
  in its field fits an id.
* `Envelope.splitByIndex?`, `Envelope.overwriteByIndex?`: reading and writing with every index looked
  up. `Envelope.splitByIndex?_eq`, `Envelope.overwriteByIndex?_eq`: none is out of range.
* `Envelope.decodeWith`, `Envelope.noting`: a decoder that may have effects, and one that notes what
  it is given.
* **`Envelope.split_exact`**: a reader accepts exactly the wire format.
-/

namespace SchemaCatalog.Envelope

variable {e : IdEncoding} {id : SchemaId} {data payload : List UInt8}

/-! ## The wire format -/

/-- How a record reads: behind the marker and a whole field comes the payload, and any other record
is all payload. -/
inductive Reads (e : IdEncoding) : List UInt8 → Option SchemaId × List UInt8 → Prop
  | enveloped (field payload : List UInt8) (whole : field.length = e.width) :
    Reads e (magicByte :: (field ++ payload)) (some (readId field), payload)
  | bare (data : List UInt8) (short : ¬ (data.head? = some magicByte ∧ length e ≤ data.length)) :
    Reads e data (none, data)

theorem reads_split (e : IdEncoding) (data : List UInt8) : Reads e data (split e data) := by
  cases data with
  | nil => exact .bare [] (by simp)
  | cons b rest =>
    rw [split]
    split_ifs with h
    · obtain ⟨rfl, hwide⟩ := h
      have hread := Reads.enveloped (e := e) (rest.take e.width) (rest.drop e.width)
        (List.length_take_of_le hwide)
      rwa [List.take_append_drop] at hread
    · refine .bare (b :: rest) ?_
      rintro ⟨hhead, hlen⟩
      refine h ⟨Option.some.inj hhead, ?_⟩
      rw [length, List.length_cons] at hlen
      omega

/-- The number in the id field of a record. -/
def fieldOf (e : IdEncoding) (data : List UInt8) : Nat := bigEndian (data.tail.take e.width)

theorem toNat_readId (field : List UInt8) :
    (readId field).val.toNat = bigEndian field % 2 ^ 32 := UInt32.toNat_ofNat'

/-- A field is written again as it was read exactly if its number fits an id. -/
theorem bigEndianBytes_readId_eq_iff (field : List UInt8) :
    bigEndianBytes (readId field).val.toNat field.length = field ↔ bigEndian field < 2 ^ 32 := by
  rw [toNat_readId]
  constructor
  · intro h
    have hnum := congrArg bigEndian h
    have hle := Nat.mod_le (bigEndian field % 2 ^ 32) (256 ^ field.length)
    rw [bigEndian_bigEndianBytes] at hnum
    have hlt := Nat.mod_lt (bigEndian field) (Nat.two_pow_pos 32)
    omega
  · intro h
    rw [Nat.mod_eq_of_lt h, bigEndianBytes_bigEndian]

theorem exists_field_of_split (h : split e data = (some id, payload)) :
    ∃ field, field.length = e.width ∧ data = magicByte :: (field ++ payload) ∧
      id = readId field := by
  have hread := reads_split e data
  rw [h] at hread
  cases hread with
  | enveloped field payload whole => exact ⟨field, whole, rfl, rfl⟩

theorem eq_of_split_none (h : split e data = (none, payload)) : payload = data := by
  have hread := reads_split e data
  rw [h] at hread
  cases hread with
  | bare data short => rfl

theorem isSome_split_iff (e : IdEncoding) (data : List UInt8) :
    (split e data).1.isSome ↔ data.head? = some magicByte ∧ length e ≤ data.length := by
  have hread := reads_split e data
  generalize split e data = r at hread
  cases hread with
  | enveloped field payload whole =>
    simp only [Option.isSome_some, List.head?_cons, List.length_cons, List.length_append, length,
      whole, true_and, true_iff]
    omega
  | bare data short => simpa using short

section

variable {field : List UInt8} (whole : field.length = e.width)

include whole

theorem fieldOf_cons (payload : List UInt8) :
    fieldOf e (magicByte :: (field ++ payload)) = bigEndian field := by
  rw [fieldOf, List.tail_cons, List.take_left' whole]

theorem take_length_cons (payload : List UInt8) :
    (magicByte :: (field ++ payload)).take (length e) = magicByte :: field := by
  rw [length, Nat.add_comm, List.take_succ_cons, List.take_left' whole]

/-- A record is framed again as it was exactly if its number fits an id. -/
theorem header_readId_append_eq_iff (payload : List UInt8) :
    header e (readId field) ++ payload = magicByte :: (field ++ payload) ↔
      bigEndian field < 2 ^ 32 := by
  rw [← bigEndianBytes_readId_eq_iff, header, List.cons_append, List.cons.injEq, whole,
    List.append_left_inj]
  exact and_iff_right rfl

end

theorem fieldOf_legacy_lt (data : List UInt8) : fieldOf .legacy data < 2 ^ 32 := by
  have hlt := bigEndian_lt (data.tail.take 4)
  have hlen := List.length_take_le 4 data.tail
  have hpow := Nat.pow_le_pow_right (by decide : 0 < 256) hlen
  exact Nat.lt_of_lt_of_le hlt hpow

/-! ## Reading by indices -/

/-- The first `n` bytes and the others. There are none if the list ends before. -/
def cut? (n : Nat) (bs : List UInt8) : Option (List UInt8 × List UInt8) :=
  if n ≤ bs.length then some (bs.splitAt n) else none

/-- The number in the first `width` bytes, each of which is looked up at its index. -/
def numberAt? (bs : List UInt8) (width : Nat) : Option Nat :=
  (List.range width).foldlM (fun n i => bs[i]?.map fun b => 256 * n + b.toNat) 0

theorem numberAt?_eq {bs : List UInt8} {width : Nat} (h : width ≤ bs.length) :
    numberAt? bs width = some (bigEndian (bs.take width)) := by
  unfold numberAt?
  induction width with
  | zero => simp [bigEndian]
  | succ width ih =>
    have hget : bs[width]? = some bs[width] := List.getElem?_eq_getElem h
    have htake : bs.take (width + 1) = bs.take width ++ [bs[width]] := by
      rw [List.take_add_one, hget, Option.toList_some]
    rw [List.range_succ, List.foldlM_append, ih (by omega), htake, bigEndian_concat]
    simp [hget]

/-- `split` with every index looked up. There is nothing if one of them is out of range. -/
def splitByIndex? (e : IdEncoding) (data : List UInt8) :
    Option (Option SchemaId × List UInt8) :=
  match data with
  | [] => some (none, [])
  | b :: rest =>
    if b = magicByte ∧ e.width ≤ rest.length then do
      let (field, payload) ← cut? e.width rest
      let n ← numberAt? field e.width
      return (some ⟨UInt32.ofNat n⟩, payload)
    else some (none, b :: rest)

theorem splitByIndex?_eq (e : IdEncoding) (data : List UInt8) :
    splitByIndex? e data = some (split e data) := by
  cases data with
  | nil => rfl
  | cons b rest =>
    rw [splitByIndex?, split]
    split_ifs with h
    · have hlen : (rest.take e.width).length = e.width := List.length_take_of_le h.2
      have hnum : numberAt? (rest.take e.width) e.width = some (bigEndian (rest.take e.width)) := by
        rw [numberAt?_eq (Nat.le_of_eq hlen.symm), List.take_of_length_le (Nat.le_of_eq hlen)]
      simp [cut?, h.2, hnum, readId]
    · rfl

/-- The buffer with `bs` in place of its bytes from index `i` on. There is none if it ends before
`bs` does. -/
def put? (i : Nat) (bs buffer : List UInt8) : Option (List UInt8) :=
  if i + bs.length ≤ buffer.length then
    some (buffer.take i ++ bs ++ buffer.drop (i + bs.length))
  else none

/-- `overwrite` with every index looked up. -/
def overwriteByIndex? (e : IdEncoding) (id : SchemaId) (buffer : List UInt8) :
    Option (List UInt8) := do
  put? 1 (bigEndianBytes id.val.toNat e.width) (← put? 0 [magicByte] buffer)

theorem overwriteByIndex?_eq {buffer : List UInt8} (id : SchemaId)
    (h : length e ≤ buffer.length) :
    overwriteByIndex? e id buffer = some (overwrite e id buffer) := by
  cases buffer with
  | nil => simp [length] at h
  | cons b buffer =>
    rw [length, List.length_cons] at h
    have hlen : e.width ≤ buffer.length := by omega
    simp [overwriteByIndex?, put?, overwrite, header, length, length_bigEndianBytes,
      Nat.add_comm 1, hlen]

/-! ## Runs of the decoder -/

/-- `decode` with a decoder that may have effects. -/
def decodeWith {m : Type → Type} [Monad m] (e : IdEncoding) (traceId streamId : UInt64)
    (data sink : List UInt8) (decoder : PayloadContext → List UInt8 → m Writing) :
    m Delivered :=
  match split e data with
  | (none, _) => pure ⟨sink, .error .missingEnvelope⟩
  | (some id, payload) => do
    let w ← decoder ⟨traceId, streamId, id⟩ payload
    return ⟨w.into sink, w.result⟩

/-- A decoder that notes what it is given. -/
def noting (decoder : PayloadCodec) (ctx : PayloadContext) (payload : List UInt8) :
    StateM (List (PayloadContext × List UInt8)) Writing := do
  modify (· ++ [(ctx, payload)])
  return decoder ctx payload

section

variable (traceId streamId : UInt64) (sink : List UInt8) (decoder : PayloadCodec)
  (log : List (PayloadContext × List UInt8))

theorem decode_of_some (h : split e data = (some id, payload)) :
    decode e traceId streamId data sink decoder =
      ⟨(decoder ⟨traceId, streamId, id⟩ payload).into sink,
        (decoder ⟨traceId, streamId, id⟩ payload).result⟩ := by
  simp only [decode, h, Writing.into_eq]

theorem decode_of_none (h : split e data = (none, payload)) :
    decode e traceId streamId data sink decoder = ⟨sink, .error .missingEnvelope⟩ := by
  simp only [decode, h]

theorem run_decodeWith_of_some (h : split e data = (some id, payload)) :
    (decodeWith e traceId streamId data sink (noting decoder)).run log =
      pure (decode e traceId streamId data sink decoder,
        log ++ [(⟨traceId, streamId, id⟩, payload)]) := by
  rw [decode_of_some traceId streamId sink decoder h]
  simp only [decodeWith, h]
  rfl

theorem run_decodeWith_of_none (h : split e data = (none, payload)) :
    (decodeWith e traceId streamId data sink (noting decoder)).run log =
      pure (decode e traceId streamId data sink decoder, log) := by
  rw [decode_of_none traceId streamId sink decoder h]
  simp only [decodeWith, h]
  rfl

end

/-! ## The reader as a whole -/

/-- **A reader accepts exactly the wire format.** A record has an id if the marker and a whole field
are there, and otherwise it is payload only. The id is the number in the field modulo `2 ^ 32`, and
a number below that is written again as it was read. The decoder runs once, with the id and the
payload, or not at all, and no index is out of range. -/
theorem split_exact (e : IdEncoding) (data : List UInt8) :
    ((split e data).1.isSome ↔ data.head? = some magicByte ∧ length e ≤ data.length) ∧
    (∀ id payload, split e data = (some id, payload) →
      data = data.take (length e) ++ payload ∧
      id.val.toNat = fieldOf e data % 2 ^ 32 ∧
      (header e id ++ payload = data ↔ fieldOf e data < 2 ^ 32) ∧
      (e = .legacy → fieldOf e data < 2 ^ 32) ∧
      id? e data = some id ∧
      ∀ traceId streamId sink decoder,
        (decodeWith e traceId streamId data sink (noting decoder)).run [] =
          pure (decode e traceId streamId data sink decoder,
            [(⟨traceId, streamId, id⟩, payload)]) ∧
        decode e traceId streamId data sink decoder =
          ⟨(decoder ⟨traceId, streamId, id⟩ payload).into sink,
            (decoder ⟨traceId, streamId, id⟩ payload).result⟩) ∧
    (∀ payload, split e data = (none, payload) →
      payload = data ∧ id? e data = none ∧
      ∀ traceId streamId sink decoder,
        (decodeWith e traceId streamId data sink (noting decoder)).run [] =
          pure (decode e traceId streamId data sink decoder, []) ∧
        decode e traceId streamId data sink decoder = ⟨sink, .error .missingEnvelope⟩) ∧
    splitByIndex? e data = some (split e data) ∧
    ∀ id buffer, buffer.length = maxLength →
      overwriteByIndex? e id buffer = some (overwrite e id buffer) := by
  refine ⟨isSome_split_iff e data, ?_, ?_, splitByIndex?_eq e data, ?_⟩
  · intro id payload h
    obtain ⟨field, whole, hdata, rfl⟩ := exists_field_of_split h
    have hfield : fieldOf e data = bigEndian field := by rw [hdata, fieldOf_cons whole]
    refine ⟨?_, ?_, ?_, ?_, ?_, fun t s sink decoder =>
      ⟨run_decodeWith_of_some t s sink decoder [] h, decode_of_some t s sink decoder h⟩⟩
    · rw [hdata, take_length_cons whole, List.cons_append]
    · rw [hfield, toNat_readId]
    · rw [hfield, hdata, header_readId_append_eq_iff whole]
    · rintro rfl
      exact fieldOf_legacy_lt data
    · rw [id?, h]
  · intro payload h
    refine ⟨eq_of_split_none h, ?_, fun t s sink decoder =>
      ⟨run_decodeWith_of_none t s sink decoder [] h, decode_of_none t s sink decoder h⟩⟩
    rw [id?, h]
  · intro id buffer hbuffer
    exact overwriteByIndex?_eq id (hbuffer ▸ length_le_maxLength e)

/-- The last id that a wide field holds as it is, and the next number. -/
example :
    split .wide [0, 0, 0, 0, 0, 255, 255, 255, 255] = (some ⟨4294967295⟩, []) ∧
      split .wide [0, 0, 0, 0, 1, 0, 0, 0, 0] = (some ⟨0⟩, []) := by
  decide

end SchemaCatalog.Envelope
