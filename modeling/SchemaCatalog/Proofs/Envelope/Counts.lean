import SchemaCatalog.Proofs.Envelope.Staging

/-!
# Reported counts

An encoder tells how much it has written, and nobody looks whether that is so. An encoding is as
honest as its encoder.

* `Envelope.Faithful`: a reported length is that of a record with a payload, which was handed on,
  and where nothing was staged nothing is.
* **`Envelope.encode_faithful_iff`**: encoding is faithful exactly for encoders that are honest
  about a record whose length can be told.
* `Envelope.not_faithful_silent`: an encoder that reports bytes and writes none.
-/

namespace SchemaCatalog.Envelope

variable {e : IdEncoding} {id : SchemaId} {traceId streamId : UInt64} {value sink : List UInt8}
  {encoder : PayloadCodec} {count : UInt64}

/-- What is said about an encoding is so: a reported length is that of the bytes that were handed
on to a receiver that held `sink`, and some of them are payload; and where nothing was `staged`
there is an error, and the receiver is as before. -/
structure Faithful (e : IdEncoding) (id : SchemaId) (sink staged : List UInt8) (d : Delivered) :
    Prop where
  told : ∀ n, d.result = .ok n → ∃ payload, payload ≠ [] ∧
    d.sink = sink ++ (header e id ++ payload) ∧ (header e id ++ payload).length = n.toNat
  silent : staged = [] → (∃ err, d.result = .error err) ∧ d.sink = sink

theorem faithful_error (staged : List UInt8) (err : CodecError) :
    Faithful e id sink staged ⟨sink, .error err⟩ where
  told n hn := by cases hn
  silent _ := ⟨⟨err, rfl⟩, rfl⟩

theorem toNat_length_add_eq_iff (e : IdEncoding) (count : UInt64) (n : Nat) :
    (UInt64.ofNat (length e) + count).toNat = length e + n ↔
      count.toNat = n ∧ length e + n < 2 ^ 64 := by
  have hcount := count.toNat_lt
  have hlength := length_le_maxLength e
  simp only [maxLength] at hlength
  rw [toNat_length_add]
  omega

/-- An encoder that reports bytes has a record handed on, and the record is what it is said to be
exactly if the count is that of the payload. -/
theorem faithful_staged_iff
    (hcount : (encoder ⟨traceId, streamId, id⟩ value).result = .ok count) (hne : count ≠ 0) :
    Faithful e id sink (encoder ⟨traceId, streamId, id⟩ value).bytes
        (encode e traceId streamId id value sink encoder) ↔
      count.toNat = (encoder ⟨traceId, streamId, id⟩ value).bytes.length ∧
        length e + count.toNat < 2 ^ 64 := by
  rw [encode_of_count e id sink hcount hne]
  generalize (encoder ⟨traceId, streamId, id⟩ value).bytes = staged
  constructor
  · rintro ⟨told, -⟩
    obtain ⟨payload, -, hsink, hlen⟩ := told _ rfl
    obtain rfl : staged = payload := by
      rw [← List.append_assoc] at hsink
      exact List.append_cancel_left hsink
    rw [List.length_append, length_header] at hlen
    obtain ⟨hstaged, hlt⟩ := (toNat_length_add_eq_iff e count staged.length).1 hlen.symm
    exact ⟨hstaged, by rwa [hstaged]⟩
  · rintro ⟨hstaged, hlt⟩
    have hnonempty : staged ≠ [] := by
      rintro rfl
      exact hne (UInt64.toNat_inj.1 hstaged)
    refine ⟨?_, fun hnil => absurd hnil hnonempty⟩
    rintro n ⟨⟩
    refine ⟨staged, hnonempty, List.append_assoc .., ?_⟩
    rw [List.length_append, length_header, ← hstaged]
    exact ((toNat_length_add_eq_iff e count count.toNat).2 ⟨rfl, hlt⟩).symm

/-- **Encoding is faithful exactly for honest encoders.** A length that is reported is that of what
was appended, with some payload in it, and an encoder that stages nothing leaves nothing behind,
exactly if every count but zero is that of the bytes staged, and if it leaves room for the envelope
below `2 ^ 64`. -/
theorem encode_faithful_iff (e : IdEncoding) (traceId streamId : UInt64) (id : SchemaId)
    (value sink : List UInt8) (encoder : PayloadCodec) :
    Faithful e id sink (encoder ⟨traceId, streamId, id⟩ value).bytes
        (encode e traceId streamId id value sink encoder) ↔
      ∀ count, (encoder ⟨traceId, streamId, id⟩ value).result = .ok count → count ≠ 0 →
        count.toNat = (encoder ⟨traceId, streamId, id⟩ value).bytes.length ∧
          length e + count.toNat < 2 ^ 64 := by
  cases hresult : (encoder ⟨traceId, streamId, id⟩ value).result with
  | error err =>
    rw [encode_of_error hresult]
    exact iff_of_true (faithful_error _ _) nofun
  | ok count =>
    by_cases hne : count = 0
    · subst hne
      rw [encode_of_zero hresult]
      refine iff_of_true (faithful_error _ _) ?_
      rintro count ⟨⟩ hcount
      exact absurd rfl hcount
    · rw [faithful_staged_iff hresult hne]
      constructor
      · rintro h count ⟨⟩ -
        exact h
      · intro h
        exact h count rfl hne

/-- An encoder that reports five bytes and writes none. -/
def silentFive : PayloadCodec := fun _ _ => ⟨[], .ok 5⟩

/-- It has an envelope without payload handed on, and more bytes reported than there are. -/
theorem not_faithful_silent :
    encode .legacy 0 0 ⟨3⟩ [] [] silentFive = ⟨[0, 0, 0, 0, 3], .ok 10⟩ ∧
      ¬ Faithful .legacy ⟨3⟩ [] (silentFive ⟨0, 0, ⟨3⟩⟩ []).bytes
        (encode .legacy 0 0 ⟨3⟩ [] [] silentFive) := by
  refine ⟨rfl, ?_⟩
  rintro ⟨-, silent⟩
  obtain ⟨-, hsink⟩ := silent rfl
  exact absurd hsink (by decide)

end SchemaCatalog.Envelope
