import SchemaCatalog.Text.Percent
import Mathlib.Tactic.SplitIfs

/-!
# Percent encoding is undone

* `Text.ofUtf8?_utf8`: a text is read back from its bytes.
* `Percent.isPlain`: the characters that mean nothing in a path but themselves.
  `Percent.isPlain_of_mem_encode`: a written text has no others.
* `Percent.decode_encode`: a written text stands for the bytes of the text.
* `Percent.text?`: the text that a written text stands for. `Percent.text?_encode`: it is the one
  that was written.
-/

namespace SchemaCatalog

theorem Text.ofUtf8?_utf8 (s : String) : ofUtf8? (utf8 s) = some s := by
  have hbytes : (⟨(utf8 s).toArray⟩ : ByteArray) = s.toByteArray := by
    rw [← List.data_toByteArray, utf8, ← List.utf8Encode, ← String.toByteArray_ofList,
      String.ofList_toList]
  rw [ofUtf8?, hbytes, String.fromUTF8?, dif_pos s.isValidUTF8]
  rfl

theorem Text.utf8_injective : Function.Injective utf8 := fun s t h =>
  Option.some.inj (by rw [← ofUtf8?_utf8 s, h, ofUtf8?_utf8])

theorem Hex.value?_upperDigit {n : Nat} (h : n < 16) : value? (upperDigit n).toNat = some n := by
  decide +revert

namespace Percent

variable {b : UInt8} {c : Char}

/-! ## Characters of a written text -/

/-- Whether a character is of ASCII and ends neither a segment nor a path. -/
def isPlain (c : Char) : Bool := c.toNat < 128 && c ≠ '/' && c ≠ '?' && c ≠ '#'

theorem isPlain_upperDigit {n : Nat} (h : n < 16) : isPlain (Hex.upperDigit n) = true := by
  decide +revert

theorem isPlain_of_isDigit (h : c.isDigit = true) : isPlain c = true := by
  have hne (d : Char) (hd : c = d) : d.isDigit = true := hd ▸ h
  have hbounds : 48 ≤ c.toNat ∧ c.toNat ≤ 57 := Char.isDigit_iff_toNat.1 h
  have hlt : c.toNat < 128 := by omega
  have hslash : c ≠ '/' := fun hd => absurd (hne _ hd) (by decide)
  have hquery : c ≠ '?' := fun hd => absurd (hne _ hd) (by decide)
  have hhash : c ≠ '#' := fun hd => absurd (hne _ hd) (by decide)
  simp [isPlain, hlt, hslash, hquery, hhash]

/-- A byte that stands for itself is an ASCII character with no meaning of its own. -/
theorem lt_of_isUnreserved (h : isUnreserved b = true) :
    b.toNat < 128 ∧ b.toNat ∉ [35, 37, 47, 63] := by
  simp only [isUnreserved, decide_eq_true_eq] at h
  simp only [List.mem_cons, List.not_mem_nil, or_false]
  omega

theorem isPlain_ofNat {n : Nat} (hlt : n < 128) (hmem : n ∉ [35, 37, 47, 63]) :
    isPlain (Char.ofNat n) = true ∧ Char.ofNat n ≠ '%' ∧
      String.utf8EncodeChar (Char.ofNat n) = [UInt8.ofNat n] := by
  decide +revert

theorem isPlain_of_mem_encodeByte (h : c ∈ encodeByte b) : isPlain c = true := by
  rw [encodeByte] at h
  split_ifs at h with hb
  · obtain ⟨hlt, hmem⟩ := lt_of_isUnreserved hb
    rw [List.mem_singleton.1 h]
    exact (isPlain_ofNat hlt hmem).1
  · have hbyte := b.toNat_lt
    simp only [escapeByte, List.mem_cons, List.not_mem_nil, or_false] at h
    obtain rfl | rfl | rfl := h
    · decide
    · exact isPlain_upperDigit (by omega)
    · exact isPlain_upperDigit (by omega)

theorem isPlain_of_mem_encode {s : String} (h : c ∈ encode s) : isPlain c = true := by
  obtain ⟨b, -, hc⟩ := List.mem_flatMap.1 h
  exact isPlain_of_mem_encodeByte hc

/-! ## Reading -/

theorem decode_cons_of_ne (h : c ≠ '%') (rest : List Char) :
    decode (c :: rest) = String.utf8EncodeChar c ++ decode rest := by
  rw [decode]
  rintro a b rest rfl
  exact absurd rfl h

theorem decode_escapeByte (b : UInt8) (rest : List Char) :
    decode (escapeByte b ++ rest) = b :: decode rest := by
  have hbyte := b.toNat_lt
  have hhi : Hex.value? (Hex.upperDigit (b.toNat / 16)).toNat = some (b.toNat / 16) :=
    Hex.value?_upperDigit (by omega)
  have hlo : Hex.value? (Hex.upperDigit (b.toNat % 16)).toNat = some (b.toNat % 16) :=
    Hex.value?_upperDigit (by omega)
  simp only [escapeByte, List.cons_append, List.nil_append, decode, hhi, hlo, Nat.div_add_mod,
    UInt8.ofNat_toNat]

theorem decode_encodeByte (b : UInt8) (rest : List Char) :
    decode (encodeByte b ++ rest) = b :: decode rest := by
  rw [encodeByte]
  split_ifs with hb
  · obtain ⟨hlt, hmem⟩ := lt_of_isUnreserved hb
    obtain ⟨-, hne, hbytes⟩ := isPlain_ofNat hlt hmem
    rw [List.singleton_append, decode_cons_of_ne hne, hbytes, UInt8.ofNat_toNat,
      List.singleton_append]
  · exact decode_escapeByte b rest

theorem decode_flatMap_encodeByte (bs : List UInt8) : decode (bs.flatMap encodeByte) = bs := by
  induction bs with
  | nil => simp [decode]
  | cons b bs ih => rw [List.flatMap_cons, decode_encodeByte, ih]

theorem decode_encode (s : String) : decode (encode s) = Text.utf8 s :=
  decode_flatMap_encodeByte (Text.utf8 s)

/-- The text that a written text stands for, if its bytes spell one. -/
def text? (s : List Char) : Option String := Text.ofUtf8? (decode s)

theorem text?_encode (s : String) : text? (encode s) = some s := by
  rw [text?, decode_encode, Text.ofUtf8?_utf8]

theorem encode_injective : Function.Injective encode := fun s t h =>
  Option.some.inj (by rw [← text?_encode s, h, text?_encode])

end Percent

end SchemaCatalog
