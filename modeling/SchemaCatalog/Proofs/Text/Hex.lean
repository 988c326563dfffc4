import SchemaCatalog.Text.Hex
import SchemaCatalog.Text.Utf8
import Mathlib.Tactic.SplitIfs

/-!
# Hexadecimal text is read back

* `Text.utf8_of_ascii`: a text of ASCII characters has one byte per character.
  `Text.le_of_mem_utf8EncodeChar`: no byte of another character is one of ASCII.
* `Hex.IsDigit`, `Hex.IsText`: digits, and an even number of them.
* `Hex.Spells`: the digits of a byte string, each of them in either case. `Hex.exists_spells`: every even
  number of digits spells something.
* `Hex.decode_of_spells`: digits are read back. `Hex.isText_of_decode`: nothing else is read.
-/

namespace SchemaCatalog

/-! ## Bytes of characters -/

namespace Text

variable {c : Char} {cs : List Char}

theorem utf8EncodeChar_of_lt (h : c.toNat < 128) :
    String.utf8EncodeChar c = [UInt8.ofNat c.toNat] :=
  if_pos (Nat.le_of_lt_succ h)

/-- No byte of a character outside ASCII is one of ASCII. -/
theorem le_of_mem_utf8EncodeChar {b : UInt8} (h : 128 ≤ c.toNat)
    (hb : b ∈ String.utf8EncodeChar c) : 128 ≤ b.toNat := by
  have hbyte : ∀ n : Nat, (UInt8.ofNat n).toNat = n % 256 := fun n => UInt8.toNat_ofNat'
  have hvalue : c.val.toNat = c.toNat := rfl
  simp only [String.utf8EncodeChar, hvalue] at hb
  split_ifs at hb <;> simp only [List.mem_cons, List.not_mem_nil, or_false] at hb
  · omega
  · rcases hb with rfl | rfl <;> rw [hbyte] <;> omega
  · rcases hb with rfl | rfl | rfl <;> rw [hbyte] <;> omega
  · rcases hb with rfl | rfl | rfl | rfl <;> rw [hbyte] <;> omega

theorem utf8_of_ascii (h : ∀ c ∈ cs, c.toNat < 128) :
    utf8 (String.ofList cs) = cs.map fun c => UInt8.ofNat c.toNat := by
  unfold utf8
  rw [String.toList_ofList]
  induction cs with
  | nil => rfl
  | cons c cs ih =>
    rw [List.flatMap_cons, utf8EncodeChar_of_lt (h c List.mem_cons_self),
      ih fun d hd => h d (List.mem_cons_of_mem c hd)]
    rfl

end Text

namespace Hex

/-! ## Digits -/

def IsDigit (c : Char) : Prop := c ∈ "0123456789abcdefABCDEF".toList

def IsText (cs : List Char) : Prop := cs.length % 2 = 0 ∧ ∀ c ∈ cs, IsDigit c

/-- A digit for `n`, in either case. -/
def Denotes (c : Char) (n : Nat) : Prop := c = digit n ∨ c = upperDigit n

instance (c : Char) : Decidable (IsDigit c) := List.instDecidableMemOfLawfulBEq c _

instance (c : Char) (n : Nat) : Decidable (Denotes c n) := instDecidableOr

/-- Digits spell bytes: two for each, the more significant one first, in either case. -/
inductive Spells : List Char → List UInt8 → Prop
  | nil : Spells [] []
  | cons {hi lo : Char} {cs : List Char} {b : UInt8} {bs : List UInt8}
    (hhi : Denotes hi (b.toNat / 16)) (hlo : Denotes lo (b.toNat % 16)) (hcs : Spells cs bs) :
    Spells (hi :: lo :: cs) (b :: bs)

variable {c : Char} {n code : Nat} {cs : List Char} {bs : List UInt8}

theorem Denotes.value? (h : Denotes c n) (hn : n < 16) :
    c.toNat < 128 ∧ Hex.value? c.toNat = some n := by
  rcases h with rfl | rfl <;> decide +revert

theorem Denotes.isDigit (h : Denotes c n) (hn : n < 16) : IsDigit c := by
  rcases h with rfl | rfl <;> decide +revert

theorem IsDigit.exists_denotes (h : IsDigit c) : ∃ n, n < 16 ∧ Denotes c n := by
  have hall : "0123456789abcdefABCDEF".toList.all
      (fun c => (List.range 16).any fun n => decide (Denotes c n)) = true := by decide
  obtain ⟨n, hn, hd⟩ := List.any_eq_true.1 (List.all_eq_true.1 hall c h)
  exact ⟨n, List.mem_range.1 hn, of_decide_eq_true hd⟩

theorem lt_of_value? (h : value? code = some n) : code < 103 := by
  unfold value? at h
  split_ifs at h <;> omega

theorem isDigit_of_value? (h : value? code = some n) : IsDigit (Char.ofNat code) := by
  have hall : ∀ code < 103, (value? code).isSome → IsDigit (Char.ofNat code) := by decide
  exact hall code (lt_of_value? h) (h ▸ rfl)

/-! ## Spellings -/

theorem Spells.isText (h : Spells cs bs) : IsText cs := by
  induction h with
  | nil => exact ⟨rfl, nofun⟩
  | @cons hi lo cs b bs hhi hlo hcs ih =>
    have hb := b.toNat_lt
    refine ⟨?_, List.forall_mem_cons.2 ⟨hhi.isDigit (by omega),
      List.forall_mem_cons.2 ⟨hlo.isDigit (by omega), ih.2⟩⟩⟩
    have := ih.1
    simp only [List.length_cons]
    omega

theorem exists_spells : ∀ {cs : List Char}, IsText cs → ∃ bs, Spells cs bs
  | [], _ => ⟨[], .nil⟩
  | [_], ⟨heven, _⟩ => by simp at heven
  | hi :: lo :: cs, ⟨heven, hdigits⟩ => by
    rw [List.forall_mem_cons, List.forall_mem_cons] at hdigits
    obtain ⟨m, hm, hhi⟩ := hdigits.1.exists_denotes
    obtain ⟨n, hn, hlo⟩ := hdigits.2.1.exists_denotes
    simp only [List.length_cons] at heven
    have hcs : IsText cs := ⟨by omega, hdigits.2.2⟩
    obtain ⟨bs, hbs⟩ := exists_spells hcs
    have hbyte : (UInt8.ofNat (16 * m + n)).toNat = 16 * m + n := by
      rw [UInt8.toNat_ofNat']
      omega
    refine ⟨UInt8.ofNat (16 * m + n) :: bs, .cons ?_ ?_ hbs⟩
    · rwa [hbyte, show (16 * m + n) / 16 = m by omega]
    · rwa [hbyte, show (16 * m + n) % 16 = n by omega]

/-! ## Reading -/

theorem decodePairs_of_spells (h : Spells cs bs) (i : Nat) :
    decodePairs i (cs.map fun c => UInt8.ofNat c.toNat) = .ok bs := by
  induction h generalizing i with
  | nil => rfl
  | @cons hi lo cs b bs hhi hlo hcs ih =>
    have hb := b.toNat_lt
    obtain ⟨hlthi, hvalhi⟩ := hhi.value? (by omega)
    obtain ⟨hltlo, hvallo⟩ := hlo.value? (by omega)
    have hcode : ∀ {c : Char}, c.toNat < 128 → (UInt8.ofNat c.toNat).toNat = c.toNat := by
      intro c hc
      rw [UInt8.toNat_ofNat']
      omega
    rw [List.map_cons, List.map_cons, decodePairs, hcode hlthi, hcode hltlo, hvalhi, hvallo]
    simp only [ih, Except.map, Nat.div_add_mod, UInt8.ofNat_toNat]

/-- **Digits are read back**, in whichever case they are. -/
theorem decode_of_spells (h : Spells cs bs) : decode (Text.utf8 (String.ofList cs)) = .ok bs := by
  have hascii : ∀ c ∈ cs, c.toNat < 128 := by
    intro c hc
    obtain ⟨n, hn, hd⟩ := (h.isText.2 c hc).exists_denotes
    exact (hd.value? hn).1
  rw [Text.utf8_of_ascii hascii, decode, if_neg, decodePairs_of_spells h]
  rw [List.length_map, h.isText.1]
  decide

theorem exists_value?_of_decodePairs {text : List UInt8} {i : Nat} (heven : text.length % 2 = 0)
    (h : decodePairs i text = .ok bs) : ∀ b ∈ text, ∃ n, value? b.toNat = some n := by
  fun_induction decodePairs i text generalizing bs with
  | case1 => cases h
  | case2 => cases h
  | case3 i hi lo rest m n hlo hhi ih =>
    simp only [List.length_cons] at heven
    cases hrest : decodePairs (i + 2) rest with
    | error err => rw [hrest] at h; cases h
    | ok bs =>
      exact List.forall_mem_cons.2 ⟨⟨m, hhi⟩,
        List.forall_mem_cons.2 ⟨⟨n, hlo⟩, ih (by omega) hrest⟩⟩
  | case4 text i hpairs =>
    -- an even number of bytes that are no pair is none
    cases text with
    | nil => nofun
    | cons b rest =>
      cases rest with
      | nil => simp at heven
      | cons c rest => exact absurd rfl (hpairs b c rest)

/-- **Nothing but digits is read**, and no odd number of them. -/
theorem isText_of_decode {s : String} (h : decode (Text.utf8 s) = .ok bs) : IsText s.toList := by
  unfold decode at h
  split_ifs at h with hodd
  have hvalue := exists_value?_of_decodePairs (by omega) h
  have hdigit : ∀ c ∈ s.toList, c.toNat < 128 ∧ IsDigit c := by
    intro c hc
    have hbytes : ∀ b ∈ String.utf8EncodeChar c, ∃ n, value? b.toNat = some n := fun b hb =>
      hvalue b (List.mem_flatMap.2 ⟨c, hc, hb⟩)
    by_cases hlt : c.toNat < 128
    · rw [Text.utf8EncodeChar_of_lt hlt, List.forall_mem_singleton, UInt8.toNat_ofNat',
        Nat.mod_eq_of_lt (by omega)] at hbytes
      obtain ⟨n, hn⟩ := hbytes
      exact ⟨hlt, Char.ofNat_toNat c ▸ isDigit_of_value? hn⟩
    · -- the first byte of such a character is no digit
      obtain ⟨b, hb⟩ := List.exists_mem_of_length_pos
        (String.length_utf8EncodeChar c ▸ c.utf8Size_pos)
      obtain ⟨n, hn⟩ := hbytes b hb
      have hlarge := Text.le_of_mem_utf8EncodeChar (by omega) hb
      have hsmall := lt_of_value? hn
      omega
  refine ⟨?_, fun c hc => (hdigit c hc).2⟩
  rw [← String.ofList_toList (s := s), Text.utf8_of_ascii fun c hc => (hdigit c hc).1,
    List.length_map] at hodd
  omega

end Hex

end SchemaCatalog
