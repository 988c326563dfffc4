import SchemaCatalog.Json.Reader
import SchemaCatalog.Proofs.Json.Grammar
import Mathlib.Data.List.TakeWhile
import Mathlib.Tactic.SplitIfs

/-!
# Reading blanks and texts

* `Json.unit?_eq_some_iff`, `Json.simpleEscape?_eq_some_iff`: the escapes.
* `Json.pairChar_halves`, `Json.highHalf_pairChar`: a pair and its character.
* `Json.readString_of_quoted`, `Json.quoted_of_readString`: a text is read up to its closing quote,
  as the characters it is written for.
-/

namespace SchemaCatalog.Json

variable {s t r b : List Char} {c : Char}

/-! ## Blanks -/

theorem isBlank_iff : isBlank c = true ↔ c ∈ [' ', '\n', '\r', '\t'] := by
  simp [isBlank, or_assoc]

theorem skipBlanks_append (hb : Blank b) (s : List Char) : skipBlanks (b ++ s) = skipBlanks s :=
  List.dropWhile_append_of_pos fun c hc => isBlank_iff.2 (hb c hc)

theorem skipBlanks_cons (hc : isBlank c = false) (s : List Char) : skipBlanks (c :: s) = c :: s :=
  List.dropWhile_cons_of_neg (by simp [hc])

theorem exists_blank (s : List Char) : ∃ b, Blank b ∧ s = b ++ skipBlanks s :=
  ⟨s.takeWhile isBlank, fun _ hc => isBlank_iff.1 (List.mem_takeWhile_imp hc),
    List.takeWhile_append_dropWhile.symm⟩

/-! ## Escapes -/

theorem value?_eq_some_iff {v : Nat} : Digits.value? 16 c = some v ↔ HexDigit c v := by
  rw [Digits.value?, Option.filter_eq_some_iff, HexDigit, decide_eq_true_iff, And.comm]
  refine and_congr_right fun hv => ⟨fun h => ?_, ?_⟩
  · have hc (n : Nat) (hn : n = c.toNat) : Char.ofNat n = c := by rw [hn, Char.ofNat_toNat]
    rw [Hex.value?] at h
    rw [Hex.digit, Hex.upperDigit]
    split_ifs at h with hdec hlow hup <;> cases h
    · exact .inl (by rw [if_pos (by omega), hc _ (by omega)])
    · exact .inl (by rw [if_neg (by omega), hc _ (by omega)])
    · exact .inr (by rw [if_neg (by omega), hc _ (by omega)])
  · rintro (rfl | rfl)
    · decide +revert
    · decide +revert

theorem unit?_eq_some_iff {a b c d : Char} {n : Nat} :
    unit? a b c d = some n ↔ FourDigits [a, b, c, d] n := by
  constructor
  · intro h
    simp only [unit?, Digits.number?, List.mapM_cons, List.mapM_nil, Option.map_eq_some_iff,
      Option.bind_eq_bind, Option.bind_eq_some_iff, Option.pure_def, Option.some.injEq,
      value?_eq_some_iff] at h
    obtain ⟨_, ⟨i, hi, _, ⟨j, hj, _, ⟨k, hk, _, ⟨l, hl, _, rfl, rfl⟩, rfl⟩, rfl⟩, rfl⟩, rfl⟩ := h
    refine ⟨hi, hj, hk, hl, ?_⟩
    simp only [List.foldl_cons, List.foldl_nil]
    omega
  · rintro ⟨ha, hb, hc, hd, rfl⟩
    simp only [unit?, Digits.number?, List.mapM_cons, List.mapM_nil, value?_eq_some_iff.2 ha,
      value?_eq_some_iff.2 hb, value?_eq_some_iff.2 hc, value?_eq_some_iff.2 hd,
      Option.bind_eq_bind, Option.bind_some, Option.pure_def, Option.map_some, List.foldl_cons,
      List.foldl_nil, Option.some.injEq]
    omega

theorem simpleEscape?_eq_some_iff {e : Char} : simpleEscape? e = some c ↔ ShortEscape e c := by
  constructor
  · intro h
    rw [simpleEscape?] at h
    split_ifs at h with hself hb hf hn hr ht <;> cases h
    · obtain rfl | rfl | rfl := hself <;> constructor
    all_goals
      subst_vars
      constructor
  · rintro ⟨⟩ <;> decide

theorem lt_of_fourDigits {n : Nat} (h : FourDigits s n) : n < 0x10000 := by
  obtain ⟨⟨ha, -⟩, ⟨hb, -⟩, ⟨hc, -⟩, ⟨hd, -⟩, rfl⟩ := h
  omega

/-! ## Halves of a pair -/

theorem toNat_valid (c : Char) : c.toNat < 0xD800 ∨ 0xDFFF < c.toNat ∧ c.toNat < 0x110000 :=
  c.valid

theorem toNat_ofNat {n : Nat} (h : n < 0xD800 ∨ 0xDFFF < n ∧ n < 0x110000) :
    (Char.ofNat n).toNat = n := by
  rw [Char.ofNat, dif_pos (show n.isValidChar from h)]
  rfl

theorem isHighHalf_highHalf (hc : 0x10000 ≤ c.toNat) : isHighHalf (highHalf c) = true := by
  have hvalid := toNat_valid c
  rw [isHighHalf, highHalf, decide_eq_true_iff]
  omega

theorem isLowHalf_lowHalf (c : Char) : isLowHalf (lowHalf c) = true := by
  rw [isLowHalf, lowHalf, decide_eq_true_iff]
  omega

theorem pairChar_halves (hc : 0x10000 ≤ c.toNat) : pairChar (highHalf c) (lowHalf c) = c := by
  have hsum : 0x10000 + (highHalf c - 0xD800) * 0x400 + (lowHalf c - 0xDC00) = c.toNat := by
    rw [highHalf, lowHalf]
    omega
  rw [pairChar, hsum, Char.ofNat_toNat]

theorem highHalf_pairChar {hi lo : Nat} (hhi : isHighHalf hi = true) (hlo : isLowHalf lo = true) :
    0x10000 ≤ (pairChar hi lo).toNat ∧ highHalf (pairChar hi lo) = hi ∧
      lowHalf (pairChar hi lo) = lo := by
  rw [isHighHalf, decide_eq_true_iff] at hhi
  rw [isLowHalf, decide_eq_true_iff] at hlo
  have hval : (pairChar hi lo).toNat = 0x10000 + (hi - 0xD800) * 0x400 + (lo - 0xDC00) :=
    toNat_ofNat (by omega)
  rw [highHalf, lowHalf, hval]
  omega

/-! ## Quoted texts -/

theorem readString_cons (hprint : 32 ≤ c.toNat) (hquote : c ≠ '"') (hback : c ≠ '\\')
    (s : List Char) : readString (c :: s) = (readString s).map fun q => (c :: q.1, q.2) := by
  rw [readString, if_neg (by simp [hback]; omega)]
  · exact hquote
  · rintro a b c' d rest rfl
    exact absurd rfl hback
  · rintro e rest rfl
    exact absurd rfl hback

theorem readString_short {e : Char} (he : ShortEscape e c) (s : List Char) :
    readString ('\\' :: e :: s) = (readString s).map fun q => (c :: q.1, q.2) := by
  have hu : e ≠ 'u' := by rintro rfl; cases he
  rw [readString, simpleEscape?_eq_some_iff.2 he]
  rintro a b c' d rest rfl
  exact absurd rfl hu

theorem readString_unit {w : List Char} (hw : FourDigits w c.toNat) (s : List Char) :
    readString ('\\' :: 'u' :: (w ++ s)) = (readString s).map fun q => (c :: q.1, q.2) := by
  have hvalid := toNat_valid c
  have hlt := lt_of_fourDigits hw
  have hlow : isLowHalf c.toNat = false := decide_eq_false (by omega)
  have hhigh : isHighHalf c.toNat = false := decide_eq_false (by omega)
  cases hw with
  | mk ha hb hc hd hn =>
    simp only [List.cons_append, List.nil_append, readString,
      unit?_eq_some_iff.2 (.mk ha hb hc hd hn), hlow, hhigh, Char.ofNat_toNat]
    rfl

theorem readString_pair {w w' : List Char} (hc : 0x10000 ≤ c.toNat)
    (hw : FourDigits w (highHalf c)) (hw' : FourDigits w' (lowHalf c)) (s : List Char) :
    readString ('\\' :: 'u' :: (w ++ '\\' :: 'u' :: (w' ++ s))) =
      (readString s).map fun q => (c :: q.1, q.2) := by
  have hhigh := isHighHalf_highHalf hc
  have hlow := isLowHalf_lowHalf c
  have hbounds : 0xD800 ≤ highHalf c ∧ highHalf c ≤ 0xDBFF := of_decide_eq_true hhigh
  have hnot : isLowHalf (highHalf c) = false := decide_eq_false (by omega)
  obtain ⟨ha, hb, hc', hd, hn⟩ := hw
  obtain ⟨ha', hb', hc'', hd', hn'⟩ := hw'
  simp only [List.cons_append, List.nil_append, readString,
    unit?_eq_some_iff.2 (.mk ha hb hc' hd hn), unit?_eq_some_iff.2 (.mk ha' hb' hc'' hd' hn'),
    hnot, hhigh, hlow, pairChar_halves hc]
  rfl

theorem readString_of_quoted {cs : List Char} (h : Quoted cs s) (r : List Char) :
    readString (s ++ '"' :: r) = some (cs, r) := by
  induction h with
  | nil => rfl
  | plain hprint hquote hback _ ih =>
    rw [List.cons_append, readString_cons hprint hquote hback, ih, Option.map_some]
  | short he _ ih =>
    rw [List.cons_append, List.cons_append, readString_short he, ih, Option.map_some]
  | unit hw _ ih =>
    rw [List.cons_append, List.cons_append, List.append_assoc, readString_unit hw, ih,
      Option.map_some]
  | pair hc hw hw' _ ih =>
    simp only [List.cons_append, List.append_assoc]
    rw [readString_pair hc hw hw', ih, Option.map_some]

theorem exists_of_map_readString {cs : List Char}
    (h : (readString s).map (fun q => (c :: q.1, q.2)) = some (cs, r)) :
    ∃ cs', readString s = some (cs', r) ∧ cs = c :: cs' := by
  obtain ⟨⟨cs', r'⟩, hread, heq⟩ := Option.map_eq_some_iff.1 h
  cases heq
  exact ⟨cs', hread, rfl⟩

theorem quoted_of_readString {cs : List Char} (h : readString s = some (cs, r)) :
    ∃ w, Quoted cs w ∧ s = w ++ '"' :: r := by
  fun_induction readString s generalizing cs r with
  | case1 => cases h
  | case2 rest =>
    cases h
    exact ⟨[], .nil, rfl⟩
  | case3 => cases h
  | case4 => cases h
  | case5 => cases h
  | case6 a b c d hi hunit hnot hhigh a' b' c' d' rest lo hunit' hlow ih =>
    obtain ⟨cs, hread, rfl⟩ := exists_of_map_readString h
    obtain ⟨w, hw, rfl⟩ := ih hread
    obtain ⟨hbig, hhi, hlo⟩ := highHalf_pairChar hhigh hlow
    have hfirst := hhi ▸ unit?_eq_some_iff.1 hunit
    have hsecond := hlo ▸ unit?_eq_some_iff.1 hunit'
    exact ⟨_, .pair hbig hfirst hsecond hw, rfl⟩
  | case7 => cases h
  | case8 => cases h
  | case9 a b c d rest n hunit hlow hhigh ih =>
    obtain ⟨cs, hread, rfl⟩ := exists_of_map_readString h
    obtain ⟨w, hw, rfl⟩ := ih hread
    have hfour := unit?_eq_some_iff.1 hunit
    have hlt := lt_of_fourDigits hfour
    simp only [isLowHalf, isHighHalf, decide_eq_true_iff] at hlow hhigh
    have hn : (Char.ofNat n).toNat = n := toNat_ofNat (by omega)
    exact ⟨_, .unit (hn.symm ▸ hfour) hw, rfl⟩
  | case10 => cases h
  | case11 e rest hu c he ih =>
    obtain ⟨cs, hread, rfl⟩ := exists_of_map_readString h
    obtain ⟨w, hw, rfl⟩ := ih hread
    exact ⟨_, .short (simpleEscape?_eq_some_iff.1 he) hw, rfl⟩
  | case12 => cases h
  | case13 c rest hquote _ _ hplain ih =>
    obtain ⟨cs, hread, rfl⟩ := exists_of_map_readString h
    obtain ⟨w, hw, rfl⟩ := ih hread
    rw [not_or] at hplain
    exact ⟨_, .plain (Nat.not_lt.1 hplain.1) hquote hplain.2 hw, rfl⟩

end SchemaCatalog.Json
