import SchemaCatalog.Proofs.Registry.Paths
import SchemaCatalog.RegistryUrl
import Mathlib.Data.List.TakeWhile

/-!
# Paths against a base

A path of the registry replaces the path of the registry's address. There the segments `.` and `..`
are no names but moves, and the encoding of a text leaves points alone.

* `Url.isLiteral`: the characters that a path holds as they are.
* `Url.pushAll`: the segments of a path, read one after the other. `Url.mem_pushAll`: no move is
  left. `Url.reverse_pushAll_eq_iff`: they stay exactly if none is a move.
* `Percent.isMove_encode_iff`: a written text is a move exactly if the text itself is.
* `Url.resolve_of_literal`: where a path leads from a base.
* **`RegistryPath.resolve_version_iff`**: a path leads where it says exactly if neither the group
  nor the subject nor the version is a move.
* `RegistryPath.not_still_dots`: a subject that leads elsewhere.
-/

namespace SchemaCatalog

namespace Url

variable {s path : List Char} {kind : SchemeKind} {segs done : List (List Char)}

/-! ## Characters that a path holds as they are -/

/-- Whether a character has no meaning of its own in a path and need not be encoded there. -/
def isLiteral (c : Char) : Bool :=
  !isTrimmed c && !isDropped c && decide (c.toNat < 0x7F) && !inPath c &&
    !([':', '|', '/', '\\'].contains c)

/-- All characters of a segment are literal. -/
def Literal (s : List Char) : Prop := ∀ c ∈ s, isLiteral c = true

instance (s : List Char) : Decidable (Literal s) :=
  List.decidableBAll (fun c => isLiteral c = true) s

theorem isLiteral_iff {c : Char} :
    isLiteral c = true ↔ isTrimmed c = false ∧ isDropped c = false ∧ c.toNat < 0x7F ∧
      inPath c = false ∧ c ≠ ':' ∧ c ≠ '|' ∧ c ≠ '/' ∧ c ≠ '\\' := by
  simp [isLiteral, and_assoc]

theorem isSlash_of_isLiteral {c : Char} (h : isLiteral c = true) : isSlash kind c = false := by
  obtain ⟨-, -, -, -, -, -, hslash, hback⟩ := isLiteral_iff.1 h
  simp [isSlash, hslash, hback]

theorem escape_of_literal (h : Literal s) : escape inPath s = s := by
  induction s with
  | nil => rfl
  | cons c s ih =>
    obtain ⟨htrim, -, hlt, hin, -⟩ := isLiteral_iff.1 (h c List.mem_cons_self)
    have hge : 32 < c.toNat := by simpa [isTrimmed] using htrim
    have hkeep : ¬ (c.toNat < 0x20 ∨ 0x7F ≤ c.toNat ∨ inPath c = true) := by
      rw [hin, Bool.false_eq_true, or_false]
      omega
    have htail := ih fun d hd => h d (List.mem_cons_of_mem c hd)
    rw [escape] at htail ⊢
    rw [List.flatMap_cons, if_neg hkeep, htail, List.singleton_append]

theorem isDriveLetter_of_literal (h : Literal s) : isDriveLetter s = false := by
  unfold isDriveLetter
  split
  · next c d =>
    obtain ⟨-, -, -, -, hcolon, hbar, -⟩ := isLiteral_iff.1 (h d (by simp))
    simp [hcolon, hbar]
  · rfl

theorem significant_of_forall (h : ∀ c ∈ s, isTrimmed c = false ∧ isDropped c = false) :
    significant s = s := by
  have hfront : ∀ {t : List Char}, (∀ c ∈ t, isTrimmed c = false) → t.dropWhile isTrimmed = t := by
    rintro (_ | ⟨c, t⟩) ht
    · rfl
    · rw [List.dropWhile_cons_of_neg (by simp [ht c])]
  have htrim : ∀ c ∈ s, isTrimmed c = false := fun c hc => (h c hc).1
  rw [significant, hfront htrim, hfront (fun c hc => htrim c (List.mem_reverse.1 hc)),
    List.reverse_reverse, List.filter_eq_self]
  intro c hc
  rw [(h c hc).2]
  rfl

theorem splitFragment_of_notMem (h : '#' ∉ s) : splitFragment s = (s, none) := by
  have hnone : s.dropWhile (· ≠ '#') = [] := by
    rw [List.dropWhile_eq_nil_iff]
    intro c hc
    simpa using fun hhash : c = '#' => h (hhash ▸ hc)
  rw [splitFragment, hnone]

theorem splitQuery_of_notMem (h : '?' ∉ s) : splitQuery kind s = (s, none) := by
  have hnone : s.dropWhile (· ≠ '?') = [] := by
    rw [List.dropWhile_eq_nil_iff]
    intro c hc
    simpa using fun hmark : c = '?' => h (hmark ▸ hc)
  rw [splitQuery, hnone]

/-! ## Segments that are moves -/

/-- A segment that is no name: it stands for the place itself or for the one above. -/
def isMove (s : List Char) : Bool := isSingleDot s || isDoubleDot s

/-- The segments of a path in reverse order, after those in `done`. -/
def pushAll (kind : SchemeKind) (done : List (List Char)) : List (List Char) → List (List Char)
  | [] => done
  | [s] => push kind done s true
  | s :: t :: segs => pushAll kind (push kind done s false) (t :: segs)

theorem readSegments_append (hs : Literal s) (current rest : List Char) :
    readSegments kind done current (s ++ rest) =
      readSegments kind done (s.reverse ++ current) rest := by
  induction s generalizing current with
  | nil => rfl
  | cons c s ih =>
    have hc : isSlash kind c = false := isSlash_of_isLiteral (hs c List.mem_cons_self)
    rw [List.cons_append, readSegments, hc, if_neg Bool.false_ne_true,
      ih (fun d hd => hs d (List.mem_cons_of_mem c hd)), List.reverse_cons, List.append_assoc,
      List.singleton_append]

theorem readSegments_intercalate (hsegs : ∀ s ∈ segs, Literal s) (hne : segs ≠ []) :
    readSegments kind done [] (['/'].intercalate segs) = (pushAll kind done segs).reverse := by
  induction segs generalizing done with
  | nil => exact absurd rfl hne
  | cons s segs ih =>
    have hs := hsegs s List.mem_cons_self
    cases segs with
    | nil =>
      have hread : readSegments kind done [] (s ++ []) =
          readSegments kind done (s.reverse ++ []) [] :=
        readSegments_append hs [] []
      rw [List.append_nil, List.append_nil] at hread
      rw [List.intercalate_singleton, hread, readSegments, List.reverse_reverse, pushAll]
    | cons t segs =>
      have htail : readSegments kind (push kind done s false) [] (['/'].intercalate (t :: segs)) =
          (pushAll kind (push kind done s false) (t :: segs)).reverse :=
        ih (fun u hu => hsegs u (List.mem_cons_of_mem s hu)) (List.cons_ne_nil t segs)
      rw [List.intercalate_cons_cons, List.append_assoc, readSegments_append hs, List.append_nil,
        List.singleton_append, readSegments, List.reverse_reverse, htail, pushAll]
      simp [isSlash]

theorem push_of_still {last : Bool} (hs : Literal s) (hmove : isMove s = false) :
    push kind done s last = s :: done := by
  obtain ⟨hsingle, hdouble⟩ := Bool.or_eq_false_iff.1 hmove
  simp [push, hsingle, hdouble, isDriveLetter_of_literal hs, escape_of_literal hs]

theorem pushAll_of_still (hsegs : ∀ s ∈ segs, Literal s) (hstill : ∀ s ∈ segs, isMove s = false) :
    pushAll kind done segs = segs.reverse ++ done := by
  induction segs generalizing done with
  | nil => rfl
  | cons s segs ih =>
    have hs := hsegs s List.mem_cons_self
    have hmove := hstill s List.mem_cons_self
    cases segs with
    | nil => rw [pushAll, push_of_still hs hmove]; rfl
    | cons t segs =>
      rw [pushAll, push_of_still hs hmove,
        ih (fun u hu => hsegs u (List.mem_cons_of_mem s hu))
          (fun u hu => hstill u (List.mem_cons_of_mem s hu)),
        @List.reverse_cons _ s (t :: segs), List.append_assoc, List.singleton_append]

theorem mem_of_mem_pop {t : List Char} (h : t ∈ pop done) : t ∈ done := by
  unfold pop at h
  split at h
  · exact h
  · next s rest =>
    split at h
    · exact h
    · exact List.mem_cons_of_mem s h

theorem mem_push_of_move {t : List Char} {last : Bool} (hmove : isMove s = true)
    (h : t ∈ push kind done s last) : t ∈ done ∨ t = [] := by
  have hrest : t ∈ pop done ∨ t ∈ done ∨ t = [] := by
    unfold push at h
    split at h
    · split at h
      · exact (List.mem_cons.1 h).elim (.inr ∘ .inr) .inl
      · exact .inl h
    · next hdouble =>
      have hsingle : isSingleDot s = true := (Bool.or_eq_true_iff.1 hmove).resolve_right hdouble
      rw [if_pos hsingle] at h
      split at h
      · exact .inr (List.mem_cons.1 h).symm
      · exact .inr (.inl h)
  exact hrest.elim (.inl ∘ mem_of_mem_pop) id

theorem mem_pushAll {t : List Char} (hsegs : ∀ s ∈ segs, Literal s)
    (h : t ∈ pushAll kind done segs) : t ∈ done ∨ t = [] ∨ t ∈ segs ∧ isMove t = false := by
  have hpush : ∀ {s done last}, Literal s → t ∈ push kind done s last →
      t ∈ done ∨ t = [] ∨ t = s ∧ isMove t = false := by
    intro s done last hs ht
    cases hmove : isMove s with
    | false =>
      rw [push_of_still hs hmove, List.mem_cons] at ht
      obtain rfl | ht := ht
      · exact .inr (.inr ⟨rfl, hmove⟩)
      · exact .inl ht
    | true => exact (mem_push_of_move hmove ht).imp_right .inl
  induction segs generalizing done with
  | nil => exact .inl h
  | cons s segs ih =>
    have hs := hsegs s List.mem_cons_self
    have hfirst : ∀ {last}, t ∈ push kind done s last →
        t ∈ done ∨ t = [] ∨ t ∈ s :: segs ∧ isMove t = false := by
      intro last ht
      obtain hold | hnil | ⟨rfl, hmove⟩ := hpush hs ht
      · exact .inl hold
      · exact .inr (.inl hnil)
      · exact .inr (.inr ⟨List.mem_cons_self, hmove⟩)
    cases segs with
    | nil => exact hfirst h
    | cons u segs =>
      obtain ht | ht | ⟨ht, hmove⟩ := ih (fun v hv => hsegs v (List.mem_cons_of_mem s hv)) h
      · exact hfirst ht
      · exact .inr (.inl ht)
      · exact .inr (.inr ⟨List.mem_cons_of_mem s ht, hmove⟩)

/-- Segments stay exactly if none of them is a move. -/
theorem reverse_pushAll_eq_iff (hsegs : ∀ s ∈ segs, Literal s) :
    (pushAll kind [] segs).reverse = segs ↔ ∀ s ∈ segs, isMove s = false := by
  constructor
  · intro h s hs
    rw [← h, List.mem_reverse] at hs
    obtain hs | rfl | ⟨-, hs⟩ := mem_pushAll hsegs hs
    · cases hs
    · decide
    · exact hs
  · intro h
    rw [pushAll_of_still hsegs h, List.append_nil, List.reverse_reverse]

end Url

/-! ## Written texts that are moves -/

namespace Percent

variable {s : String} {c : Char} {b : UInt8}

/-- The characters of a written text, by their codes. -/
theorem isLiteral_ofNat {n : Nat} (hlt : n < 256)
    (h : isUnreserved (UInt8.ofNat n) = true ∨ n = 37) :
    Url.isLiteral (Char.ofNat n) = true := by
  have hall : ∀ n < 256, isUnreserved (UInt8.ofNat n) = true ∨ n = 37 →
      Url.isLiteral (Char.ofNat n) = true := by decide +kernel
  exact hall n hlt h

theorem isLiteral_upperDigit {n : Nat} (h : n < 16) :
    Url.isLiteral (Hex.upperDigit n) = true := by
  decide +revert

theorem literal_encode (s : String) : Url.Literal (encode s) := by
  intro c h
  obtain ⟨b, -, hc⟩ := List.mem_flatMap.1 h
  have hbyte := b.toNat_lt
  rw [encodeByte] at hc
  split_ifs at hc with hb
  · rw [List.mem_singleton.1 hc]
    exact isLiteral_ofNat hbyte (.inl (by rwa [UInt8.ofNat_toNat]))
  · simp only [escapeByte, List.mem_cons, List.not_mem_nil, or_false] at hc
    obtain rfl | rfl | rfl := hc
    · decide
    · exact isLiteral_upperDigit (by omega)
    · exact isLiteral_upperDigit (by omega)

theorem eq_of_toLower (hc : Url.isLiteral c = true) :
    (c.toLower = '.' → c = '.') ∧ (c.toLower = '%' → c = '%') ∧ (c.toLower = '2' → c = '2') ∧
      (c.toLower = 'e' → c = 'e' ∨ c = 'E') := by
  have hall : ∀ n < 0x7F, ((Char.ofNat n).toLower = '.' → Char.ofNat n = '.') ∧
      ((Char.ofNat n).toLower = '%' → Char.ofNat n = '%') ∧
      ((Char.ofNat n).toLower = '2' → Char.ofNat n = '2') ∧
      ((Char.ofNat n).toLower = 'e' → Char.ofNat n = 'e' ∨ Char.ofNat n = 'E') := by decide +kernel
  have hlt : c.toNat < 0x7F := (Url.isLiteral_iff.1 hc).2.2.1
  have h := hall c.toNat hlt
  rwa [Char.ofNat_toNat] at h

/-- The ways to write a point. -/
def Point (l : List Char) : Prop := l = ['.'] ∨ l = ['%', '2', 'e'] ∨ l = ['%', '2', 'E']

theorem Point.decode_append {l : List Char} (hl : Point l) (rest : List Char) :
    decode (l ++ rest) = 46 :: decode rest := by
  obtain rfl | rfl | rfl := hl
  · exact decode_cons_of_ne (by decide) rest
  · simp [decode, Hex.value?]
  · exact decode_escapeByte 46 rest

theorem point_of_map {l : List Char} (hl : Url.Literal l)
    (h : l.map Char.toLower = ['.'] ∨ l.map Char.toLower = ['%', '2', 'e']) : Point l := by
  have hchar := fun c (hc : c ∈ l) => eq_of_toLower (hl c hc)
  obtain h | h := h <;>
    simp only [List.map_eq_cons_iff, List.map_eq_nil_iff] at h
  · obtain ⟨a, -, rfl, ha, rfl⟩ := h
    rw [(hchar a (by simp)).1 ha]
    exact .inl rfl
  · obtain ⟨a, -, rfl, ha, b, -, rfl, hb, c, -, rfl, hc, rfl⟩ := h
    rw [(hchar a (by simp)).2.1 ha, (hchar b (by simp)).2.2.1 hb]
    obtain rfl | rfl := (hchar c (by simp)).2.2.2 hc
    · exact .inr (.inl rfl)
    · exact .inr (.inr rfl)

/-- What is read as a move is one or two points. -/
theorem decode_of_isMove {l : List Char} (hl : Url.Literal l) (h : Url.isMove l = true) :
    decode l = [46] ∨ decode l = [46, 46] := by
  obtain h | h := Bool.or_eq_true_iff.1 h
  · have hpoint : Point l := point_of_map hl (by simpa [Url.isSingleDot] using h)
    left
    rw [← List.append_nil l, hpoint.decode_append, decode]
  · obtain ⟨p, q, hp, hq, hpq⟩ : ∃ p q, (p = ['.'] ∨ p = ['%', '2', 'e']) ∧
        (q = ['.'] ∨ q = ['%', '2', 'e']) ∧ l.map Char.toLower = p ++ q := by
      simp only [Url.isDoubleDot, Bool.or_eq_true, beq_iff_eq, or_assoc] at h
      obtain h | h | h | h := h
      · exact ⟨_, _, .inl rfl, .inl rfl, h⟩
      · exact ⟨_, _, .inl rfl, .inr rfl, h⟩
      · exact ⟨_, _, .inr rfl, .inl rfl, h⟩
      · exact ⟨_, _, .inr rfl, .inr rfl, h⟩
    obtain ⟨l₁, l₂, rfl, rfl, rfl⟩ := List.map_eq_append_iff.1 hpq
    have h₁ : Point l₁ := point_of_map (fun c hc => hl c (List.mem_append_left _ hc)) hp
    have h₂ : Point l₂ := point_of_map (fun c hc => hl c (List.mem_append_right _ hc)) hq
    right
    rw [h₁.decode_append, ← List.append_nil l₂, h₂.decode_append, decode]

theorem isMove_encode_iff : Url.isMove (encode s) = true ↔ s = "." ∨ s = ".." := by
  constructor
  · intro h
    have hbytes := decode_of_isMove (literal_encode s) h
    rw [decode_encode] at hbytes
    obtain hs | hs := hbytes
    · exact .inl (Text.utf8_injective (hs.trans rfl))
    · exact .inr (Text.utf8_injective (hs.trans rfl))
  · rintro (rfl | rfl) <;> decide

end Percent

/-! ## Where a path leads -/

namespace Url

variable {segs : List (List Char)}

theorem text_segments (segs : List (List Char)) :
    (Path.segments segs).text = ['/'].intercalate ([] :: segs) := by
  rw [Path.text]
  induction segs with
  | nil => rfl
  | cons s segs ih =>
    rw [List.flatMap_cons, ih, List.intercalate_cons_cons, List.nil_append, List.singleton_append,
      List.cons_append]
    cases segs with
    | nil => simp
    | cons t segs => simp

theorem text_segments_inj {segs' : List (List Char)} (hsegs : ∀ s ∈ segs, '/' ∉ s)
    (hsegs' : ∀ s ∈ segs', '/' ∉ s) :
    (Path.segments segs).text = (Path.segments segs').text ↔ segs = segs' := by
  refine ⟨fun h => ?_, congrArg fun segs => (Path.segments segs).text⟩
  have hsplit : ∀ {segs : List (List Char)}, (∀ s ∈ segs, '/' ∉ s) →
      (Path.segments segs).text.splitOn '/' = [] :: segs := fun hsegs => by
    rw [text_segments]
    exact List.splitOn_intercalate '/' (List.forall_mem_cons.2 ⟨List.not_mem_nil, hsegs⟩)
      (List.cons_ne_nil _ _)
  have hlists := congrArg (List.splitOn '/') h
  rw [hsplit hsegs, hsplit hsegs'] at hlists
  exact List.tail_eq_of_cons_eq hlists

/-- A path of literal segments is read segment by segment. -/
theorem resolve_of_literal {reference : String} (base : Url) (hsegs : ∀ s ∈ segs, Literal s)
    (hne : segs ≠ []) (href : reference.toList = '/' :: ['/'].intercalate segs) :
    RegistryUrl.resolve base reference =
      { base with
        path := .segments (pushAll (.ofScheme base.scheme) [] segs).reverse
        query := none
        fragment := none } := by
  have hchar : ∀ c ∈ reference.toList, c = '/' ∨ isLiteral c = true := by
    intro c hc
    rw [href, List.mem_cons] at hc
    obtain rfl | hc := hc
    · exact .inl rfl
    · exact (RegistryPath.mem_intercalate hc).imp_right fun ⟨s, hs, hc⟩ => hsegs s hs c hc
  have hsignificant : significant reference.toList = reference.toList := by
    refine significant_of_forall fun c hc => ?_
    obtain rfl | hc := hchar c hc
    · decide
    · exact ⟨(isLiteral_iff.1 hc).1, (isLiteral_iff.1 hc).2.1⟩
  have hnot : ∀ c, isLiteral c = false → c ≠ '/' → c ∉ reference.toList := by
    intro c hc hslash hmem
    obtain h | h := hchar c hmem
    · exact hslash h
    · rw [hc] at h
      cases h
  have hread : segmentsOf (.ofScheme base.scheme) ('/' :: ['/'].intercalate segs) =
      (pushAll (.ofScheme base.scheme) [] segs).reverse := by
    rw [segmentsOf, readSegments_intercalate hsegs hne]
    simp [isSlash]
  have hfragment := splitFragment_of_notMem (hnot '#' (by decide) (by decide))
  have hquery : splitQuery (.ofScheme base.scheme) reference.toList = (reference.toList, none) :=
    splitQuery_of_notMem (hnot '?' (by decide) (by decide))
  simp only [RegistryUrl.resolve, hsignificant, hfragment, hquery]
  rw [href, hread]

end Url

namespace RegistryPath

open Percent

variable {group subject version : String}

/-- What holds of the fixed segments of a path holds of all of them exactly if it holds of the
group, the subject and the version. -/
theorem forall_mem_segments_iff {P : List Char → Prop}
    (fixed : ∀ s ∈ rootSegments ++ ["groups".toList, "artifacts".toList, "versions".toList,
      "meta".toList], P s) (newest : P (encode latest)) :
    (∀ s ∈ segments (RegistryPath.version group subject version), P s) ↔
      ∀ t ∈ [group, subject, version], P (encode t) := by
  simp only [List.forall_mem_append, List.forall_mem_cons, List.not_mem_nil, false_imp_iff,
    implies_true, and_true] at fixed ⊢
  obtain ⟨hroot, hgroups, hartifacts, hversions, hmeta⟩ := fixed
  have hversion : (∀ s ∈ atVersion (written? version), P s) ↔ P (encode version) := by
    rw [written?]
    split_ifs with h
    · rw [h]
      exact iff_of_true (by simpa only [atVersion, List.forall_mem_singleton] using hmeta) newest
    · simp only [atVersion, List.forall_mem_cons, List.not_mem_nil, false_imp_iff, implies_true,
        hversions, hmeta, true_and, and_true]
  rw [segments_version, versionSegments, List.forall_mem_append, List.forall_mem_append, hversion,
    and_iff_right hroot]
  simp only [List.forall_mem_cons, List.not_mem_nil, false_imp_iff, implies_true, hgroups,
    hartifacts, true_and, and_true, and_assoc]

theorem literal_of_mem_segments :
    ∀ s ∈ segments (RegistryPath.version group subject version), Url.Literal s :=
  (forall_mem_segments_iff (by decide) (by decide)).2 fun t _ => literal_encode t

theorem still_encode_iff {s : String} : Url.isMove (encode s) = false ↔ s ≠ "." ∧ s ≠ ".." := by
  rw [← Bool.not_eq_true, isMove_encode_iff, not_or]

theorem ne_dots_encode_iff {s : String} :
    encode s ≠ ".".toList ∧ encode s ≠ "..".toList ↔ s ≠ "." ∧ s ≠ ".." := by
  have hdots : encode "." = ".".toList ∧ encode ".." = "..".toList := by decide
  rw [← hdots.1, ← hdots.2, encode_injective.ne_iff, encode_injective.ne_iff]

theorem resolve_version (base : Url) (group subject version : String) :
    ∃ segs, segments (RegistryPath.version group subject version) = [] :: segs ∧
      (RegistryPath.version group subject version).toList = (Url.Path.segments segs).text ∧
      RegistryUrl.resolve base (RegistryPath.version group subject version) =
        ⟨base.scheme, base.authority,
          .segments (Url.pushAll (.ofScheme base.scheme) [] segs).reverse, none, none⟩ := by
  obtain ⟨segs, hne, hsegs⟩ : ∃ segs, segs ≠ [] ∧
      versionSegments (encode group) (encode subject) (written? version) = [] :: segs :=
    ⟨_, List.cons_ne_nil _ _, rfl⟩
  have hpath : (RegistryPath.version group subject version).toList =
      ['/'].intercalate ([] :: segs) := by
    rw [toList_version, hsegs]
  have hcut : segments (RegistryPath.version group subject version) = [] :: segs := by
    rw [segments_version, hsegs]
  have hliteral : ∀ s ∈ segs, Url.Literal s := fun s hs =>
    literal_of_mem_segments s (hcut ▸ List.mem_cons_of_mem [] hs)
  refine ⟨segs, hcut, hpath.trans (Url.text_segments segs).symm,
    Url.resolve_of_literal base hliteral hne ?_⟩
  obtain ⟨s, segs, rfl⟩ := List.exists_cons_of_ne_nil hne
  rw [hpath, List.intercalate_cons_cons, List.nil_append, List.singleton_append]

/-- **A path leads where it says exactly if neither the group nor the subject nor the version is a
move.** Exactly then no segment of it is a move, and against a base the path stays as it is. Scheme
and authority are those of the base in any case, and there is neither query nor fragment. -/
theorem resolve_version_iff (base : Url) (group subject version : String) :
    ((∀ s ∈ segments (RegistryPath.version group subject version),
        s ≠ ".".toList ∧ s ≠ "..".toList) ↔
      ∀ t ∈ [group, subject, version], t ≠ "." ∧ t ≠ "..") ∧
    ((RegistryUrl.resolve base (RegistryPath.version group subject version)).path.text =
        (RegistryPath.version group subject version).toList ↔
      ∀ t ∈ [group, subject, version], t ≠ "." ∧ t ≠ "..") ∧
    ∃ segs, RegistryUrl.resolve base (RegistryPath.version group subject version) =
      ⟨base.scheme, base.authority, .segments segs, none, none⟩ := by
  obtain ⟨segs, hcut, hpath, hresolve⟩ := resolve_version base group subject version
  have hliteral : ∀ s ∈ segs, Url.Literal s := fun s hs =>
    literal_of_mem_segments s (hcut ▸ List.mem_cons_of_mem [] hs)
  have hslash : ∀ s, Url.Literal s → '/' ∉ s := fun s hs hmem => absurd (hs '/' hmem) (by decide)
  have hkept : ∀ s ∈ (Url.pushAll (.ofScheme base.scheme) [] segs).reverse, '/' ∉ s := by
    intro s hs
    obtain h | rfl | ⟨h, -⟩ := Url.mem_pushAll hliteral (List.mem_reverse.1 hs)
    · cases h
    · exact List.not_mem_nil
    · exact hslash s (hliteral s h)
  have hstill : (∀ s ∈ segs, Url.isMove s = false) ↔
      ∀ t ∈ [group, subject, version], t ≠ "." ∧ t ≠ ".." := by
    have hall := @forall_mem_segments_iff group subject version (fun s => Url.isMove s = false)
      (by decide) (by decide)
    rw [hcut, List.forall_mem_cons, and_iff_right (by decide)] at hall
    rw [hall]
    exact forall₂_congr fun t _ => still_encode_iff
  refine ⟨?_, ?_, _, hresolve⟩
  · rw [forall_mem_segments_iff (P := fun s => s ≠ ".".toList ∧ s ≠ "..".toList) (by decide)
      (by decide)]
    exact forall₂_congr fun t _ => ne_dots_encode_iff
  · rw [hpath, hresolve, Url.text_segments_inj hkept fun s hs => hslash s (hliteral s hs),
      Url.reverse_pushAll_eq_iff hliteral, hstill]

/-- A subject that leads elsewhere: what is asked for is the group. -/
theorem not_still_dots :
    "..".toList ∈ segments (RegistryPath.version "default" ".." latest) ∧
      ((Url.parse "http://localhost:8080".toList).toOption.map fun base =>
        (RegistryUrl.resolve base (RegistryPath.version "default" ".." latest)).text) =
          some "http://localhost:8080/apis/registry/v2/groups/default/meta" := by
  decide

end RegistryPath

end SchemaCatalog
