import SchemaCatalog.Key
import Mathlib.Data.List.Dedup
import Mathlib.Data.List.Perm.Basic

/-!
# Sets tell pairs apart

Pairs that read the same when they are written together have one checksum, and so they share a
bucket whatever hash function is used. A set tells them apart all the same, because keys are
compared by their texts as well.

* `Key.same_iff`: keys are the same if their pairs are. `Key.hashBytes_of_same`: then they are placed
  by the same bytes.
* `KeySet.Sound`: every key of a set is in the one bucket for its hash, once.
  `KeySet.Sound.contains_iff`: such a set finds exactly its keys. `KeySet.Sound.insert`: it stays so.
* `KeySet.insertAll`: keys added one after the other. `KeySet.getElem?_insertAll`: which are new.
* `KeySet.ofPairs`: pairs added to an empty set. `KeySet.mem_keys_ofPairs`: its keys are theirs.
* **`KeySet.identifies_pairs`**: a set is one of pairs, for every hash function.
-/

namespace SchemaCatalog

namespace Key

variable {k l : Key}

theorem same_iff : k.same l = true ↔ k = l := by
  constructor
  · intro h
    simp only [same, Bool.and_eq_true, beq_iff_eq] at h
    cases k
    cases l
    exact congrArg₂ Key.mk h.1.2 h.2
  · rintro rfl
    simp [same]

theorem hashBytes_of_same (h : k.same l = true) : k.hashBytes = l.hashBytes :=
  congrArg hashBytes (same_iff.1 h)

theorem ofPair_injective : Function.Injective ofPair := by
  rintro ⟨s, v⟩ ⟨s', v'⟩ h
  cases h
  rfl

/-- Texts with the same bytes one after the other have one checksum. -/
theorem checksum_congr
    (h : Text.utf8 k.subject ++ Text.utf8 k.version = Text.utf8 l.subject ++ Text.utf8 l.version) :
    k.checksum = l.checksum := by
  rw [checksum_eq_ofBytes, checksum_eq_ofBytes, Text.utf8_append, Text.utf8_append, h]

end Key

namespace KeySet

/-! ## Buckets -/

section Buckets

variable {n : UInt64} {k l : Key} {bs : List (UInt64 × List Key)}

theorem mem_lookup_iff (hsingle : (bs.map Prod.fst).Nodup) :
    k ∈ (bs.lookup n).getD [] ↔ ∃ b ∈ bs, b.1 = n ∧ k ∈ b.2 := by
  induction bs with
  | nil => simp
  | cons b bs ih =>
    obtain ⟨m, ks⟩ := b
    rw [List.map_cons, List.nodup_cons] at hsingle
    by_cases hm : m = n
    · subst hm
      rw [List.lookup_cons_self, Option.getD_some]
      constructor
      · exact fun hk => ⟨(m, ks), List.mem_cons_self, rfl, hk⟩
      · rintro ⟨b, hb, hbm, hk⟩
        rcases List.mem_cons.1 hb with rfl | hb
        · exact hk
        · -- a second bucket for the hash is ruled out
          exact absurd (List.mem_map.2 ⟨b, hb, hbm⟩) hsingle.1
    · rw [List.lookup_cons, beq_false_of_ne (Ne.symm hm)]
      simp [ih hsingle.2, hm]

theorem map_fst_addTo :
    (addTo n k bs).map Prod.fst =
      if n ∈ bs.map Prod.fst then bs.map Prod.fst else bs.map Prod.fst ++ [n] := by
  induction bs with
  | nil => rfl
  | cons b bs ih =>
    obtain ⟨m, ks⟩ := b
    unfold addTo
    by_cases hm : m = n
    · simp [hm]
    · rw [if_neg hm, List.map_cons, ih]
      split_ifs <;> simp_all [Ne.symm hm]

theorem nodup_addTo (h : (bs.map Prod.fst).Nodup) : ((addTo n k bs).map Prod.fst).Nodup := by
  rw [map_fst_addTo]
  split_ifs with hn
  · exact h
  · exact List.nodup_append.2 ⟨h, List.nodup_singleton n, by
      rintro m hm m' hm' rfl
      exact hn (List.mem_singleton.1 hm' ▸ hm)⟩

/-- One key more, and no other change. -/
theorem perm_addTo :
    ((addTo n k bs).flatMap Prod.snd).Perm (k :: bs.flatMap Prod.snd) := by
  induction bs with
  | nil => exact List.Perm.refl _
  | cons b bs ih =>
    obtain ⟨m, ks⟩ := b
    unfold addTo
    split_ifs
    · simp only [List.flatMap_cons, List.append_assoc, List.singleton_append]
      exact List.perm_middle
    · simp only [List.flatMap_cons]
      exact (ih.append_left ks).trans List.perm_middle

theorem of_mem_addTo {b : UInt64 × List Key} (hb : b ∈ addTo n k bs) (hl : l ∈ b.2) :
    (b.1 = n ∧ l = k) ∨ ∃ b' ∈ bs, b'.1 = b.1 ∧ l ∈ b'.2 := by
  induction bs with
  | nil =>
    rw [List.mem_singleton.1 hb] at hl ⊢
    exact .inl ⟨rfl, List.mem_singleton.1 hl⟩
  | cons c bs ih =>
    obtain ⟨m, ks⟩ := c
    unfold addTo at hb
    split_ifs at hb with hm
    · rcases List.mem_cons.1 hb with rfl | hb
      · rcases List.mem_append.1 hl with hl | hl
        · exact .inr ⟨(m, ks), List.mem_cons_self, rfl, hl⟩
        · exact .inl ⟨hm, List.mem_singleton.1 hl⟩
      · exact .inr ⟨b, List.mem_cons_of_mem _ hb, rfl, hl⟩
    · rcases List.mem_cons.1 hb with rfl | hb
      · exact .inr ⟨(m, ks), List.mem_cons_self, rfl, hl⟩
      · rcases ih hb with h | ⟨b', hb', h⟩
        · exact .inl h
        · exact .inr ⟨b', List.mem_cons_of_mem _ hb', h⟩

end Buckets

/-! ## Sets -/

def keys (s : KeySet) : List Key := s.buckets.flatMap Prod.snd

/-- Every key of a set is in the one bucket for its hash, and there is no second copy of it. -/
structure Sound (s : KeySet) : Prop where
  placed : ∀ b ∈ s.buckets, ∀ k ∈ b.2, s.place k = b.1
  single : (s.buckets.map Prod.fst).Nodup
  nodup : s.keys.Nodup

variable {s : KeySet} {k l : Key}

theorem sound_withHash (hash : List UInt8 → UInt64) : (withHash hash).Sound where
  placed := nofun
  single := List.nodup_nil
  nodup := List.nodup_nil

theorem size_eq (s : KeySet) : s.size = s.keys.length := by
  have hcount : ∀ (bs : List (UInt64 × List Key)) (n : Nat),
      bs.foldl (fun n b => n + b.2.length) n = n + (bs.flatMap Prod.snd).length := by
    intro bs
    induction bs with
    | nil => simp
    | cons b bs ih =>
      intro n
      rw [List.foldl_cons, ih, List.flatMap_cons, List.length_append]
      omega
  unfold size keys
  rw [hcount, Nat.zero_add]

/-- A key is found by its hash first, and by comparison then. -/
theorem Sound.contains_iff (h : s.Sound) : s.contains k = true ↔ k ∈ s.keys := by
  simp only [contains, List.any_eq_true, Key.same_iff, exists_eq_right']
  rw [bucket, mem_lookup_iff h.single, keys, List.mem_flatMap]
  constructor
  · rintro ⟨b, hb, -, hk⟩
    exact ⟨b, hb, hk⟩
  · rintro ⟨b, hb, hk⟩
    exact ⟨b, hb, (h.placed b hb k hk).symm, hk⟩

theorem fst_insert (h : s.Sound) : (s.insert k).1 = decide (k ∉ s.keys) := by
  have hfound := h.contains_iff (k := k)
  unfold insert
  split_ifs with hk
  · simp [hfound.1 hk]
  · simp [mt hfound.2 hk]

theorem keys_insert (h : s.Sound) :
    (s.insert k).2.keys.Perm (if k ∈ s.keys then s.keys else k :: s.keys) := by
  unfold insert
  split_ifs with hfound hk hk
  · exact List.Perm.refl _
  · exact absurd (h.contains_iff.1 hfound) hk
  · exact absurd (h.contains_iff.2 hk) hfound
  · exact perm_addTo

theorem Sound.insert (h : s.Sound) (k : Key) : (s.insert k).2.Sound where
  placed := by
    unfold KeySet.insert
    split_ifs
    · exact h.placed
    · intro b hb l hl
      rcases of_mem_addTo hb hl with ⟨hn, rfl⟩ | ⟨b', hb', heq, hl'⟩
      · exact hn.symm
      · exact (h.placed b' hb' l hl').trans heq
  single := by
    unfold KeySet.insert
    split_ifs
    · exact h.single
    · exact nodup_addTo h.single
  nodup := by
    rw [(keys_insert h).nodup_iff]
    split_ifs with hk
    · exact h.nodup
    · exact List.nodup_cons.2 ⟨hk, h.nodup⟩

theorem Sound.mem_keys_insert (h : s.Sound) : l ∈ (s.insert k).2.keys ↔ l = k ∨ l ∈ s.keys := by
  rw [(keys_insert h).mem_iff]
  split_ifs with hk
  · exact ⟨.inr, fun hl => hl.elim (fun heq => heq ▸ hk) id⟩
  · exact List.mem_cons

/-! ## Many keys -/

/-- Adds keys one after the other; the answers tell which of them were new. -/
def insertAll (s : KeySet) : List Key → List Bool × KeySet
  | [] => ([], s)
  | k :: ks =>
    let (isNew, s) := s.insert k
    let (rest, s) := s.insertAll ks
    (isNew :: rest, s)

theorem Sound.insertAll (h : s.Sound) (ks : List Key) : (s.insertAll ks).2.Sound := by
  induction ks generalizing s with
  | nil => exact h
  | cons k ks ih => exact ih (h.insert k)

theorem mem_keys_insertAll (h : s.Sound) (ks : List Key) :
    l ∈ (s.insertAll ks).2.keys ↔ l ∈ s.keys ∨ l ∈ ks := by
  induction ks generalizing s with
  | nil => simp [KeySet.insertAll]
  | cons k ks ih =>
    show l ∈ ((s.insert k).2.insertAll ks).2.keys ↔ _
    rw [ih (h.insert k), h.mem_keys_insert, List.mem_cons, or_assoc, or_left_comm]

/-- A key is new if it is neither in the set nor among the keys before it. -/
theorem getElem?_insertAll (h : s.Sound) (ks : List Key) (i : Nat) :
    (s.insertAll ks).1[i]? = ks[i]?.map fun k => decide (k ∉ s.keys ∧ k ∉ ks.take i) := by
  induction ks generalizing s i with
  | nil => rfl
  | cons k ks ih =>
    cases i with
    | zero => simp [KeySet.insertAll, fst_insert h]
    | succ i =>
      show ((s.insert k).2.insertAll ks).1[i]? = ks[i]?.map _
      rw [ih (h.insert k)]
      congr 1
      funext l
      simp only [h.mem_keys_insert, List.take_succ_cons, List.mem_cons, not_or, decide_eq_decide]
      tauto

/-! ## Sets of pairs -/

/-- Pairs are added to an empty set one after the other. -/
def ofPairs (hash : List UInt8 → UInt64) (pairs : List (String × String)) : List Bool × KeySet :=
  (withHash hash).insertAll (pairs.map Key.ofPair)

section

variable (hash : List UInt8 → UInt64) (pairs : List (String × String))

theorem sound_ofPairs : (ofPairs hash pairs).2.Sound := (sound_withHash hash).insertAll _

theorem mem_keys_ofPairs : k ∈ (ofPairs hash pairs).2.keys ↔ k ∈ pairs.map Key.ofPair := by
  unfold ofPairs
  rw [mem_keys_insertAll (sound_withHash hash)]
  exact or_iff_right List.not_mem_nil

theorem getElem?_ofPairs (i : Nat) :
    (ofPairs hash pairs).1[i]? = pairs[i]?.map fun p => decide (p ∉ pairs.take i) := by
  have hnil : ∀ k : Key, k ∉ (withHash hash).keys := fun k => List.not_mem_nil
  unfold ofPairs
  rw [getElem?_insertAll (sound_withHash hash), List.getElem?_map, Option.map_map]
  congr 1
  funext p
  simp [hnil, ← List.map_take, List.mem_map_of_injective Key.ofPair_injective]

theorem size_ofPairs : (ofPairs hash pairs).2.size = pairs.dedup.length := by
  have hperm : (ofPairs hash pairs).2.keys.Perm (pairs.map Key.ofPair).dedup := by
    refine (List.perm_ext_iff_of_nodup (sound_ofPairs hash pairs).nodup (List.nodup_dedup _)).2 ?_
    intro k
    rw [mem_keys_ofPairs, List.mem_dedup]
  rw [size_eq, hperm.length_eq, List.dedup_map_of_injective Key.ofPair_injective, List.length_map]

end

/-- **A set of keys is a set of pairs.** Whatever hash places the keys, and in whatever order pairs
are added: a pair is new exactly if it was not added before, there are as many keys as there are
pairs, and exactly these pairs are found. Comparing keys is comparing their pairs, and keys that are
the same are placed by the same bytes. All this although the checksum is that of the whole text, so
that pairs with the same bytes one after the other have one checksum and are placed alike. -/
theorem identifies_pairs (hash : List UInt8 → UInt64) (pairs : List (String × String)) :
    (∀ i : Nat, (ofPairs hash pairs).1[i]? = pairs[i]?.map fun p => decide (p ∉ pairs.take i)) ∧
    (ofPairs hash pairs).2.size = pairs.dedup.length ∧
    (∀ p, (ofPairs hash pairs).2.contains (.ofPair p) = true ↔ p ∈ pairs) ∧
    (∀ p q, (Key.ofPair p).same (.ofPair q) = true ↔ p = q) ∧
    (∀ p q, (Key.ofPair p).isFor q.1 q.2 = true ↔ p = q) ∧
    (∀ k l : Key, k.same l = true → k.hashBytes = l.hashBytes) ∧
    (∀ p, (Key.ofPair p).checksum = Checksum.ofBytes (Text.utf8 (p.1 ++ p.2))) ∧
    ∀ p q, Text.utf8 p.1 ++ Text.utf8 p.2 = Text.utf8 q.1 ++ Text.utf8 q.2 →
      (Key.ofPair p).checksum = (Key.ofPair q).checksum ∧
        (Key.ofPair p).hashBytes = (Key.ofPair q).hashBytes := by
  have hinj : ∀ p q, Key.ofPair p = Key.ofPair q ↔ p = q := fun p q =>
    Key.ofPair_injective.eq_iff
  refine ⟨getElem?_ofPairs hash pairs, size_ofPairs hash pairs, ?_, ?_, ?_,
    fun k l => Key.hashBytes_of_same, fun p => Key.checksum_eq_ofBytes _, ?_⟩
  · intro p
    rw [(sound_ofPairs hash pairs).contains_iff, mem_keys_ofPairs,
      List.mem_map_of_injective Key.ofPair_injective]
  · intro p q
    rw [Key.same_iff, hinj]
  · intro p q
    rw [Key.isFor_iff]
    exact hinj p q
  · intro p q h
    have hsum : (Key.ofPair p).checksum = (Key.ofPair q).checksum := Key.checksum_congr h
    refine ⟨hsum, ?_⟩
    unfold Key.hashBytes
    rw [hsum]

/-- Two pairs that are one text when written together. -/
example :
    (ofPairs empty.hash [("orders", "13"), ("orders1", "3"), ("orders", "13")]).1 =
      [true, true, false] := by
  decide +kernel

end KeySet

end SchemaCatalog
