import SchemaCatalog.Lru
import Mathlib.Data.List.Nodup
import Mathlib.Data.List.Induction

/-!
# A cache in use

* `Lru.Call`, `Lru.Reply`: what can be asked of a cache, and what it answers.
* `Lru.answersOf`, `Lru.stateAfter`: a list of calls, for any system that serves one call after the
  other. `Lru.simulates`: a relation that every call keeps relates two systems for good.
* `Lru.answers`, `Lru.after`: the same for a new cache.
* `Lru.mem_of_mem_get`, `Lru.mem_of_mem_insert`: touching an entry brings nothing new, and setting
  an entry brings that entry only.
* `Lru.find?_get`, `Lru.find?_insert_self`, `Lru.find?_of_insert`, `Lru.find?_erase_of_ne`: what a
  call does to the values.
* `Lru.Sound`: no key has two entries, and no more entries are kept than the capacity allows.
-/

namespace SchemaCatalog.Lru

/-- What can be asked of a cache. -/
inductive Call (κ α : Type)
  | get (k : κ)
  | insert (k : κ) (a : α)
  | remove (k : κ)
  | contains (k : κ)
  | size

/-- What a cache answers: the value of a key that is looked up or removed, whether a key has an
entry, the number of entries, or nothing. -/
inductive Reply (α : Type)
  | value (a : Option α)
  | found (b : Bool)
  | count (n : Nat)
  | done
  deriving DecidableEq, Repr

variable {κ α : Type}

/-! ## Lists of calls -/

section

variable {σ τ : Type} {f : σ → Call κ α → Reply α × σ} {g : τ → Call κ α → Reply α × τ}

/-- The answers to a list of calls, of a system that serves one call after the other. -/
def answersOf (f : σ → Call κ α → Reply α × σ) : σ → List (Call κ α) → List (Reply α)
  | _, [] => []
  | s, call :: calls => (f s call).1 :: answersOf f (f s call).2 calls

/-- The state of a system after a list of calls. -/
def stateAfter (f : σ → Call κ α → Reply α × σ) : σ → List (Call κ α) → σ
  | s, [] => s
  | s, call :: calls => stateAfter f (f s call).2 calls

theorem stateAfter_concat (s : σ) (calls : List (Call κ α)) (call : Call κ α) :
    stateAfter f s (calls ++ [call]) = (f (stateAfter f s calls) call).2 := by
  induction calls generalizing s with
  | nil => rfl
  | cons first calls ih => exact ih (f s first).2

/-- A relation that every call keeps relates two systems for good. -/
theorem simulates {R : σ → τ → Prop} {P : Reply α → Reply α → Prop}
    (keeps : ∀ s t call, R s t → P (f s call).1 (g t call).1 ∧ R (f s call).2 (g t call).2)
    {s : σ} {t : τ} (h : R s t) (calls : List (Call κ α)) :
    List.Forall₂ P (answersOf f s calls) (answersOf g t calls) ∧
      R (stateAfter f s calls) (stateAfter g t calls) := by
  induction calls generalizing s t with
  | nil => exact ⟨.nil, h⟩
  | cons call calls ih =>
    obtain ⟨hreply, hnext⟩ := keeps s t call h
    obtain ⟨hanswers, hend⟩ := ih hnext
    exact ⟨.cons hreply hanswers, hend⟩

end

variable [DecidableEq κ]

def step (c : Lru κ α) : Call κ α → Reply α × Lru κ α
  | .get k => (.value (c.get k).1, (c.get k).2)
  | .insert k a => (.done, c.insert k a)
  | .remove k => (.value (c.erase k).1, (c.erase k).2)
  | .contains k => (.found (c.contains k), c)
  | .size => (.count c.size, c)

/-- The answers of a new cache to a list of calls. -/
def answers (capacity : Nat) (calls : List (Call κ α)) : List (Reply α) :=
  answersOf step (empty capacity) calls

def after (capacity : Nat) (calls : List (Call κ α)) : Lru κ α :=
  stateAfter step (empty capacity) calls

theorem after_concat (capacity : Nat) (calls : List (Call κ α)) (call : Call κ α) :
    after capacity (calls ++ [call]) = ((after capacity calls).step call).2 :=
  stateAfter_concat _ calls call

/-! ## Entries -/

section

variable {k k' : κ} {a : α} {e : κ × α} {l : List (κ × α)} {c : Lru κ α}

@[simp]
theorem find?_nil (k : κ) : find? k ([] : List (κ × α)) = none := rfl

@[simp]
theorem find?_cons_self (k : κ) (a : α) (l : List (κ × α)) : find? k ((k, a) :: l) = some a := by
  simp [find?]

theorem find?_cons_of_ne (h : e.1 ≠ k) : find? k (e :: l) = find? k l := by
  simp [find?, h]

theorem find?_append (k : κ) (l l' : List (κ × α)) :
    find? k (l ++ l') = (find? k l).or (find? k l') := by
  rw [find?, List.find?_append, Option.map_or]
  rfl

theorem find?_eq_none_iff : find? k l = none ↔ k ∉ l.map Prod.fst := by
  rw [find?, Option.map_eq_none_iff, List.find?_eq_none]
  constructor
  · intro h hk
    obtain ⟨e, he, rfl⟩ := List.mem_map.1 hk
    simpa using h e he
  · intro h e he hk
    exact h (List.mem_map.2 ⟨e, he, by simpa using hk⟩)

theorem mem_of_find? (h : find? k l = some a) : (k, a) ∈ l := by
  obtain ⟨e, he, rfl⟩ := Option.map_eq_some_iff.1 h
  have hk : e.1 = k := by simpa using List.find?_some he
  subst hk
  exact List.mem_of_find?_eq_some he

theorem find?_eq_some_iff (hl : (l.map Prod.fst).Nodup) : find? k l = some a ↔ (k, a) ∈ l := by
  refine ⟨mem_of_find?, fun h => ?_⟩
  induction l with
  | nil => cases h
  | cons e l ih =>
    rw [List.map_cons, List.nodup_cons] at hl
    obtain rfl | h := List.mem_cons.1 h
    · exact find?_cons_self k a l
    · have hne : e.1 ≠ k := by
        rintro rfl
        exact hl.1 (List.mem_map.2 ⟨_, h, rfl⟩)
      rw [find?_cons_of_ne hne]
      exact ih hl.2 h

theorem mem_without : e ∈ without k l ↔ e ∈ l ∧ e.1 ≠ k := by
  simp [without]

theorem without_sublist (k : κ) (l : List (κ × α)) : (without k l).Sublist l :=
  List.filter_sublist

theorem without_of_find? (h : find? k l = none) : without k l = l := by
  rw [find?_eq_none_iff] at h
  refine List.filter_eq_self.2 fun e he => ?_
  have hne : e.1 ≠ k := fun hk => h (hk ▸ List.mem_map_of_mem he)
  simpa using hne

theorem find?_without_self (k : κ) (l : List (κ × α)) : find? k (without k l) = none := by
  rw [find?_eq_none_iff]
  rintro h
  obtain ⟨e, he, rfl⟩ := List.mem_map.1 h
  exact (mem_without.1 he).2 rfl

theorem find?_without_of_ne (h : k' ≠ k) : find? k' (without k l) = find? k' l := by
  induction l with
  | nil => rfl
  | cons e l ih =>
    by_cases hk : e.1 = k
    · have hw : without k (e :: l) = without k l := by simp [without, hk]
      rw [hw, ih, find?_cons_of_ne (by rw [hk]; exact h.symm)]
    · have hw : without k (e :: l) = e :: without k l := by simp [without, hk]
      rw [hw]
      by_cases hk' : e.1 = k'
      · simp [find?, hk']
      · rw [find?_cons_of_ne hk', find?_cons_of_ne hk', ih]

theorem fst_get (c : Lru κ α) (k : κ) : (c.get k).1 = find? k c.entries := by
  unfold get
  split <;> next h => rw [h]

theorem get_of_some (h : find? k c.entries = some a) :
    c.get k = (some a, { c with entries := (k, a) :: without k c.entries }) := by
  simp only [get, h]

theorem get_of_none (h : find? k c.entries = none) : c.get k = (none, c) := by
  simp only [get, h]

theorem contains_eq_false_iff : c.contains k = false ↔ find? k c.entries = none := by
  simp [contains]

theorem mem_of_get (h : (c.get k).1 = some a) : (k, a) ∈ c.entries := by
  rw [fst_get] at h
  exact mem_of_find? h

theorem mem_of_mem_get (h : e ∈ (c.get k).2.entries) : e ∈ c.entries := by
  cases hk : find? k c.entries with
  | none => rwa [get_of_none hk] at h
  | some b =>
    rw [get_of_some hk] at h
    obtain rfl | hw := List.mem_cons.1 h
    · exact mem_of_find? hk
    · exact (mem_without.1 hw).1

theorem mem_of_mem_insert (h : e ∈ (c.insert k a).entries) : e = (k, a) ∨ e ∈ c.entries := by
  obtain rfl | hw := List.mem_cons.1 (List.mem_of_mem_take h)
  · exact Or.inl rfl
  · exact Or.inr (mem_without.1 hw).1

end

/-! ## Soundness -/

/-- No key has two entries, and no more entries are kept than the capacity allows. -/
structure Sound (c : Lru κ α) : Prop where
  nodup : (c.entries.map Prod.fst).Nodup
  fits : c.size ≤ c.capacity
  pos : 0 < c.capacity

omit [DecidableEq κ] in
theorem sound_empty (capacity : Nat) : (empty capacity : Lru κ α).Sound where
  nodup := List.nodup_nil
  fits := Nat.zero_le _
  pos := Nat.lt_of_lt_of_le Nat.zero_lt_one (Nat.le_max_right capacity 1)

theorem nodup_cons_without {l : List (κ × α)} (h : (l.map Prod.fst).Nodup) (k : κ) (a : α) :
    (((k, a) :: without k l).map Prod.fst).Nodup := by
  rw [List.map_cons, List.nodup_cons]
  exact ⟨find?_eq_none_iff.1 (find?_without_self k l), h.sublist ((without_sublist k l).map _)⟩

theorem length_without_lt {k : κ} {a : α} {l : List (κ × α)} (h : find? k l = some a) :
    (without k l).length < l.length := by
  refine List.length_filter_lt_length_iff_exists.2 ⟨(k, a), mem_of_find? h, ?_⟩
  simp

theorem Sound.get {c : Lru κ α} (h : c.Sound) (k : κ) : (c.get k).2.Sound := by
  cases hk : find? k c.entries with
  | none => rwa [get_of_none hk]
  | some a =>
    rw [get_of_some hk]
    exact ⟨nodup_cons_without h.nodup k a, Nat.le_trans (length_without_lt hk) h.fits, h.pos⟩

theorem Sound.insert {c : Lru κ α} (h : c.Sound) (k : κ) (a : α) : (c.insert k a).Sound where
  nodup := (nodup_cons_without h.nodup k a).sublist ((List.take_sublist _ _).map _)
  fits := List.length_take_le _ _
  pos := h.pos

theorem Sound.erase {c : Lru κ α} (h : c.Sound) (k : κ) : (c.erase k).2.Sound where
  nodup := h.nodup.sublist ((without_sublist k _).map _)
  fits := Nat.le_trans (without_sublist k _).length_le h.fits
  pos := h.pos

theorem Sound.step {c : Lru κ α} (h : c.Sound) (call : Call κ α) : (c.step call).2.Sound := by
  cases call with
  | get k => exact h.get k
  | insert k a => exact h.insert k a
  | remove k => exact h.erase k
  | contains k | size => exact h

theorem sound_after (capacity : Nat) (calls : List (Call κ α)) : (after capacity calls).Sound := by
  induction calls using List.reverseRecOn with
  | nil => exact sound_empty capacity
  | append_singleton calls call ih =>
    rw [after_concat]
    exact ih.step call

theorem capacity_get (c : Lru κ α) (k : κ) : (c.get k).2.capacity = c.capacity := by
  unfold get
  split <;> rfl

theorem capacity_after (capacity : Nat) (calls : List (Call κ α)) :
    (after capacity calls).capacity = max capacity 1 := by
  induction calls using List.reverseRecOn with
  | nil => rfl
  | append_singleton calls call ih =>
    rw [after_concat]
    cases call with
    | get k => exact (capacity_get _ k).trans ih
    | insert k a | remove k | contains k | size => exact ih

/-! ## Values -/

section

variable {c : Lru κ α} {k k' : κ} {a b : α}

/-- Setting a key that is there needs no room. -/
theorem room_of_some (hc : c.Sound) (hk : find? k c.entries = some b) :
    (without k c.entries).length < c.capacity :=
  Nat.lt_of_lt_of_le (length_without_lt hk) hc.fits

theorem room_of_none (hc : c.Sound) (hk : find? k c.entries = none)
    (hfull : c.size ≠ c.capacity) : (without k c.entries).length < c.capacity := by
  rw [without_of_find? hk]
  exact Nat.lt_of_le_of_ne hc.fits hfull

theorem insert_of_room (h : (without k c.entries).length < c.capacity) :
    c.insert k a = { c with entries := (k, a) :: without k c.entries } := by
  rw [insert, List.take_of_length_le]
  exact h

theorem insert_of_full (hc : c.Sound) (hk : find? k c.entries = none)
    (hfull : c.size = c.capacity) :
    c.insert k a = { c with entries := (k, a) :: c.entries.dropLast } := by
  have hpos := hc.pos
  obtain ⟨n, hn⟩ : ∃ n, c.capacity = n + 1 := ⟨c.capacity - 1, by omega⟩
  rw [insert, without_of_find? hk, hn, List.take_succ_cons, List.dropLast_eq_take, ← size, hfull,
    hn, Nat.add_sub_cancel]

/-- A look-up changes no value. -/
theorem find?_get (c : Lru κ α) (k k' : κ) :
    find? k (c.get k').2.entries = find? k c.entries := by
  cases h : find? k' c.entries with
  | none => rw [get_of_none h]
  | some b =>
    rw [get_of_some h]
    by_cases hk : k' = k
    · subst hk
      rw [find?_cons_self, h]
    · rw [find?_cons_of_ne hk, find?_without_of_ne (Ne.symm hk)]

theorem find?_insert_self (hc : c.Sound) (k : κ) (a : α) :
    find? k (c.insert k a).entries = some a := by
  have hpos := hc.pos
  obtain ⟨n, hn⟩ : ∃ n, c.capacity = n + 1 := ⟨c.capacity - 1, by omega⟩
  rw [insert, hn, List.take_succ_cons, find?_cons_self]

theorem find?_insert_of_room (hne : k' ≠ k) (h : (without k' c.entries).length < c.capacity) :
    find? k (c.insert k' b).entries = find? k c.entries := by
  rw [insert_of_room h, find?_cons_of_ne hne, find?_without_of_ne (Ne.symm hne)]

theorem find?_of_insert (hc : c.Sound) (hne : k' ≠ k)
    (h : find? k (c.insert k' b).entries = some a) : find? k c.entries = some a := by
  rw [find?_eq_some_iff hc.nodup]
  obtain heq | hmem := mem_of_mem_insert (mem_of_find? h)
  · exact absurd (congrArg Prod.fst heq).symm hne
  · exact hmem

/-- A full cache keeps all entries but the last one. -/
theorem find?_insert_of_full (hc : c.Sound) (hk : find? k' c.entries = none)
    (hfull : c.size = c.capacity) (hne : k' ≠ k) {l : List (κ × α)} {e : κ × α}
    (hl : c.entries = l ++ [e]) (he : e.1 ≠ k) :
    find? k (c.insert k' b).entries = find? k c.entries := by
  rw [insert_of_full hc hk hfull, hl, List.dropLast_concat, find?_cons_of_ne hne,
    find?_append, find?_cons_of_ne he, find?_nil, Option.or_none]

theorem find?_erase_self (c : Lru κ α) (k : κ) : find? k (c.erase k).2.entries = none :=
  find?_without_self k c.entries

theorem find?_erase_of_ne (hne : k' ≠ k) :
    find? k (c.erase k').2.entries = find? k c.entries :=
  find?_without_of_ne (Ne.symm hne)

end

end SchemaCatalog.Lru
