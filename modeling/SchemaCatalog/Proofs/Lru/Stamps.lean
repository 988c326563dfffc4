import SchemaCatalog.Proofs.Lru.Calls
import Mathlib.Data.List.AList
import Mathlib.Data.List.MinMax

/-!
# The least recently touched entry goes first

A cache keeps its entries in the order in which they were touched. Here the order is forgotten and
each entry carries the number of the step that touched it last.

* `StampedMap`: a map with stamps. `StampedMap.step`: what a call does to it.
* `Lru.Mirrors`: the entries of a cache are those of a map, sorted by their stamps.
* `Lru.Mirrors.step`: a call is answered alike, and the relation is kept.
* **`Lru.answers_stamped`**: a cache answers as the map does.
-/

namespace SchemaCatalog

open Lru (Call Reply)

/-! ## Maps with stamps -/

/-- A map whose entries carry the number of the step that touched them last. The order of its list
is of no consequence. -/
structure StampedMap (κ α : Type) where
  capacity : Nat
  entries : AList fun _ : κ => α × Nat
  steps : Nat

namespace StampedMap

variable {κ α : Type}

/-- An empty map with room for one entry at least. -/
def empty (capacity : Nat) : StampedMap κ α := ⟨max capacity 1, ∅, 0⟩

/-- The key with the smallest stamp. -/
def oldest? (m : StampedMap κ α) : Option κ :=
  (m.entries.entries.argmin fun e => e.2.2).map Sigma.fst

variable [DecidableEq κ]

/-- The entries without the oldest one. -/
def withoutOldest (m : StampedMap κ α) : AList fun _ : κ => α × Nat :=
  match m.oldest? with
  | some k => m.entries.erase k
  | none => m.entries

/-- Sets the value and the stamp of `k`. If `k` is new and the map is full, the oldest entry goes
first. -/
def put (m : StampedMap κ α) (k : κ) (a : α) : AList fun _ : κ => α × Nat :=
  if k ∈ m.entries then m.entries.replace k (a, m.steps)
  else if m.entries.keys.length = m.capacity then m.withoutOldest.insert k (a, m.steps)
  else m.entries.insert k (a, m.steps)

/-- The answer to a call, and the entries after it. -/
def serve (m : StampedMap κ α) : Call κ α → Reply α × AList fun _ : κ => α × Nat
  | .get k =>
    match m.entries.lookup k with
    | some (a, _) => (.value (some a), m.entries.replace k (a, m.steps))
    | none => (.value none, m.entries)
  | .insert k a => (.done, m.put k a)
  | .remove k => (.value ((m.entries.lookup k).map Prod.fst), m.entries.erase k)
  | .contains k => (.found (m.entries.lookup k).isSome, m.entries)
  | .size => (.count m.entries.keys.length, m.entries)

def step (m : StampedMap κ α) (call : Call κ α) : Reply α × StampedMap κ α :=
  ((m.serve call).1, { m with entries := (m.serve call).2, steps := m.steps + 1 })

def answers (capacity : Nat) (calls : List (Call κ α)) : List (Reply α) :=
  Lru.answersOf step (empty capacity) calls

def after (capacity : Nat) (calls : List (Call κ α)) : StampedMap κ α :=
  Lru.stateAfter step (empty capacity) calls

end StampedMap

namespace Lru

variable {κ α : Type}

/-! ## The cache and the map -/

/-- An entry without its stamp. -/
def bare (e : Σ _ : κ, α × Nat) : κ × α := (e.1, e.2.1)

/-- The entries of the cache are those of the map, sorted by their stamps. -/
structure Mirrors (l : List (Σ _ : κ, α × Nat)) (c : Lru κ α) (m : StampedMap κ α) : Prop where
  capacity : m.capacity = c.capacity
  entries : c.entries = l.map bare
  perm : l.Perm m.entries.entries
  sorted : l.Pairwise fun e f => f.2.2 < e.2.2
  past : ∀ e ∈ l, e.2.2 < m.steps

section

variable {l : List (Σ _ : κ, α × Nat)} {c : Lru κ α} {m : StampedMap κ α} {a : α}

theorem mirrors_empty (capacity : Nat) :
    Mirrors [] (empty capacity : Lru κ α) (StampedMap.empty capacity) where
  capacity := rfl
  entries := rfl
  perm := List.Perm.refl []
  sorted := List.Pairwise.nil
  past := nofun

namespace Mirrors

theorem nodupKeys (h : Mirrors l c m) : l.NodupKeys :=
  (List.perm_nodupKeys h.perm).2 m.entries.nodupKeys

theorem size (h : Mirrors l c m) : m.entries.keys.length = c.size := by
  rw [AList.keys, List.keys, List.length_map, ← h.perm.length_eq, Lru.size, h.entries,
    List.length_map]

theorem touch {entries : AList fun _ : κ => α × Nat} {l' : List (Σ _ : κ, α × Nat)}
    (h : Mirrors l c m) (hl : l'.Sublist l) (k : κ) (a : α)
    (hperm : (⟨k, (a, m.steps)⟩ :: l').Perm entries.entries) :
    Mirrors (⟨k, (a, m.steps)⟩ :: l') { c with entries := (k, a) :: l'.map bare }
      { m with entries := entries, steps := m.steps + 1 } where
  capacity := h.capacity
  entries := rfl
  perm := hperm
  sorted := List.pairwise_cons.2 ⟨fun e he => h.past e (hl.subset he), h.sorted.sublist hl⟩
  past := by
    intro e he
    obtain rfl | he := List.mem_cons.1 he
    · exact Nat.lt_succ_self m.steps
    · exact Nat.lt_succ_of_lt (h.past e (hl.subset he))

theorem drop {l' : List (Σ _ : κ, α × Nat)} (h : Mirrors l c m)
    (entries : AList fun _ : κ => α × Nat) (hl : l'.Sublist l) (hperm : l'.Perm entries.entries) :
    Mirrors l' { c with entries := l'.map bare }
      { m with entries := entries, steps := m.steps + 1 } where
  capacity := h.capacity
  entries := rfl
  perm := hperm
  sorted := h.sorted.sublist hl
  past := fun e he => Nat.lt_succ_of_lt (h.past e (hl.subset he))

theorem rest (h : Mirrors l c m) :
    Mirrors l c { m with steps := m.steps + 1 } := by
  have hdrop := h.drop m.entries (List.Sublist.refl l) h.perm
  rwa [← h.entries] at hdrop

/-- The oldest entry is the last one. -/
theorem oldest? {e : Σ _ : κ, α × Nat} {l : List (Σ _ : κ, α × Nat)}
    (h : Mirrors (l ++ [e]) c m) : m.oldest? = some e.1 := by
  unfold StampedMap.oldest?
  cases hmin : m.entries.entries.argmin fun e => e.2.2 with
  | none =>
    rw [List.argmin_eq_none] at hmin
    have hperm := h.perm
    rw [hmin] at hperm
    simpa using hperm.length_eq
  | some f =>
    have hf : f ∈ l ++ [e] := h.perm.mem_iff.2 (List.argmin_mem hmin)
    have he : e ∈ m.entries.entries := h.perm.mem_iff.1 (by simp)
    have hle : f.2.2 ≤ e.2.2 :=
      List.le_of_mem_argmin (f := fun e : Σ _ : κ, α × Nat => e.2.2) he hmin
    obtain hf | hf := List.mem_append.1 hf
    · have hlt : e.2.2 < f.2.2 := (List.pairwise_append.1 h.sorted).2.2 f hf e (by simp)
      omega
    · rw [List.mem_singleton.1 hf, Option.map_some]

end Mirrors

end

/-! ## Entries with stamps -/

section

variable [DecidableEq κ] {k : κ} {l : List (Σ _ : κ, α × Nat)} {c : Lru κ α}
  {m : StampedMap κ α} {a : α}

theorem find?_bare (k : κ) (l : List (Σ _ : κ, α × Nat)) :
    find? k (l.map bare) = (l.dlookup k).map Prod.fst := by
  induction l with
  | nil => rfl
  | cons e l ih =>
    obtain ⟨k', a, n⟩ := e
    by_cases h : k' = k
    · subst h
      rw [List.map_cons, List.dlookup_cons_eq]
      exact find?_cons_self k' a _
    · rw [List.map_cons, find?_cons_of_ne (by exact h), ih, List.dlookup_cons_ne _ _ (Ne.symm h)]

theorem without_bare (hl : l.NodupKeys) :
    without k (l.map bare) = (l.kerase k).map bare := by
  induction l with
  | nil => rfl
  | cons e l ih =>
    obtain ⟨k', a, n⟩ := e
    rw [List.nodupKeys_cons] at hl
    by_cases h : k' = k
    · subst h
      have hnone : find? k' (l.map bare) = none := by
        rw [find?_bare, List.dlookup_eq_none.2 hl.1, Option.map_none]
      rw [List.kerase_cons_eq (by rfl), List.map_cons, ← without_of_find? hnone]
      simp [without, bare]
    · rw [List.kerase_cons_ne (Ne.symm h), List.map_cons, List.map_cons, ← ih hl.2]
      simp [without, bare, h]

theorem kreplace_perm {v : α × Nat} (hk : k ∈ l.keys) :
    (l.kreplace k v).Perm (⟨k, v⟩ :: l.kerase k) := by
  induction l with
  | nil => cases hk
  | cons e l ih =>
    by_cases h : k = e.1
    · have hreplace : (e :: l).kreplace k v = ⟨k, v⟩ :: l :=
        List.lookmap_cons_some _ _ (by simp [h])
      rw [hreplace, List.kerase_cons_eq h]
    · have hreplace : (e :: l).kreplace k v = e :: l.kreplace k v :=
        List.lookmap_cons_none _ _ (by simp [h])
      have hmem : k ∈ l.keys := (List.mem_cons.1 hk).resolve_left h
      rw [hreplace, List.kerase_cons_ne h]
      exact ((ih hmem).cons e).trans (List.Perm.swap _ _ _)

namespace Mirrors

theorem lookup (h : Mirrors l c m) (k : κ) :
    m.entries.lookup k = l.dlookup k :=
  (List.perm_dlookup k h.nodupKeys h.perm).symm

theorem find? (h : Mirrors l c m) (k : κ) :
    Lru.find? k c.entries = (m.entries.lookup k).map Prod.fst := by
  rw [h.entries, find?_bare, h.lookup]

theorem without (h : Mirrors l c m) (k : κ) :
    Lru.without k c.entries = (l.kerase k).map bare := by
  rw [h.entries, without_bare h.nodupKeys]

theorem perm_replace (h : Mirrors l c m) (hk : k ∈ m.entries) (v : α × Nat) :
    (⟨k, v⟩ :: l.kerase k).Perm (m.entries.replace k v).entries := by
  have hmem : k ∈ l.keys := by
    rw [← List.dlookup_isSome, ← h.lookup, AList.lookup_isSome]
    exact hk
  exact (kreplace_perm hmem).symm.trans (h.perm.kreplace h.nodupKeys)

/-! ## Calls -/

theorem withoutOldest_perm {e : Σ _ : κ, α × Nat} {l : List (Σ _ : κ, α × Nat)}
    (h : Mirrors (l ++ [e]) c m) : l.Perm m.withoutOldest.entries := by
  have hkey : e.1 ∉ l.keys := by
    have hnodup := h.nodupKeys
    rw [List.NodupKeys, List.keys_append] at hnodup
    intro hmem
    exact List.disjoint_of_nodup_append hnodup hmem (by simp)
  have herase : (l ++ [e]).kerase e.1 = l := by
    rw [List.kerase_append_right hkey, List.kerase_cons_eq rfl, List.append_nil]
  rw [StampedMap.withoutOldest, h.oldest?, ← herase]
  exact h.perm.kerase h.nodupKeys

theorem notMem_withoutOldest (hk : k ∉ m.entries) : k ∉ m.withoutOldest := by
  unfold StampedMap.withoutOldest
  split
  · exact fun h => hk (AList.mem_erase.1 h).2
  · exact hk

theorem insert (h : Mirrors l c m) (hc : c.Sound) (k : κ) (a : α) :
    ∃ l', Mirrors l' (c.insert k a) { m with entries := m.put k a, steps := m.steps + 1 } := by
  have hmem : k ∈ m.entries ↔ (Lru.find? k c.entries).isSome := by
    rw [h.find?, Option.isSome_map, AList.lookup_isSome]
  unfold StampedMap.put
  split_ifs with hk hfull
  · -- The key is there, so that nothing has to go.
    obtain ⟨b, hb⟩ := Option.isSome_iff_exists.1 (hmem.1 hk)
    rw [insert_of_room (room_of_some hc hb), h.without]
    exact ⟨_, h.touch (List.kerase_sublist k l) k a (h.perm_replace hk _)⟩
  · have hnone : Lru.find? k c.entries = none := by simpa using mt hmem.2 hk
    rw [h.size, h.capacity] at hfull
    obtain rfl | ⟨l, e, rfl⟩ := l.eq_nil_or_concat
    · have hzero := h.entries
      have hpos := hc.pos
      rw [← hfull, Lru.size, hzero] at hpos
      cases hpos
    · rw [List.concat_eq_append] at h
      have hcut : c.insert k a = { c with entries := (k, a) :: l.map bare } := by
        rw [insert_of_full hc hnone hfull, h.entries, List.map_append, List.map_singleton,
          List.dropLast_concat]
      rw [hcut]
      refine ⟨_, h.touch (List.sublist_append_left l [e]) k a ?_⟩
      rw [AList.entries_insert_of_notMem (notMem_withoutOldest hk)]
      exact h.withoutOldest_perm.cons _
  · have hnone : Lru.find? k c.entries = none := by simpa using mt hmem.2 hk
    rw [h.size, h.capacity] at hfull
    rw [insert_of_room (room_of_none hc hnone hfull), without_of_find? hnone, h.entries]
    refine ⟨_, h.touch (List.Sublist.refl l) k a ?_⟩
    rw [AList.entries_insert_of_notMem hk]
    exact h.perm.cons _

/-- A call is answered alike, and the relation is kept. -/
theorem step (h : Mirrors l c m) (hc : c.Sound) (call : Call κ α) :
    (c.step call).1 = (m.step call).1 ∧ ∃ l', Mirrors l' (c.step call).2 (m.step call).2 := by
  cases call with
  | get k =>
    have hfind := h.find? k
    rw [Lru.step, StampedMap.step, StampedMap.serve]
    cases hk : m.entries.lookup k with
    | none =>
      rw [hk] at hfind
      rw [get_of_none hfind]
      exact ⟨rfl, l, h.rest⟩
    | some v =>
      rw [hk] at hfind
      have hmem : k ∈ m.entries := AList.lookup_isSome.1 (Option.isSome_of_eq_some hk)
      rw [get_of_some hfind, h.without]
      exact ⟨rfl, _, h.touch (List.kerase_sublist k l) k v.1 (h.perm_replace hmem _)⟩
  | insert k a => exact ⟨rfl, h.insert hc k a⟩
  | remove k =>
    refine ⟨congrArg Reply.value (h.find? k), l.kerase k, ?_⟩
    have hdrop := h.drop (m.entries.erase k) (List.kerase_sublist k l)
      (h.perm.kerase h.nodupKeys)
    rwa [← h.without] at hdrop
  | contains k =>
    refine ⟨congrArg Reply.found ?_, l, h.rest⟩
    rw [Lru.contains, h.find?, Option.isSome_map]
  | size => exact ⟨congrArg Reply.count h.size.symm, l, h.rest⟩

end Mirrors

end

variable [DecidableEq κ]

theorem mirrors_after (capacity : Nat) (calls : List (Call κ α)) :
    answers capacity calls = StampedMap.answers capacity calls ∧
      ∃ l, Mirrors l (after capacity calls) (StampedMap.after capacity calls) := by
  have hempty : (empty capacity : Lru κ α).Sound ∧
      ∃ l, Mirrors l (empty capacity : Lru κ α) (StampedMap.empty capacity) :=
    ⟨sound_empty capacity, [], mirrors_empty capacity⟩
  obtain ⟨hanswers, -, hend⟩ := simulates
    (R := fun (c : Lru κ α) m => c.Sound ∧ ∃ l, Mirrors l c m) (P := Eq)
    (fun c m call ⟨hc, l, h⟩ => ⟨(h.step hc call).1, hc.step call, (h.step hc call).2⟩) hempty calls
  exact ⟨List.forall₂_eq_eq_eq ▸ hanswers, hend⟩

/-! ## Values -/

/-- The value of `k` after a call that is told of every insertion and removal. -/
def Call.written (k : κ) (known : Option α) : Call κ α → Option α
  | .insert k' a => if k' = k then some a else known
  | .remove k' => if k' = k then none else known
  | .get _ | .contains _ | .size => known

/-- The value last inserted under `k`, unless `k` was removed since then. -/
def lastWritten (k : κ) (calls : List (Call κ α)) : Option α :=
  calls.foldl (Call.written k) none

theorem lastWritten_concat (k : κ) (calls : List (Call κ α)) (call : Call κ α) :
    lastWritten k (calls ++ [call]) = call.written k (lastWritten k calls) := by
  rw [lastWritten, List.foldl_append]
  rfl

theorem written_of_find? {c : Lru κ α} {known : Option α} (hc : c.Sound) (call : Call κ α)
    (h : ∀ a, find? k c.entries = some a → known = some a) {a : α}
    (ha : find? k (c.step call).2.entries = some a) : call.written k known = some a := by
  cases call with
  | get k' =>
    rw [step, find?_get] at ha
    exact h a ha
  | insert k' b =>
    simp only [Call.written]
    split_ifs with hk
    · subst hk
      exact (find?_insert_self hc k' b).symm.trans ha
    · exact h a (find?_of_insert hc hk ha)
  | remove k' =>
    simp only [Call.written]
    split_ifs with hk
    · subst hk
      cases (find?_erase_self c k').symm.trans ha
    · exact h a ((find?_erase_of_ne hk).symm.trans ha)
  | contains k' | size => exact h a ha

theorem lastWritten_of_find? (capacity : Nat) (calls : List (Call κ α)) {k : κ} :
    ∀ a, find? k (after capacity calls).entries = some a → lastWritten k calls = some a := by
  induction calls using List.reverseRecOn with
  | nil => exact nofun
  | append_singleton calls call ih =>
    intro a ha
    rw [after_concat] at ha
    rw [lastWritten_concat]
    exact written_of_find? (sound_after capacity calls) call ih ha

/-- What becomes of a value in one call: it stays, it is overwritten or removed, or it is the oldest
one and has to go. -/
theorem find?_step {l : List (Σ _ : κ, α × Nat)} {c : Lru κ α} {m : StampedMap κ α}
    (h : Mirrors l c m) (hc : c.Sound) (call : Call κ α) {k : κ} {a : α}
    (ha : find? k c.entries = some a) :
    find? k (c.step call).2.entries = some a ∨
      (∃ b, call = .insert k b ∧ find? k (c.step call).2.entries = some b) ∨
      call = .remove k ∨
      ∃ k' b, call = .insert k' b ∧ c.contains k' = false ∧ c.size = c.capacity ∧
        m.oldest? = some k := by
  cases call with
  | get k' => exact Or.inl ((find?_get c k k').trans ha)
  | insert k' b =>
    by_cases hk : k' = k
    · subst hk
      exact Or.inr (Or.inl ⟨b, rfl, find?_insert_self hc k' b⟩)
    -- Another key is set. Only a new key in a full cache has an entry go.
    cases hnew : find? k' c.entries with
    | some b' => exact Or.inl ((find?_insert_of_room hk (room_of_some hc hnew)).trans ha)
    | none =>
      by_cases hfull : c.size = c.capacity
      · obtain rfl | ⟨l, e, rfl⟩ := l.eq_nil_or_concat
        · rw [h.entries] at ha
          cases ha
        · rw [List.concat_eq_append] at h
          by_cases he : e.1 = k
          · refine Or.inr (Or.inr (Or.inr ⟨k', b, rfl, ?_, hfull, ?_⟩))
            · exact contains_eq_false_iff.2 hnew
            · rw [h.oldest?, he]
          · have hl : c.entries = l.map bare ++ [bare e] := by
              rw [h.entries, List.map_append, List.map_singleton]
            exact Or.inl ((find?_insert_of_full hc hnew hfull hk hl he).trans ha)
      · exact Or.inl ((find?_insert_of_room hk (room_of_none hc hnew hfull)).trans ha)
  | remove k' =>
    by_cases hk : k' = k
    · subst hk
      exact Or.inr (Or.inr (Or.inl rfl))
    · exact Or.inl ((find?_erase_of_ne hk).trans ha)
  | contains k' | size => exact Or.inl ha

/-- **The least recently touched entry goes first.** A cache answers as a map whose entries carry the
number of the step that touched them last. So it never has more entries than it may, what it finds
is what was last inserted, and a value stays until it is overwritten, removed, or the oldest one of
a full cache that gets a new key. -/
theorem answers_stamped (capacity : Nat) (calls : List (Call κ α)) :
    answers capacity calls = StampedMap.answers capacity calls ∧
    (after capacity calls).size ≤ max capacity 1 ∧
    (∀ k a, ((after capacity calls).get k).1 = some a → lastWritten k calls = some a) ∧
    ∀ call k a, ((after capacity calls).get k).1 = some a →
      ((after capacity (calls ++ [call])).get k).1 = some a ∨
      (∃ b, call = .insert k b ∧ ((after capacity (calls ++ [call])).get k).1 = some b) ∨
      call = .remove k ∨
      ∃ k' b, call = .insert k' b ∧ (after capacity calls).contains k' = false ∧
        (after capacity calls).size = max capacity 1 ∧
        (StampedMap.after capacity calls).oldest? = some k := by
  obtain ⟨hanswers, l, hend⟩ := mirrors_after capacity calls
  have hsound := sound_after capacity calls
  have hcapacity := capacity_after capacity calls
  refine ⟨hanswers, hcapacity ▸ hsound.fits, ?_, ?_⟩
  · intro k a ha
    rw [fst_get] at ha
    exact lastWritten_of_find? capacity calls a ha
  · intro call k a ha
    rw [fst_get] at ha
    rw [after_concat, fst_get, ← hcapacity]
    exact find?_step hend hsound call ha

/-- Of three keys in a cache for two, the one that was looked up since stays. -/
example : answers 2 [.insert 1 'a', .insert 2 'b', .get 1, .insert 3 'c', .get 2, .get 1] =
    [.done, .done, .value (some 'a'), .done, .value none, .value (some 'a')] := by
  decide

end Lru

end SchemaCatalog
