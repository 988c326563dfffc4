import SchemaCatalog.Proofs.Lru.Calls

/-!
# More room never loses a hit

Two caches are asked the same, and one has more room than the other. A look-up may hit in the larger
cache only, and a removal may leave the two filled unevenly, so that the recency orders need not be
cut at the same point. What stays is that the smaller cache is a part of the larger one in the same
order, and that the difference in entries is at most the difference in capacity. So a larger cache
that is full makes the smaller one full as well, and both drive out an entry.

* `Lru.take_sublist_take`: of two lists that are cut at their ends one stays a part of the other, if
  not more is cut from the longer one.
* `Lru.Within`: the relation of the two caches. `Lru.Within.step`: every call keeps it.
* `Lru.Reply.UpTo`: what is found in the one is found in the other.
* **`Lru.hits_mono`**: more room never loses a hit.
-/

namespace SchemaCatalog.Lru

/-! ## Parts of lists -/

section

variable {β : Type} {s l : List β}

theorem take_sublist_take (h : s.Sublist l) {m n : Nat} (room : l.length + m ≤ s.length + n) :
    (s.take m).Sublist (l.take n) := by
  induction h generalizing m n with
  | slnil => simp
  | @cons s l b h ih =>
    have hlen := h.length_le
    rw [List.length_cons] at room
    obtain ⟨n, rfl⟩ : ∃ n', n = n' + 1 := ⟨n - 1, by omega⟩
    rw [List.take_succ_cons]
    exact (ih (by omega)).cons b
  | @cons_cons s l b h ih =>
    have hlen := h.length_le
    rw [List.length_cons, List.length_cons] at room
    cases m with
    | zero => simp
    | succ m =>
      obtain ⟨n, rfl⟩ : ∃ n', n = n' + 1 := ⟨n - 1, by omega⟩
      rw [List.take_succ_cons, List.take_succ_cons]
      exact (ih (by omega)).cons_cons b

end

variable {κ α : Type} [DecidableEq κ]

theorem length_without_add (k : κ) (l : List (κ × α)) :
    (without k l).length + l.countP (fun e => e.1 = k) = l.length := by
  have h := List.length_eq_countP_add_countP (fun e : κ × α => e.1 = k) (l := l)
  rw [h, Nat.add_comm, without, ← List.countP_eq_length_filter]
  congr 1
  exact List.countP_congr fun e _ => by simp

/-! ## Two caches -/

/-- The smaller cache is a part of the larger one in the same order, and the difference in entries
is at most the difference in capacity. -/
structure Within (c d : Lru κ α) : Prop where
  part : c.entries.Sublist d.entries
  room : d.size + c.capacity ≤ c.size + d.capacity

variable {c d : Lru κ α} {k : κ}

theorem Within.without (h : Within c d) (k : κ) :
    (without k c.entries).Sublist (without k d.entries) ∧
      (without k d.entries).length + c.capacity ≤ (without k c.entries).length + d.capacity := by
  have hc := length_without_add k c.entries
  have hd := length_without_add k d.entries
  have hcount : c.entries.countP (fun e => e.1 = k) ≤ d.entries.countP (fun e => e.1 = k) :=
    h.part.countP_le
  have hroom := h.room
  rw [size, size] at hroom
  exact ⟨h.part.filter _, by omega⟩

theorem Within.find? {a : α} (h : Within c d) (hd : d.Sound) (ha : find? k c.entries = some a) :
    Lru.find? k d.entries = some a :=
  (find?_eq_some_iff hd.nodup).2 (h.part.subset (mem_of_find? ha))

/-- A look-up that hits in the larger cache only moves an entry that the smaller one has not. -/
theorem Within.get (h : Within c d) (hd : d.Sound) (k : κ) :
    Within (c.get k).2 (d.get k).2 := by
  obtain ⟨hpart, hroom⟩ := h.without k
  cases hc : Lru.find? k c.entries with
  | some a =>
    rw [get_of_some hc, get_of_some (h.find? hd hc)]
    refine ⟨hpart.cons_cons (k, a), ?_⟩
    simp only [size, List.length_cons]
    omega
  | none =>
    rw [get_of_none hc]
    cases hb : Lru.find? k d.entries with
    | none => rwa [get_of_none hb]
    | some b =>
      rw [get_of_some hb]
      rw [without_of_find? hc] at hpart
      have hlt := length_without_lt hb
      have hold := h.room
      refine ⟨hpart.cons (k, b), ?_⟩
      simp only [size, List.length_cons] at hold ⊢
      omega

/-- If the larger cache drives an entry out, so does the smaller one. -/
theorem Within.insert (h : Within c d) (k : κ) (a : α) :
    Within (c.insert k a) (d.insert k a) := by
  obtain ⟨hpart, hroom⟩ := h.without k
  refine ⟨take_sublist_take (hpart.cons_cons (k, a)) ?_, ?_⟩
  · rw [List.length_cons, List.length_cons]
    omega
  · simp only [size, Lru.insert, List.length_take, List.length_cons]
    omega

theorem Within.erase (h : Within c d) (k : κ) : Within (c.erase k).2 (d.erase k).2 := by
  obtain ⟨hpart, hroom⟩ := h.without k
  exact ⟨hpart, hroom⟩

/-! ## Answers -/

/-- What the one answer finds, the other finds as well. -/
def Reply.UpTo (r s : Reply α) : Prop :=
  (∀ a, r = .value (some a) → s = .value (some a)) ∧ (r = .found true → s = .found true)

theorem Within.contains (h : Within c d) (hd : d.Sound) (hk : c.contains k = true) :
    d.contains k = true := by
  obtain ⟨a, ha⟩ := Option.isSome_iff_exists.1 hk
  exact Option.isSome_of_eq_some (h.find? hd ha)

theorem Within.upTo (h : Within c d) (hd : d.Sound) (call : Call κ α) :
    (c.step call).1.UpTo (d.step call).1 := by
  cases call with
  | get k =>
    refine ⟨fun a ha => ?_, nofun⟩
    rw [Lru.step, fst_get, Reply.value.injEq] at ha ⊢
    exact h.find? hd ha
  | insert k a => exact ⟨nofun, nofun⟩
  | remove k =>
    refine ⟨fun a ha => ?_, nofun⟩
    rw [Lru.step, Lru.erase, Reply.value.injEq] at ha ⊢
    exact h.find? hd ha
  | contains k =>
    refine ⟨nofun, fun ha => ?_⟩
    rw [Lru.step, Reply.found.injEq] at ha ⊢
    exact h.contains hd ha
  | size => exact ⟨nofun, nofun⟩

theorem Within.step (h : Within c d) (hd : d.Sound) (call : Call κ α) :
    (c.step call).1.UpTo (d.step call).1 ∧ Within (c.step call).2 (d.step call).2 := by
  refine ⟨h.upTo hd call, ?_⟩
  cases call with
  | get k => exact h.get hd k
  | insert k a => exact h.insert k a
  | remove k => exact h.erase k
  | contains k | size => exact h

omit [DecidableEq κ] in
theorem within_empty {capacity larger : Nat} (h : capacity ≤ larger) :
    Within (empty capacity : Lru κ α) (empty larger) := by
  refine ⟨List.Sublist.refl [], ?_⟩
  simp only [empty, size]
  omega

theorem within_after {capacity larger : Nat} (h : capacity ≤ larger) (calls : List (Call κ α)) :
    List.Forall₂ Reply.UpTo (answers capacity calls) (answers larger calls) ∧
      Within (after capacity calls) (after larger calls) := by
  have hempty : Within (empty capacity : Lru κ α) (empty larger) ∧
      (empty larger : Lru κ α).Sound := ⟨within_empty h, sound_empty larger⟩
  obtain ⟨hanswers, hend, -⟩ := simulates (R := fun c d : Lru κ α => Within c d ∧ d.Sound)
    (P := Reply.UpTo)
    (fun c d call ⟨h, hd⟩ => ⟨(h.step hd call).1, (h.step hd call).2, hd.step call⟩) hempty calls
  exact ⟨hanswers, hend⟩

/-- **More room never loses a hit.** After the same calls, all that a cache has is in a larger cache
as well, under the same value, and all that it found on the way was found there. -/
theorem hits_mono {capacity larger : Nat} (h : capacity ≤ larger) (calls : List (Call κ α)) :
    (∀ k, (after capacity calls).contains k = true → (after larger calls).contains k = true) ∧
    (∀ k a, ((after capacity calls).get k).1 = some a → ((after larger calls).get k).1 = some a) ∧
    List.Forall₂ Reply.UpTo (answers capacity calls) (answers larger calls) := by
  obtain ⟨hanswers, hwithin⟩ := within_after h calls
  have hsound := sound_after larger calls
  refine ⟨fun k => hwithin.contains hsound, fun k a ha => ?_, hanswers⟩
  rw [fst_get] at ha ⊢
  exact hwithin.find? hsound ha

/-- A look-up hits in the larger cache only, and a removal leaves the caches with one entry and with
two. -/
def unevenly : List (Call Nat Char) :=
  [.insert 1 'a', .insert 2 'b', .insert 3 'c', .get 1, .remove 3, .insert 4 'd']

theorem hits_mono_unevenly :
    2 ≤ 3 ∧ ((after 2 unevenly).get 2).1 = some 'b' ∧ ((after 3 unevenly).get 2).1 = some 'b' := by
  have hsmall : ((after 2 unevenly).get 2).1 = some 'b' := by decide
  exact ⟨by decide, hsmall, (hits_mono (by decide) unevenly).2.1 2 'b' hsmall⟩

end SchemaCatalog.Lru
