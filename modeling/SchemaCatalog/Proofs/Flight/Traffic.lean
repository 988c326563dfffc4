import SchemaCatalog.Proofs.Flight.Standing
import Mathlib.Logic.Function.Basic
import Mathlib.Data.List.Basic

/-!
# Callers of a flight table

A table with the callers whose attempts are not over, and with the values that attempts came to.

* `Part`, `Traffic`: what a caller does now; a table, its callers, and the values of each key in
  their order.
* `Traffic.Move`: everything that a caller can do.
* **`Traffic.Sound.move`**: a pending flight is the current one of its key and has exactly one
  leader, who replaces the last value; a key that does not wait stands at its last value; a follower
  is told a value of its own key.
* **`Traffic.Sound.move_spent`**: a value that is replaced, or is being replaced, had been given up.
-/

namespace SchemaCatalog

/-- What a caller does in an attempt that is not over: it has to settle `flight`, which replaces
`previous`, or it waits for it. -/
inductive Part (κ α : Type)
  | lead (k : κ) (flight : Nat) (previous : Option α)
  | follow (k : κ) (flight : Nat)

/-- A table in use, with what each caller does and the values that the attempts of each key came to,
the last one at the end. -/
structure Traffic (κ α : Type) where
  table : FlightTable κ α
  part : Nat → Option (Part κ α)
  values : κ → List α

namespace Traffic

variable {κ α : Type} [DecidableEq κ] {s s' : Traffic κ α} {spent : κ → α → Prop}

open Function (update)

/-- What a caller can do. A value may be replaced once it is `spent`. -/
inductive Move (spent : κ → α → Prop) (s : Traffic κ α) : Traffic κ α → Prop
  | lead {c : Nat} {k : κ} (idle : s.part c = none) (free : s.table.standing k ≠ .pending)
      (gone : ∀ a, s.table.standing k = .ready a → spent k a) :
      Move spent s
        { s with
          table := s.table.launch k
          part := update s.part c
            (some (.lead k s.table.flights.length (s.table.standing k).value?)) }
  | join {c : Nat} {k : κ} {f : Nat} (idle : s.part c = none)
      (current : s.table.current? k = some f)
      (pending : s.table.flight f = .pending) :
      Move spent s { s with part := update s.part c (some (.follow k f)) }
  | leave {c : Nat} (led : ∀ k f prev, s.part c ≠ some (.lead k f prev)) :
      Move spent s { s with part := update s.part c none }
  | complete {c : Nat} {k : κ} {f : Nat} {prev : Option α} (a : α)
      (led : s.part c = some (.lead k f prev)) :
      Move spent s
        ⟨s.table.complete f a, update s.part c none, update s.values k (s.values k ++ [a])⟩
  | cancel {c : Nat} {k : κ} {f : Nat} {prev : Option α} (led : s.part c = some (.lead k f prev)) :
      Move spent s ⟨s.table.cancel f prev, update s.part c none, s.values⟩

/-! ## The invariant -/

/-- What holds of a table in use. -/
structure Sound (s : Traffic κ α) : Prop where
  lawful : s.table.Lawful
  lead_current : ∀ c k f prev, s.part c = some (.lead k f prev) → s.table.current? k = some f
  lead_pending : ∀ c k f prev, s.part c = some (.lead k f prev) → s.table.flight f = .pending
  lead_previous : ∀ c k f prev, s.part c = some (.lead k f prev) → prev = (s.values k).getLast?
  lead_unique : ∀ c c' k f f' prev prev', s.part c = some (.lead k f prev) →
    s.part c' = some (.lead k f' prev') → c = c'
  follow_lt : ∀ c k f, s.part c = some (.follow k f) → f < s.table.flights.length
  follow_current : ∀ c k f, s.part c = some (.follow k f) → s.table.flight f = .pending →
    s.table.current? k = some f
  follow_told : ∀ c k f a, s.part c = some (.follow k f) → s.table.flight f = .ready a →
    a ∈ s.values k
  pending : ∀ k f, s.table.current? k = some f → s.table.flight f = .pending →
    ∃ c prev, s.part c = some (.lead k f prev)
  ready : ∀ k a, s.table.standing k = .ready a → (s.values k).getLast? = some a
  abandoned : ∀ k, s.table.standing k = .abandoned → s.values k = []

theorem sound_empty : (⟨.empty, fun _ => none, fun _ => []⟩ : Traffic κ α).Sound where
  lawful := FlightTable.lawful_empty
  lead_current _ _ _ _ h := by cases h
  lead_pending _ _ _ _ h := by cases h
  lead_previous _ _ _ _ h := by cases h
  lead_unique _ _ _ _ _ _ _ h := by cases h
  follow_lt _ _ _ h := by cases h
  follow_current _ _ _ h := by cases h
  follow_told _ _ _ _ h := by cases h
  pending _ _ h := by cases h
  ready _ _ h := by cases h
  abandoned _ _ := rfl

namespace Sound

theorem standing_of_lead (h : s.Sound) {c : Nat} {k : κ} {f : Nat} {prev : Option α}
    (hc : s.part c = some (.lead k f prev)) : s.table.standing k = .pending := by
  rw [FlightTable.standing_of_current (h.lead_current c k f prev hc)]
  exact h.lead_pending c k f prev hc

theorem exists_lead (h : s.Sound) {k : κ} (hk : s.table.standing k = .pending) :
    ∃ c f prev, s.part c = some (.lead k f prev) := by
  obtain ⟨f, hc, hf⟩ :=
    FlightTable.exists_current_of_standing (t := s.table) (k := k) (by simp [hk])
  obtain ⟨c, prev, hp⟩ := h.pending k f hc (hf.trans hk)
  exact ⟨c, f, prev, hp⟩

/-- A key that is not pending stands at its last value. -/
theorem value?_standing (h : s.Sound) {k : κ} (hk : s.table.standing k ≠ .pending) :
    (s.table.standing k).value? = (s.values k).getLast? := by
  cases hs : s.table.standing k with
  | pending => exact absurd hs hk
  | ready a => rw [h.ready k a hs]; rfl
  | abandoned => rw [h.abandoned k hs]; rfl

theorem standing_eq_ready_iff (h : s.Sound) {k : κ} (hk : s.table.standing k ≠ .pending) {a : α} :
    s.table.standing k = .ready a ↔ (s.values k).getLast? = some a := by
  rw [← h.value?_standing hk, Flight.value?_eq_some]

theorem lead_eq (h : s.Sound) {c c' : Nat} {k k' : κ} {f : Nat} {prev prev' : Option α}
    (hc : s.part c = some (.lead k f prev)) (hc' : s.part c' = some (.lead k' f prev')) :
    c = c' := by
  have hk : k = k' := h.lawful.current_inj k k' f (h.lead_current c k f prev hc)
    (h.lead_current c' k' f prev' hc')
  subst hk
  exact h.lead_unique c c' k f f prev prev' hc hc'

theorem lead_ne (h : s.Sound) {k k' : κ} (free : s.table.standing k ≠ .pending) {c f : Nat}
    {prev : Option α} (hp : s.part c = some (.lead k' f prev)) : k' ≠ k := by
  rintro rfl
  exact free (h.standing_of_lead hp)

theorem follow_ne (h : s.Sound) {k k' : κ} (free : s.table.standing k ≠ .pending) {c f : Nat}
    (hp : s.part c = some (.follow k' f)) (hf : s.table.flight f = .pending) : k' ≠ k := by
  rintro rfl
  exact free ((FlightTable.standing_of_current (h.follow_current c k' f hp hf)).trans hf)

end Sound

/-! ## Every move keeps the invariant -/

section Update

variable {part : Nat → Option (Part κ α)} {c c' : Nat} {p q : Part κ α}

omit [DecidableEq κ] in
theorem eq_or_of_update_some (h : update part c (some q) c' = some p) :
    (c' = c ∧ p = q) ∨ (c' ≠ c ∧ part c' = some p) := by
  by_cases hc : c' = c
  · subst hc
    rw [Function.update_self, Option.some.injEq] at h
    exact Or.inl ⟨rfl, h.symm⟩
  · rw [Function.update_of_ne hc] at h
    exact Or.inr ⟨hc, h⟩

omit [DecidableEq κ] in
theorem ne_of_update_none (h : update part c none c' = some p) : c' ≠ c ∧ part c' = some p := by
  by_cases hc : c' = c
  · subst hc
    rw [Function.update_self] at h
    cases h
  · rw [Function.update_of_ne hc] at h
    exact ⟨hc, h⟩

end Update

namespace Sound

theorem launch (h : s.Sound) {c : Nat} {k : κ} (idle : s.part c = none)
    (free : s.table.standing k ≠ .pending) :
    Sound { s with
      table := s.table.launch k
      part := update s.part c
        (some (.lead k s.table.flights.length (s.table.standing k).value?)) } where
  lawful := h.lawful.launch k
  lead_current c' k' f prev hp := by
    obtain ⟨rfl, he⟩ | ⟨-, hp'⟩ := eq_or_of_update_some hp
    · cases he
      exact FlightTable.current?_launch_self
    · rw [FlightTable.current?_launch_of_ne (h.lead_ne free hp')]
      exact h.lead_current c' k' f prev hp'
  lead_pending c' k' f prev hp := by
    obtain ⟨rfl, he⟩ | ⟨-, hp'⟩ := eq_or_of_update_some hp
    · cases he
      exact FlightTable.flight_launch_self
    · have hf := h.lawful.current_lt k' f (h.lead_current c' k' f prev hp')
      rw [FlightTable.flight_launch_of_lt hf]
      exact h.lead_pending c' k' f prev hp'
  lead_previous c' k' f prev hp := by
    obtain ⟨rfl, he⟩ | ⟨-, hp'⟩ := eq_or_of_update_some hp
    · cases he
      exact h.value?_standing free
    · exact h.lead_previous c' k' f prev hp'
  lead_unique c₁ c₂ k' f₁ f₂ prev₁ prev₂ h₁ h₂ := by
    obtain ⟨rfl, e₁⟩ | ⟨-, h₁'⟩ := eq_or_of_update_some h₁ <;>
      obtain ⟨rfl, e₂⟩ | ⟨-, h₂'⟩ := eq_or_of_update_some h₂
    · rfl
    · cases e₁
      exact absurd rfl (h.lead_ne free h₂')
    · cases e₂
      exact absurd rfl (h.lead_ne free h₁')
    · exact h.lead_unique c₁ c₂ k' f₁ f₂ prev₁ prev₂ h₁' h₂'
  follow_lt c' k' f hp := by
    obtain ⟨rfl, he⟩ | ⟨-, hp'⟩ := eq_or_of_update_some hp
    · cases he
    · rw [FlightTable.length_launch]
      exact Nat.lt_succ_of_lt (h.follow_lt c' k' f hp')
  follow_current c' k' f hp hf := by
    obtain ⟨rfl, he⟩ | ⟨-, hp'⟩ := eq_or_of_update_some hp
    · cases he
    · rw [FlightTable.flight_launch_of_lt (h.follow_lt c' k' f hp')] at hf
      rw [FlightTable.current?_launch_of_ne (h.follow_ne free hp' hf)]
      exact h.follow_current c' k' f hp' hf
  follow_told c' k' f a hp hf := by
    obtain ⟨rfl, he⟩ | ⟨-, hp'⟩ := eq_or_of_update_some hp
    · cases he
    · rw [FlightTable.flight_launch_of_lt (h.follow_lt c' k' f hp')] at hf
      exact h.follow_told c' k' f a hp' hf
  pending k' f hc hf := by
    by_cases hk : k' = k
    · subst hk
      rw [FlightTable.current?_launch_self, Option.some.injEq] at hc
      subst hc
      exact ⟨c, _, Function.update_self ..⟩
    · rw [FlightTable.current?_launch_of_ne hk] at hc
      rw [FlightTable.flight_launch_of_lt (h.lawful.current_lt k' f hc)] at hf
      obtain ⟨c', prev, hp⟩ := h.pending k' f hc hf
      have hcc : c' ≠ c := by
        rintro rfl
        rw [idle] at hp
        cases hp
      exact ⟨c', prev, (Function.update_of_ne hcc ..).trans hp⟩
  ready k' a hs := by
    by_cases hk : k' = k
    · subst hk
      rw [FlightTable.standing_launch_self] at hs
      cases hs
    · rw [h.lawful.standing_launch_of_ne hk] at hs
      exact h.ready k' a hs
  abandoned k' hs := by
    by_cases hk : k' = k
    · subst hk
      rw [FlightTable.standing_launch_self] at hs
      cases hs
    · rw [h.lawful.standing_launch_of_ne hk] at hs
      exact h.abandoned k' hs

theorem join (h : s.Sound) {c : Nat} {k : κ} {f : Nat} (idle : s.part c = none)
    (current : s.table.current? k = some f) (pending : s.table.flight f = .pending) :
    Sound { s with part := update s.part c (some (.follow k f)) } where
  lawful := h.lawful
  lead_current c' k' f' prev hp := by
    obtain ⟨-, he⟩ | ⟨-, hp'⟩ := eq_or_of_update_some hp
    · cases he
    · exact h.lead_current c' k' f' prev hp'
  lead_pending c' k' f' prev hp := by
    obtain ⟨-, he⟩ | ⟨-, hp'⟩ := eq_or_of_update_some hp
    · cases he
    · exact h.lead_pending c' k' f' prev hp'
  lead_previous c' k' f' prev hp := by
    obtain ⟨-, he⟩ | ⟨-, hp'⟩ := eq_or_of_update_some hp
    · cases he
    · exact h.lead_previous c' k' f' prev hp'
  lead_unique c₁ c₂ k' f₁ f₂ prev₁ prev₂ h₁ h₂ := by
    obtain ⟨-, e₁⟩ | ⟨-, h₁'⟩ := eq_or_of_update_some h₁
    · cases e₁
    · obtain ⟨-, e₂⟩ | ⟨-, h₂'⟩ := eq_or_of_update_some h₂
      · cases e₂
      · exact h.lead_unique c₁ c₂ k' f₁ f₂ prev₁ prev₂ h₁' h₂'
  follow_lt c' k' f' hp := by
    obtain ⟨-, he⟩ | ⟨-, hp'⟩ := eq_or_of_update_some hp
    · cases he
      exact h.lawful.current_lt k f current
    · exact h.follow_lt c' k' f' hp'
  follow_current c' k' f' hp hf := by
    obtain ⟨-, he⟩ | ⟨-, hp'⟩ := eq_or_of_update_some hp
    · cases he
      exact current
    · exact h.follow_current c' k' f' hp' hf
  follow_told c' k' f' a hp hf := by
    obtain ⟨-, he⟩ | ⟨-, hp'⟩ := eq_or_of_update_some hp
    · cases he
      rw [pending] at hf
      cases hf
    · exact h.follow_told c' k' f' a hp' hf
  pending k' f' hc hf := by
    obtain ⟨c', prev, hp⟩ := h.pending k' f' hc hf
    have hcc : c' ≠ c := by
      rintro rfl
      rw [idle] at hp
      cases hp
    exact ⟨c', prev, (Function.update_of_ne hcc ..).trans hp⟩
  ready := h.ready
  abandoned := h.abandoned

theorem leave (h : s.Sound) {c : Nat} (led : ∀ k f prev, s.part c ≠ some (.lead k f prev)) :
    Sound { s with part := update s.part c none } where
  lawful := h.lawful
  lead_current c' k' f' prev hp := h.lead_current c' k' f' prev (ne_of_update_none hp).2
  lead_pending c' k' f' prev hp := h.lead_pending c' k' f' prev (ne_of_update_none hp).2
  lead_previous c' k' f' prev hp := h.lead_previous c' k' f' prev (ne_of_update_none hp).2
  lead_unique c₁ c₂ k' f₁ f₂ prev₁ prev₂ h₁ h₂ :=
    h.lead_unique c₁ c₂ k' f₁ f₂ prev₁ prev₂ (ne_of_update_none h₁).2 (ne_of_update_none h₂).2
  follow_lt c' k' f' hp := h.follow_lt c' k' f' (ne_of_update_none hp).2
  follow_current c' k' f' hp := h.follow_current c' k' f' (ne_of_update_none hp).2
  follow_told c' k' f' a hp := h.follow_told c' k' f' a (ne_of_update_none hp).2
  pending k' f' hc hf := by
    obtain ⟨c', prev, hp⟩ := h.pending k' f' hc hf
    have hcc : c' ≠ c := by
      rintro rfl
      exact led k' f' prev hp
    exact ⟨c', prev, (Function.update_of_ne hcc ..).trans hp⟩
  ready := h.ready
  abandoned := h.abandoned

/-- A leader settles its flight in a state that the values of its key account for. -/
theorem settle (h : s.Sound) {c : Nat} {k : κ} {f : Nat} {prev : Option α} {st : Flight α}
    {vs : List α} (led : s.part c = some (.lead k f prev)) (settled : st ≠ .pending)
    (ready : ∀ a, st = .ready a → vs.getLast? = some a) (abandoned : st = .abandoned → vs = [])
    (grown : s.values k ⊆ vs) :
    Sound ⟨s.table.settle f st, update s.part c none, update s.values k vs⟩ where
  lawful := h.lawful.settle f st
  lead_current c' k' f' prev' hp := h.lead_current c' k' f' prev' (ne_of_update_none hp).2
  lead_pending c' k' f' prev' hp := by
    obtain ⟨hcc, hp'⟩ := ne_of_update_none hp
    have hff : f' ≠ f := by
      rintro rfl
      exact hcc (h.lead_eq hp' led)
    rw [FlightTable.flight_settle_of_ne hff]
    exact h.lead_pending c' k' f' prev' hp'
  lead_previous c' k' f' prev' hp := by
    obtain ⟨hcc, hp'⟩ := ne_of_update_none hp
    have hk : k' ≠ k := by
      rintro rfl
      exact hcc (h.lead_unique c' c k' f' f prev' prev hp' led)
    simp only [Function.update_of_ne hk]
    exact h.lead_previous c' k' f' prev' hp'
  lead_unique c₁ c₂ k' f₁ f₂ prev₁ prev₂ h₁ h₂ :=
    h.lead_unique c₁ c₂ k' f₁ f₂ prev₁ prev₂ (ne_of_update_none h₁).2 (ne_of_update_none h₂).2
  follow_lt c' k' f' hp := by
    rw [FlightTable.length_settle]
    exact h.follow_lt c' k' f' (ne_of_update_none hp).2
  follow_current c' k' f' hp hf := by
    have hp' := (ne_of_update_none hp).2
    by_cases hff : f' = f
    · subst hff
      rw [FlightTable.flight_settle_self (h.follow_lt c' k' f' hp')] at hf
      exact absurd hf settled
    · rw [FlightTable.flight_settle_of_ne hff] at hf
      exact h.follow_current c' k' f' hp' hf
  follow_told c' k' f' a hp hf := by
    have hp' := (ne_of_update_none hp).2
    by_cases hff : f' = f
    · -- the flight was pending until now, so it is the current one of the follower's key
      subst hff
      have hk : k' = k := h.lawful.current_inj k' k f'
        (h.follow_current c' k' f' hp' (h.lead_pending c k f' prev led))
        (h.lead_current c k f' prev led)
      rw [FlightTable.flight_settle_self (h.follow_lt c' k' f' hp')] at hf
      simp only [hk, Function.update_self]
      exact List.mem_of_getLast? (ready a hf)
    · rw [FlightTable.flight_settle_of_ne hff] at hf
      have hmem := h.follow_told c' k' f' a hp' hf
      by_cases hk : k' = k
      · subst hk
        simp only [Function.update_self]
        exact grown hmem
      · simpa only [Function.update_of_ne hk] using hmem
  pending k' f' hc hf := by
    by_cases hff : f' = f
    · subst hff
      rw [FlightTable.flight_settle_self (h.lawful.current_lt k' f' hc)] at hf
      exact absurd hf settled
    · rw [FlightTable.flight_settle_of_ne hff] at hf
      obtain ⟨c', prev', hp⟩ := h.pending k' f' hc hf
      have hcc : c' ≠ c := by
        rintro rfl
        rw [led, Option.some.injEq] at hp
        cases hp
        exact hff rfl
      exact ⟨c', prev', (Function.update_of_ne hcc ..).trans hp⟩
  ready k' a hs := by
    by_cases hk : k' = k
    · subst hk
      rw [h.lawful.standing_settle_self (h.lead_current c k' f prev led)] at hs
      simp only [Function.update_self]
      exact ready a hs
    · rw [h.lawful.standing_settle_of_ne (h.lead_current c k f prev led) hk] at hs
      simp only [Function.update_of_ne hk]
      exact h.ready k' a hs
  abandoned k' hs := by
    by_cases hk : k' = k
    · subst hk
      rw [h.lawful.standing_settle_self (h.lead_current c k' f prev led)] at hs
      simp only [Function.update_self]
      exact abandoned hs
    · rw [h.lawful.standing_settle_of_ne (h.lead_current c k f prev led) hk] at hs
      simp only [Function.update_of_ne hk]
      exact h.abandoned k' hs

/-- **Every move keeps the invariant.** -/
theorem move (h : s.Sound) (hm : Move spent s s') : s'.Sound := by
  cases hm with
  | lead idle free gone => exact h.launch idle free
  | join idle current pending => exact h.join idle current pending
  | leave led => exact h.leave led
  | @complete c k f prev a led =>
    refine h.settle led (by simp) ?_ (by simp) (List.subset_append_left _ _)
    rintro b ⟨⟩
    exact List.getLast?_concat
  | @cancel c k f prev led =>
    have hprev := h.lead_previous c k f prev led
    have hs : Sound ⟨s.table.settle f (.restored prev), update s.part c none,
        update s.values k (s.values k)⟩ := by
      refine h.settle led (by cases prev <;> simp [Flight.restored]) ?_ ?_ (List.Subset.refl _)
      · rintro a he
        cases prev with
        | none => cases he
        | some b =>
          cases he
          exact hprev.symm
      · intro he
        cases prev with
        | none => exact List.getLast?_eq_none_iff.1 hprev.symm
        | some b => cases he
    rwa [Function.update_eq_self] at hs

end Sound

/-! ## Values that were given up -/

/-- Only the last value of a key may still count, and only while it is not being replaced. -/
structure Spent (spent : κ → α → Prop) (s : Traffic κ α) : Prop where
  replaced : ∀ k a, a ∈ (s.values k).dropLast → spent k a
  replacing : ∀ c k f a, s.part c = some (.lead k f (some a)) → spent k a

omit [DecidableEq κ] in
theorem spent_empty : (⟨.empty, fun _ => none, fun _ => []⟩ : Traffic κ α).Spent spent where
  replaced _ _ h := by cases h
  replacing _ _ _ _ h := by cases h

omit [DecidableEq κ] in
theorem Spent.mono {spent' : κ → α → Prop} (hs : s.Spent spent)
    (h : ∀ k a, spent k a → spent' k a) : s.Spent spent' where
  replaced k a ha := h k a (hs.replaced k a ha)
  replacing c k f a hp := h k a (hs.replacing c k f a hp)

omit [DecidableEq κ] in
theorem getLast?_of_notMem_dropLast {a : α} {l : List α} (h : a ∈ l) (hd : a ∉ l.dropLast) :
    l.getLast? = some a := by
  obtain ⟨l', b, rfl⟩ := List.eq_nil_or_concat l |>.resolve_left (List.ne_nil_of_mem h)
  rw [List.concat_eq_append, List.dropLast_concat] at hd
  rw [List.concat_eq_append] at h ⊢
  rw [List.getLast?_concat, List.mem_singleton.1 ((List.mem_append.1 h).resolve_left hd)]

omit [DecidableEq κ] in
/-- When a caller leaves, the other leaders replace what they did before. -/
theorem Spent.replacing_of_update_none (hs : s.Spent spent) {c : Nat} (c' : Nat) (k : κ) (f : Nat)
    (a : α) (hp : update s.part c none c' = some (.lead k f (some a))) : spent k a :=
  hs.replacing c' k f a (ne_of_update_none hp).2

/-- **What is replaced was given up.** -/
theorem Sound.move_spent (h : s.Sound) (hs : s.Spent spent) (hm : Move spent s s') :
    s'.Spent spent := by
  cases hm with
  | lead idle free gone =>
    refine ⟨hs.replaced, ?_⟩
    intro c' k' f' a' hp
    obtain ⟨-, he⟩ | ⟨-, hp'⟩ := eq_or_of_update_some hp
    · simp only [Part.lead.injEq] at he
      obtain ⟨rfl, -, ha⟩ := he
      exact gone a' (Flight.value?_eq_some.1 ha.symm)
    · exact hs.replacing c' k' f' a' hp'
  | join idle current pending =>
    refine ⟨hs.replaced, ?_⟩
    intro c' k' f' a' hp
    obtain ⟨-, he⟩ | ⟨-, hp'⟩ := eq_or_of_update_some hp
    · cases he
    · exact hs.replacing c' k' f' a' hp'
  | leave led => exact ⟨hs.replaced, hs.replacing_of_update_none⟩
  | @complete c k f prev a led =>
    refine ⟨?_, hs.replacing_of_update_none⟩
    intro k' b hb
    by_cases hk : k' = k
    · subst hk
      simp only [Function.update_self, List.dropLast_concat] at hb
      -- either it was replaced before, or the leader replaces it now
      by_cases hb' : b ∈ (s.values k').dropLast
      · exact hs.replaced k' b hb'
      · have hlast : (s.values k').getLast? = some b := getLast?_of_notMem_dropLast hb hb'
        exact hs.replacing c k' f b (by rw [led, h.lead_previous c k' f prev led, hlast])
    · simp only [Function.update_of_ne hk] at hb
      exact hs.replaced k' b hb
  | cancel led => exact ⟨hs.replaced, hs.replacing_of_update_none⟩

end Traffic

end SchemaCatalog
