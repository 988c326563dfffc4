import SchemaCatalog.Flight

/-!
# Where a key stands

* `FlightTable.standing`: the state of the current flight of a key. A key that was never claimed
  stands as if its flight were abandoned.
* `claim_of_pending`, `claim_of_kept`, `claim_of_free`: the three ways in which a claim goes.
* `Lawful`: no two keys share a flight. Then a flight that starts or settles changes the standing of
  its own key only (`Lawful.standing_launch_of_ne`, `Lawful.standing_settle_of_ne`).
-/

namespace SchemaCatalog.FlightTable

section

variable {κ α : Type} [DecidableEq κ] {t : FlightTable κ α} {k k' : κ} {f f' : Nat} {a : α}
  {s : Flight α} {replaceable : α → Bool}

def standing (t : FlightTable κ α) (k : κ) : Flight α :=
  match t.current? k with
  | some f => t.flight f
  | none => .abandoned

theorem standing_of_current (h : t.current? k = some f) : t.standing k = t.flight f := by
  rw [standing, h]

theorem exists_current_of_standing (h : t.standing k ≠ .abandoned) :
    ∃ f, t.current? k = some f ∧ t.flight f = t.standing k := by
  cases hc : t.current? k with
  | none => exact absurd (by rw [standing, hc]) h
  | some f => exact ⟨f, rfl, (standing_of_current hc).symm⟩

/-! ## Current flights -/

theorem find?_setCurrent_self (k : κ) (f : Nat) (l : List (κ × Nat)) :
    (setCurrent k f l).find? (fun e => e.1 = k) = some (k, f) := by
  induction l with
  | nil => simp [setCurrent]
  | cons e rest ih =>
    unfold setCurrent
    split
    · simp
    · next h => rw [List.find?_cons_of_neg (by simpa using h), ih]

theorem find?_setCurrent_of_ne (h : k' ≠ k) (f : Nat) (l : List (κ × Nat)) :
    (setCurrent k f l).find? (fun e => e.1 = k') = l.find? fun e => e.1 = k' := by
  induction l with
  | nil => simp [setCurrent, h.symm]
  | cons e rest ih =>
    unfold setCurrent
    split
    · next he =>
      have hk : e.1 ≠ k' := fun h' => h (h'.symm.trans he)
      rw [List.find?_cons_of_neg (by simpa using h.symm),
        List.find?_cons_of_neg (by simpa using hk)]
    · rw [List.find?_cons, List.find?_cons, ih]

@[simp] theorem current?_launch_self : (t.launch k).current? k = some t.flights.length := by
  rw [current?, launch, find?_setCurrent_self]
  rfl

theorem current?_launch_of_ne (h : k' ≠ k) : (t.launch k).current? k' = t.current? k' := by
  rw [current?, launch, find?_setCurrent_of_ne h]
  rfl

@[simp] theorem current?_settle : (t.settle f s).current? k = t.current? k := rfl

/-! ## States of flights -/

@[simp] theorem length_launch : (t.launch k).flights.length = t.flights.length + 1 := by
  simp [launch]

omit [DecidableEq κ] in
@[simp] theorem length_settle : (t.settle f s).flights.length = t.flights.length := by
  simp [settle]

@[simp] theorem flight_launch_self : (t.launch k).flight t.flights.length = .pending := by
  simp [flight, launch]

theorem flight_launch_of_lt (h : f < t.flights.length) : (t.launch k).flight f = t.flight f := by
  simp [flight, launch, List.getElem?_append_left h]

omit [DecidableEq κ] in
theorem flight_settle_self (h : f < t.flights.length) : (t.settle f s).flight f = s := by
  simp [flight, settle, h]

omit [DecidableEq κ] in
theorem flight_settle_of_ne (h : f' ≠ f) : (t.settle f s).flight f' = t.flight f' := by
  simp [flight, settle, List.getElem?_set_ne h.symm]

/-! ## What waiters are told -/

omit [DecidableEq κ] in
theorem poll_eq_none_iff : t.poll f = none ↔ t.flight f = .pending := by
  rw [poll]
  cases t.flight f <;> simp [Flight.outcome?]

omit [DecidableEq κ] in
theorem poll_of_restored {known : Option α} (h : t.flight f = .restored known) :
    t.poll f = some known := by
  rw [poll, h]
  cases known <;> rfl

/-! ## Claims -/

theorem claim_of_pending (hc : t.current? k = some f) (hf : t.flight f = .pending) :
    t.claim k replaceable = (.follow f, t) := by
  simp only [claim, hc, hf]

theorem claim_of_kept (hc : t.current? k = some f) (hf : t.flight f = .ready a)
    (ha : replaceable a = false) : t.claim k replaceable = (.follow f, t) := by
  simp [claim, hc, hf, ha]

theorem claim_of_free (hp : t.standing k ≠ .pending)
    (ha : ∀ a, t.standing k = .ready a → replaceable a = true) :
    t.claim k replaceable = (.lead t.flights.length (t.standing k).value?, t.launch k) := by
  cases hc : t.current? k with
  | none => simp only [claim, standing, hc, Flight.value?]
  | some f =>
    rw [standing_of_current hc] at hp ha ⊢
    simp only [claim, hc]
    cases hf : t.flight f with
    | pending => exact absurd hf hp
    | ready a => simp [ha a hf, Flight.value?]
    | abandoned => rfl

/-! ## Lawful tables -/

/-- Every key has a flight of its own. -/
structure Lawful (t : FlightTable κ α) : Prop where
  current_lt : ∀ k f, t.current? k = some f → f < t.flights.length
  current_inj : ∀ k k' f, t.current? k = some f → t.current? k' = some f → k = k'

theorem lawful_empty : (empty : FlightTable κ α).Lawful where
  current_lt _ _ h := by cases h
  current_inj _ _ _ h _ := by cases h

theorem Lawful.launch (h : t.Lawful) (k : κ) : (t.launch k).Lawful where
  current_lt k' f hf := by
    rw [length_launch]
    by_cases hk : k' = k
    · subst hk
      rw [current?_launch_self, Option.some.injEq] at hf
      omega
    · rw [current?_launch_of_ne hk] at hf
      have := h.current_lt k' f hf
      omega
  current_inj k₁ k₂ f h₁ h₂ := by
    -- the new flight has a number that no other key can have
    have hnew : ∀ k', k' ≠ k → (t.launch k).current? k' ≠ some t.flights.length := by
      intro k' hk hc
      rw [current?_launch_of_ne hk] at hc
      exact Nat.lt_irrefl _ (h.current_lt k' _ hc)
    by_cases hk₁ : k₁ = k <;> by_cases hk₂ : k₂ = k
    · rw [hk₁, hk₂]
    · subst hk₁
      rw [current?_launch_self, Option.some.injEq] at h₁
      exact absurd (h₁ ▸ h₂) (hnew k₂ hk₂)
    · subst hk₂
      rw [current?_launch_self, Option.some.injEq] at h₂
      exact absurd (h₂ ▸ h₁) (hnew k₁ hk₁)
    · rw [current?_launch_of_ne hk₁] at h₁
      rw [current?_launch_of_ne hk₂] at h₂
      exact h.current_inj k₁ k₂ f h₁ h₂

theorem Lawful.settle (h : t.Lawful) (f : Nat) (s : Flight α) : (t.settle f s).Lawful where
  current_lt k' f' hf := by
    rw [length_settle]
    exact h.current_lt k' f' hf
  current_inj := h.current_inj

@[simp] theorem standing_launch_self : (t.launch k).standing k = .pending := by
  rw [standing_of_current current?_launch_self, flight_launch_self]

theorem Lawful.standing_launch_of_ne (h : t.Lawful) (hk : k' ≠ k) :
    (t.launch k).standing k' = t.standing k' := by
  simp only [standing, current?_launch_of_ne hk]
  split
  · next f hf => rw [flight_launch_of_lt (h.current_lt k' f hf)]
  · rfl

theorem Lawful.standing_settle_self (h : t.Lawful) (hc : t.current? k = some f) :
    (t.settle f s).standing k = s := by
  rw [standing_of_current (t := t.settle f s) hc, flight_settle_self (h.current_lt k f hc)]

theorem Lawful.standing_settle_of_ne (h : t.Lawful) (hc : t.current? k = some f) (hk : k' ≠ k) :
    (t.settle f s).standing k' = t.standing k' := by
  simp only [standing, current?_settle]
  split
  · next f' hf =>
    have hne : f' ≠ f := fun he => hk (h.current_inj k' k f (he ▸ hf) hc)
    rw [flight_settle_of_ne hne]
  · rfl

end

end SchemaCatalog.FlightTable
