import SchemaCatalog.Proofs.Flight.Slots
import Mathlib.Data.List.Induction

/-!
# What becomes of a flight

A flight is settled once, by the end of its leader's guard, and then stays as it is, whatever
happens to its key. All who wait for it are told the same.

* `Session.opens?`: the guard of the flight that a deed starts.
* `Deed.endOf?`, `Deed.ownEnd?`, `Deed.fate?`: what a deed settles the flight of a guard on; what
  it settles the flight on that it starts itself; what becomes of a flight.
* `Session.close`: how a guard ends.
* `Session.Rests.step`: a flight that is settled stays so.
* `Session.Fares.step`: a guard is held until its end, which settles its flight.
* **`Session.flight_settles_once`**: the fate of every flight ever started.
-/

namespace SchemaCatalog

open Function (update)

variable {κ α : Type}

namespace Flight

theorem restored_ne_pending (v : Option α) : restored v ≠ .pending := by
  cases v <;> exact nofun

theorem outcome?_restored (v : Option α) : (restored v).outcome? = some v := by
  cases v <;> rfl

end Flight

/-! ## Ends of flights -/

namespace Deed

def claims? : Deed κ α → Option (κ × (α → Bool))
  | claim k p | enter k p | resolve k p _ => some (k, p)
  | complete .. | drop _ | peek _ => none

/-- What a deed settles the flight of caller `n` on, which replaces `previous`. -/
def endOf? (n : Nat) (previous : Option α) : Deed κ α → Option (Option α)
  | complete m a => if m = n then some (some a) else none
  | drop m => if m = n then some previous else none
  | _ => none

/-- What a deed settles the flight on that it starts itself, and that replaces `previous`. -/
def ownEnd? (previous : Option α) : Deed κ α → Option (Option α)
  | resolve _ _ answer => some (answer.or previous)
  | _ => none

/-- What has become of the flight that caller `n` started with `d`. It is settled by the first deed
that ends the guard of `n`. -/
def fate? (n : Nat) (previous : Option α) (d : Deed κ α) (later : List (Deed κ α)) :
    Option (Option α) :=
  (d.ownEnd? previous).or (later.findSome? (endOf? n previous))

theorem fate?_nil (n : Nat) (previous : Option α) (d : Deed κ α) :
    fate? n previous d [] = d.ownEnd? previous :=
  Option.or_none

theorem fate?_append (n : Nat) (previous : Option α) (d : Deed κ α) (later more : List (Deed κ α)) :
    fate? n previous d (later ++ more) =
      (fate? n previous d later).or (more.findSome? (endOf? n previous)) := by
  rw [fate?, fate?, List.findSome?_append, Option.or_assoc]

theorem findSome?_singleton (n : Nat) (previous : Option α) (x : Deed κ α) :
    [x].findSome? (endOf? n previous) = x.endOf? n previous := by
  cases h : x.endOf? n previous <;> simp [h]

end Deed

namespace Session

section

variable [DecidableEq κ] {s : Session κ α} {k : κ} {n m : Nat} {g : Guard κ α} {a : α}
  {p : α → Bool} {values : κ → List α} {f : Nat} {v : Option α} {d : Deed κ α}

def ofDeeds (ds : List (Deed κ α)) : Session κ α := empty.after ds

/-- The guard of the flight that a deed starts. -/
def opens? (s : Session κ α) (d : Deed κ α) : Option (Guard κ α) :=
  d.claims?.bind fun x => (s.table.claim x.1 x.2).1.guard? x.1

theorem ofDeeds_concat (ds : List (Deed κ α)) (d : Deed κ α) :
    ofDeeds (ds ++ [d]) = ((ofDeeds ds).step d).2 := by
  rw [ofDeeds, after, List.foldl_append]
  rfl

theorem sound_ofDeeds (ds : List (Deed κ α)) : ∃ values, (ofDeeds ds).Sound values := by
  obtain ⟨values, h⟩ := mirrors_empty.after ds
  exact ⟨values, h.sound⟩

/-! ## Guards that end -/

/-- The guard of caller `n` ends. Its flight settles on `v previous` if it replaces `previous`. -/
def close (s : Session κ α) (n : Nat) (v : Option α → Option α) : Session κ α :=
  match s.guard? n with
  | some g => ⟨s.table.settle g.flight (.restored (v g.previous)), s.guards.set n none⟩
  | none => s

omit [DecidableEq κ] in
theorem close_of_none {v : Option α → Option α} (h : s.guard? n = none) : s.close n v = s := by
  rw [close, h]

omit [DecidableEq κ] in
theorem close_of_guard {v : Option α → Option α} (h : s.guard? n = some g) :
    s.close n v =
      ⟨s.table.settle g.flight (.restored (v g.previous)), s.guards.set n none⟩ := by
  rw [close, h]

omit [DecidableEq κ] in
theorem complete_eq_close (s : Session κ α) (n : Nat) (a : α) :
    s.complete n a = s.close n fun _ => some a := by
  cases hg : s.guard? n with
  | none => rw [complete_of_none hg, close_of_none hg]
  | some g =>
    rw [complete_of_guard hg, close_of_guard hg]
    rfl

omit [DecidableEq κ] in
theorem drop_eq_close (s : Session κ α) (n : Nat) : s.drop n = s.close n id := by
  cases hg : s.guard? n with
  | none => rw [drop_of_none hg, close_of_none hg]
  | some g =>
    rw [drop_of_guard hg, close_of_guard hg]
    rfl

/-- A resolve that does not stay is a claim whose guard, if there is one, ends at once. -/
theorem step_resolve_eq_close (s : Session κ α) (k : κ) (p : α → Bool) (answer : Option α) :
    (s.step (.resolve k p answer)).2 = (s.claim k p).close s.guards.length answer.or := by
  cases answer with
  | some a => rw [step_resolve_some, complete_eq_close]; rfl
  | none => rw [step_resolve_none, drop_eq_close]; rfl

omit [DecidableEq κ] in
theorem ne_length_of_guard (hg : s.guard? n = some g) : n ≠ s.guards.length := by
  rintro rfl
  rw [guard?_length] at hg
  cases hg

theorem guard?_claim_of_guard (hg : s.guard? n = some g) (k : κ) (p : α → Bool) :
    (s.claim k p).guard? n = some g := by
  rw [claim, guard?_concat, Function.update_of_ne (ne_length_of_guard hg), hg]

omit [DecidableEq κ] in
theorem guard?_close_of_ne (h : n ≠ m) (v : Option α → Option α) :
    (s.close m v).guard? n = s.guard? n := by
  cases hm : s.guard? m with
  | none => rw [close_of_none hm]
  | some g => rw [close_of_guard hm, guard?_set, Function.update_of_ne h]

/-! ## Settled flights stay -/

/-- Flight `f` is settled, and all who wait for it are told `v`. -/
def Rests (s : Session κ α) (f : Nat) (v : Option α) : Prop :=
  f < s.table.flights.length ∧ s.table.flight f = .restored v

theorem Rests.claim (h : s.Rests f v) (k : κ) (p : α → Bool) : (s.claim k p).Rests f v := by
  obtain ⟨f', hf', hk, hclaim⟩ | ⟨f', a, hf', hk, hp, hclaim⟩ | ⟨free, old, hclaim⟩ :=
    s.table.claim_cases k p
  · rwa [claim_of_follow hclaim]
  · rwa [claim_of_follow hclaim]
  · rw [claim_of_lead hclaim]
    have hlt : f < s.table.flights.length + 1 := Nat.lt_succ_of_lt h.1
    exact ⟨by rwa [FlightTable.length_launch], by rw [FlightTable.flight_launch_of_lt h.1, h.2]⟩

theorem Rests.close (h : s.Rests f v) (hs : s.Sound values) (m : Nat) (w : Option α → Option α) :
    (s.close m w).Rests f v := by
  cases hg : s.guard? m with
  | none => rwa [close_of_none hg]
  | some g =>
    have hpending := hs.lead_pending m g.key g.flight g.previous (part_of_guard hg)
    have hne : f ≠ g.flight := by
      rintro rfl
      exact Flight.restored_ne_pending v (h.2.symm.trans hpending)
    rw [close_of_guard hg]
    exact ⟨by rw [FlightTable.length_settle]; exact h.1,
      (FlightTable.flight_settle_of_ne hne).trans h.2⟩

/-- **No deed changes a flight that is settled.** -/
theorem Rests.step (h : s.Rests f v) (hs : s.Sound values) (d : Deed κ α) :
    (s.step d).2.Rests f v := by
  cases d with
  | claim k p => exact h.claim k p
  | enter k p => exact h.claim k p
  | peek k => exact h
  | complete m a =>
    rw [Session.step, complete_eq_close]
    exact h.close hs m _
  | drop m =>
    rw [Session.step, drop_eq_close]
    exact h.close hs m _
  | resolve k p answer =>
    rw [step_resolve_eq_close]
    exact (h.claim k p).close (hs.claim k p) _ _

/-! ## Guards settle their flights -/

/-- What has become of the flight of the guard `g` of caller `n`: it is settled on `v`, or still
held. -/
def Fares (s : Session κ α) (n : Nat) (g : Guard κ α) : Option (Option α) → Prop
  | some v => s.Rests g.flight v
  | none => s.guard? n = some g

theorem rests_close_self (hg : s.guard? n = some g) (hs : s.Sound values)
    (w : Option α → Option α) : (s.close n w).Rests g.flight (w g.previous) := by
  have hlt := hs.lawful.current_lt _ _
    (hs.lead_current n g.key g.flight g.previous (part_of_guard hg))
  rw [close_of_guard hg]
  exact ⟨by rwa [FlightTable.length_settle], FlightTable.flight_settle_self hlt⟩

/-- A guard that is held ends by a deed of its own caller only. -/
theorem fares_step_of_guard (hg : s.guard? n = some g) (hs : s.Sound values) (d : Deed κ α) :
    (s.step d).2.Fares n g (d.endOf? n g.previous) := by
  cases d with
  | claim k p => exact guard?_claim_of_guard hg k p
  | enter k p => exact guard?_claim_of_guard hg k p
  | peek k => exact hg
  | complete m a =>
    rw [step, complete_eq_close]
    by_cases hm : m = n
    · subst hm
      rw [Deed.endOf?, if_pos rfl]
      exact rests_close_self hg hs fun _ => some a
    · rw [Deed.endOf?, if_neg hm]
      exact (guard?_close_of_ne (Ne.symm hm) _).trans hg
  | drop m =>
    rw [step, drop_eq_close]
    by_cases hm : m = n
    · subst hm
      rw [Deed.endOf?, if_pos rfl]
      exact rests_close_self hg hs id
    · rw [Deed.endOf?, if_neg hm]
      exact (guard?_close_of_ne (Ne.symm hm) _).trans hg
  | resolve k p answer =>
    rw [step_resolve_eq_close]
    exact (guard?_close_of_ne (ne_length_of_guard hg) _).trans (guard?_claim_of_guard hg k p)

/-- **A flight is settled by the first end of its guard.** -/
theorem Fares.step {fate : Option (Option α)} (h : s.Fares n g fate) (hs : s.Sound values)
    (d : Deed κ α) : (s.step d).2.Fares n g (fate.or (d.endOf? n g.previous)) := by
  cases fate with
  | some v => exact Rests.step h hs d
  | none => exact fares_step_of_guard h hs d

theorem guard_of_opens (h : s.opens? d = some g) :
    ∃ k p, d.claims? = some (k, p) ∧ g = ⟨k, s.table.flights.length, s.table.peek k⟩ ∧
      (s.claim k p).guard? s.guards.length = some g := by
  obtain ⟨⟨k, p⟩, hd, hopen⟩ := Option.bind_eq_some_iff.1 h
  refine ⟨k, p, hd, ?_, (guard?_claim_length s k p).trans hopen⟩
  obtain ⟨f', hf', hk, hclaim⟩ | ⟨f', a, hf', hk, hp, hclaim⟩ | ⟨free, old, hclaim⟩ :=
    s.table.claim_cases k p
  · rw [hclaim] at hopen
    cases hopen
  · rw [hclaim] at hopen
    cases hopen
  · rw [hclaim] at hopen
    exact (Option.some.inj hopen).symm

/-- A deed that starts a flight leaves it held, or settles it at once. -/
theorem fares_step_of_opens (h : s.opens? d = some g) (hs : s.Sound values) :
    (s.step d).2.Fares s.guards.length g (d.ownEnd? g.previous) := by
  obtain ⟨k, p, hd, -, hguard⟩ := guard_of_opens h
  cases d with
  | complete m a => cases hd
  | drop m => cases hd
  | peek k => cases hd
  | claim k' p' =>
    cases hd
    exact hguard
  | enter k' p' =>
    cases hd
    exact hguard
  | resolve k' p' answer =>
    cases hd
    rw [step_resolve_eq_close]
    exact rests_close_self hguard (hs.claim k p) _

theorem fares_ofDeeds {before : List (Deed κ α)} (h : (ofDeeds before).opens? d = some g)
    (later : List (Deed κ α)) :
    (ofDeeds (before ++ d :: later)).Fares (ofDeeds before).guards.length g
      (Deed.fate? (ofDeeds before).guards.length g.previous d later) := by
  induction later using List.reverseRecOn with
  | nil =>
    obtain ⟨values, hs⟩ := sound_ofDeeds before
    rw [ofDeeds_concat, Deed.fate?_nil]
    exact fares_step_of_opens h hs
  | append_singleton later x ih =>
    obtain ⟨values, hs⟩ := sound_ofDeeds (before ++ d :: later)
    rw [← List.cons_append, ← List.append_assoc, ofDeeds_concat, Deed.fate?_append,
      Deed.findSome?_singleton]
    exact ih.step hs x

/-! ## All flights -/

theorem Fares.flight {fate : Option (Option α)} (h : s.Fares n g fate) (hs : s.Sound values) :
    g.flight < s.table.flights.length ∧
      s.table.flight g.flight = (fate.map Flight.restored).getD .pending := by
  cases fate with
  | some v => exact h
  | none =>
    have hpart := part_of_guard h
    exact ⟨hs.lawful.current_lt _ _ (hs.lead_current n g.key g.flight g.previous hpart),
      hs.lead_pending n g.key g.flight g.previous hpart⟩

theorem length_flights_claim (s : Session κ α) (k : κ) (p : α → Bool) :
    (s.claim k p).table.flights.length =
      s.table.flights.length + ((s.table.claim k p).1.guard? k).toList.length := by
  obtain ⟨f', hf', hk, hclaim⟩ | ⟨f', a, hf', hk, hp, hclaim⟩ | ⟨free, old, hclaim⟩ :=
    s.table.claim_cases k p
  · rw [claim_of_follow hclaim, hclaim]
    rfl
  · rw [claim_of_follow hclaim, hclaim]
    rfl
  · rw [claim_of_lead hclaim, hclaim]
    exact FlightTable.length_launch

omit [DecidableEq κ] in
theorem length_flights_close (s : Session κ α) (n : Nat) (v : Option α → Option α) :
    (s.close n v).table.flights.length = s.table.flights.length := by
  cases hg : s.guard? n with
  | none => rw [close_of_none hg]
  | some g =>
    rw [close_of_guard hg]
    exact FlightTable.length_settle

theorem length_flights_step (s : Session κ α) (d : Deed κ α) :
    (s.step d).2.table.flights.length =
      s.table.flights.length + (s.opens? d).toList.length := by
  cases d with
  | claim k p => exact length_flights_claim s k p
  | enter k p => exact length_flights_claim s k p
  | peek k => rfl
  | complete n a =>
    rw [step, complete_eq_close]
    exact length_flights_close s n _
  | drop n =>
    rw [step, drop_eq_close]
    exact length_flights_close s n _
  | resolve k p answer =>
    rw [step_resolve_eq_close, length_flights_close]
    exact length_flights_claim s k p

theorem exists_opens_of_lt (ds : List (Deed κ α)) (hf : f < (ofDeeds ds).table.flights.length) :
    ∃ before d later g, ds = before ++ d :: later ∧ (ofDeeds before).opens? d = some g ∧
      g.flight = f := by
  induction ds using List.reverseRecOn with
  | nil => exact absurd hf (Nat.not_lt_zero f)
  | append_singleton ds x ih =>
    rw [ofDeeds_concat, length_flights_step] at hf
    by_cases hlt : f < (ofDeeds ds).table.flights.length
    · obtain ⟨before, d, later, g, rfl, hopen, hg⟩ := ih hlt
      exact ⟨before, d, later ++ [x], g, by simp, hopen, hg⟩
    · -- it has the number that the last deed gave out
      cases hopen : (ofDeeds ds).opens? x with
      | none =>
        rw [hopen] at hf
        exact absurd hf hlt
      | some g =>
        rw [hopen] at hf
        obtain ⟨k, p, -, rfl, -⟩ := guard_of_opens hopen
        refine ⟨ds, x, [], _, rfl, hopen, ?_⟩
        simp only [Option.toList_some, List.length_singleton] at hf
        show (ofDeeds ds).table.flights.length = f
        omega

/-! ## What is told -/

theorem Fares.poll {fate : Option (Option α)} (h : s.Fares n g fate) (hs : s.Sound values) :
    s.table.poll g.flight = fate := by
  rw [FlightTable.poll, (h.flight hs).2]
  cases fate with
  | none => rfl
  | some v => exact Flight.outcome?_restored v

theorem Fares.pending_iff {fate : Option (Option α)} (h : s.Fares n g fate) (hs : s.Sound values) :
    s.table.flight g.flight = .pending ↔ fate = none := by
  rw [(h.flight hs).2]
  cases fate with
  | none => simp
  | some v => simpa using Flight.restored_ne_pending v

/-- Only the caller of a guard ends it, and is told so. -/
theorem reply_of_endOf (hg : s.guard? n = some g) (hend : d.endOf? n g.previous = some v) :
    (d = .drop n ∧ v = g.previous ∧ (s.step d).1 = .dropped) ∨
      ∃ a, d = .complete n a ∧ v = some a ∧ (s.step d).1 = .completed a := by
  cases d with
  | complete m a =>
    obtain ⟨rfl, ha⟩ := Option.ite_none_right_eq_some.1 hend
    exact Or.inr ⟨a, rfl, (Option.some.inj ha).symm, by simp [step, hg]⟩
  | drop m =>
    obtain ⟨rfl, hv⟩ := Option.ite_none_right_eq_some.1 hend
    exact Or.inl ⟨rfl, (Option.some.inj hv).symm, by simp [step, hg]⟩
  | claim k p => cases hend
  | enter k p => cases hend
  | peek k => cases hend
  | resolve k p answer => cases hend

/-- A resolve that starts a flight is handed the value that its flight replaces. -/
theorem reply_of_opens {answer : Option α} (h : s.opens? (.resolve k p answer) = some g) :
    ∃ asked, (s.step (.resolve k p answer)).1 =
      .resolved asked (some g.previous) (answer.map some) := by
  refine ⟨s.table.asked k p, ?_⟩
  rw [step_resolve_reply]
  rcases hclaim : s.table.claim k p with ⟨⟨f, prev⟩ | f, t⟩
  · simp only [opens?, Deed.claims?, Option.bind_some, hclaim, Claim.guard?, Option.some.injEq] at h
    rw [← h]
    rfl
  · simp [opens?, Deed.claims?, hclaim, Claim.guard?] at h

theorem lt_length_of_follow (h : (s.table.claim k p).1 = .follow f) :
    f < s.table.flights.length := by
  have hknown : s.table.flight f ≠ .abandoned → f < s.table.flights.length := by
    intro hne
    by_contra hge
    rw [FlightTable.flight, List.getElem?_eq_none (Nat.le_of_not_lt hge)] at hne
    exact hne rfl
  obtain ⟨f', hf', hk, hclaim⟩ | ⟨f', a, hf', hk, hp, hclaim⟩ | ⟨free, old, hclaim⟩ :=
    s.table.claim_cases k p
  · rw [hclaim] at h
    cases h
    exact hknown (by simp [hf'])
  · rw [hclaim] at h
    cases h
    exact hknown (by simp [hf'])
  · rw [hclaim] at h
    cases h

/-- What is seen of the flight of the guard `g`, which `d` started after `before`, once the deeds
`later` are done too. It is pending until its guard ends, all who wait for it are told the same, and
once settled it stays so. Its caller is told what it is settled on: the value that it completes the
guard with, or the value that the flight had replaced. A resolve that does not stay is handed that
value, and returns what the flight is settled on. -/
structure Agrees (before : List (Deed κ α)) (d : Deed κ α) (later : List (Deed κ α))
    (g : Guard κ α) (fate : Option (Option α)) : Prop where
  pending_iff : (ofDeeds (before ++ d :: later)).table.flight g.flight = .pending ↔ fate = none
  poll_eq : (ofDeeds (before ++ d :: later)).table.poll g.flight = fate
  stays : fate ≠ none → ∀ more, (ofDeeds (before ++ d :: later ++ more)).table.flight g.flight =
    (ofDeeds (before ++ d :: later)).table.flight g.flight
  ended : ∀ mid x rest v, later = mid ++ x :: rest →
    (ofDeeds (before ++ d :: mid)).table.flight g.flight = .pending →
    (ofDeeds (before ++ d :: mid ++ [x])).table.poll g.flight = some v →
    (x = .drop (ofDeeds before).guards.length ∧ v = g.previous ∧
        ((ofDeeds (before ++ d :: mid)).step x).1 = .dropped) ∨
      ∃ a, x = .complete (ofDeeds before).guards.length a ∧ v = some a ∧
        ((ofDeeds (before ++ d :: mid)).step x).1 = .completed a
  resolved : ∀ k p answer, d = .resolve k p answer → fate = some (answer.or g.previous) ∧
    ∃ asked, ((ofDeeds before).step d).1 = .resolved asked (some g.previous) (answer.map some)

theorem agrees {before : List (Deed κ α)} (h : (ofDeeds before).opens? d = some g)
    (later : List (Deed κ α)) :
    Agrees before d later g (Deed.fate? (ofDeeds before).guards.length g.previous d later) := by
  have hfares := fares_ofDeeds h
  obtain ⟨values, hs⟩ := sound_ofDeeds (before ++ d :: later)
  refine ⟨(hfares later).pending_iff hs, (hfares later).poll hs, ?_, ?_, ?_⟩
  · intro hfate more
    obtain ⟨v, hv⟩ := Option.ne_none_iff_exists'.1 hfate
    obtain ⟨values', hs'⟩ := sound_ofDeeds (before ++ d :: (later ++ more))
    have hmore := ((hfares (later ++ more)).flight hs').2
    rw [Deed.fate?_append, hv, Option.some_or, ← hv] at hmore
    rw [List.append_assoc, List.cons_append, hmore, ((hfares later).flight hs).2]
  · intro mid x rest v hlater hpending htold
    obtain ⟨values', hs'⟩ := sound_ofDeeds (before ++ d :: mid)
    have hnone := ((hfares mid).pending_iff hs').1 hpending
    have hguard := hfares mid
    rw [hnone] at hguard
    obtain ⟨values'', hs''⟩ := sound_ofDeeds (before ++ d :: (mid ++ [x]))
    have hend := (hfares (mid ++ [x])).poll hs''
    rw [Deed.fate?_append, hnone, Option.none_or, Deed.findSome?_singleton, ← List.cons_append,
      ← List.append_assoc, htold] at hend
    exact reply_of_endOf hguard hend.symm
  · rintro k p answer rfl
    exact ⟨rfl, reply_of_opens h⟩

/-- **A flight settles once, and everyone agrees.** -/
theorem flight_settles_once (ds : List (Deed κ α)) :
    (∀ f, f < (ofDeeds ds).table.flights.length ↔
      ∃ before d later g, ds = before ++ d :: later ∧ (ofDeeds before).opens? d = some g ∧
        g.flight = f) ∧
    (∀ k p f, ((ofDeeds ds).table.claim k p).1 = .follow f →
      f < (ofDeeds ds).table.flights.length) ∧
    ∀ before d later g, ds = before ++ d :: later → (ofDeeds before).opens? d = some g →
      Agrees before d later g (Deed.fate? (ofDeeds before).guards.length g.previous d later) := by
  refine ⟨?_, fun k p f => lt_length_of_follow, ?_⟩
  · intro f
    constructor
    · exact exists_opens_of_lt ds
    · rintro ⟨before, d, later, g, rfl, hopen, rfl⟩
      obtain ⟨values, hs⟩ := sound_ofDeeds (before ++ d :: later)
      exact ((fares_ofDeeds hopen later).flight hs).1
  · rintro before d later g rfl hopen
    exact agrees hopen later

/-- The second flight is given up while somebody waits for it. The wait comes to the value of the
first flight, also when a third flight has replaced both. -/
example :
    (ofDeeds [.claim 'k' fun _ => true, .complete 0 5, .claim 'k' fun _ => true,
      .claim 'k' fun _ => true, .drop 1, .resolve 'k' (fun _ => true) (some 7)]).table.poll 1 =
      some (some 5) := by
  decide

end

end Session

end SchemaCatalog
