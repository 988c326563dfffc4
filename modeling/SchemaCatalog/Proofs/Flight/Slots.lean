import SchemaCatalog.Proofs.Flight.Session

/-!
# Two fields for each key

A table answers as if it held two things about a key only: whether a guard of it is open, and the
value of its latest completion.

* `Slot`, `Ledger`: the two fields of a key; the fields of all keys, with the keys of the guards
  that are open.
* `Ledger.step`: what a deed leads to. It touches the fields of its own key alone.
* `Session.Mirrors`: a session and a ledger hold the same.
* **`Session.replies_eq`**: every list of deeds is answered alike.
-/

namespace SchemaCatalog

open Function (update)

variable {κ α : Type}

/-- What is held about a key: whether a guard of it is neither completed nor dropped, and the value
of the latest completion. -/
structure Slot (α : Type) where
  isOpen : Bool
  last : Option α

/-- What is held about all keys, and the key of the guard that each caller holds, if it holds one.
-/
structure Ledger (κ α : Type) where
  slots : κ → Slot α
  guards : List (Option κ)

namespace Ledger

def empty : Ledger κ α := ⟨fun _ => ⟨false, none⟩, []⟩

def guard? (m : Ledger κ α) (n : Nat) : Option κ := m.guards[n]?.join

/-- The value of a key, unless it is open. -/
def peek (m : Ledger κ α) (k : κ) : Option α :=
  if (m.slots k).isOpen then none else (m.slots k).last

section

variable [DecidableEq κ]

/-- Opens `k` for the next caller. -/
def opened (m : Ledger κ α) (k : κ) : Ledger κ α :=
  ⟨update m.slots k ⟨true, (m.slots k).last⟩, m.guards ++ [some k]⟩

/-- The next caller gets no guard. -/
def passed (m : Ledger κ α) : Ledger κ α := ⟨m.slots, m.guards ++ [none]⟩

/-- The next caller claims `k`. It is told what its predicate was asked, and its part. -/
def claim (m : Ledger κ α) (k : κ) (p : α → Bool) : (List α × Role α) × Ledger κ α :=
  match m.slots k with
  | ⟨true, _⟩ => (([], .follows none), m.passed)
  | ⟨false, none⟩ => (([], .leads none), m.opened k)
  | ⟨false, some v⟩ =>
    if p v then (([v], .leads (some v)), m.opened k) else (([v], .follows (some v)), m.passed)

def complete (m : Ledger κ α) (n : Nat) (a : α) : Ledger κ α :=
  match m.guard? n with
  | some k => ⟨update m.slots k ⟨false, some a⟩, m.guards.set n none⟩
  | none => m

def drop (m : Ledger κ α) (n : Nat) : Ledger κ α :=
  match m.guard? n with
  | some k => ⟨update m.slots k ⟨false, (m.slots k).last⟩, m.guards.set n none⟩
  | none => m

/-- What a deed leads to. A resolve runs its fetch if it leads, and hands it the value that is
replaced; if it goes away before the fetch ends, its guard is dropped. -/
def step (m : Ledger κ α) : Deed κ α → Deed.Reply α × Ledger κ α
  | .claim k p => (.claimed (m.claim k p).1.1 (m.claim k p).1.2, (m.claim k p).2)
  | .complete n a => (if (m.guard? n).isSome then .completed a else .refused, m.complete n a)
  | .drop n => (if (m.guard? n).isSome then .dropped else .refused, m.drop n)
  | .peek k => (.peeked (m.peek k), m)
  | .resolve k p answer =>
    (.resolved (m.claim k p).1.1 (m.claim k p).1.2.fetched ((m.claim k p).1.2.outcome answer),
      match answer with
      | some a => (m.claim k p).2.complete m.guards.length a
      | none => (m.claim k p).2.drop m.guards.length)
  | .enter k p =>
    (.resolved (m.claim k p).1.1 (m.claim k p).1.2.fetched ((m.claim k p).1.2.outcome none),
      (m.claim k p).2)

def after (m : Ledger κ α) (ds : List (Deed κ α)) : Ledger κ α :=
  ds.foldl (fun m d => (m.step d).2) m

def replies (m : Ledger κ α) : List (Deed κ α) → List (Deed.Reply α)
  | [] => []
  | d :: ds => (m.step d).1 :: (m.step d).2.replies ds

theorem claim_of_open {m : Ledger κ α} {k : κ} {p : α → Bool} {v : Option α}
    (h : m.slots k = ⟨true, v⟩) : m.claim k p = (([], .follows none), m.passed) := by
  rw [claim, h]

theorem claim_of_kept {m : Ledger κ α} {k : κ} {p : α → Bool} {v : α}
    (h : m.slots k = ⟨false, some v⟩) (hp : p v = false) :
    m.claim k p = (([v], .follows (some v)), m.passed) := by
  rw [claim, h]
  simp [hp]

theorem claim_of_free {m : Ledger κ α} {k : κ} {p : α → Bool} {v : Option α}
    (h : m.slots k = ⟨false, v⟩) (hp : ∀ a, v = some a → p a = true) :
    m.claim k p = ((v.toList, .leads v), m.opened k) := by
  cases v with
  | none =>
    rw [claim, h]
    rfl
  | some v =>
    rw [claim, h]
    simp [hp v rfl]

end

end Ledger

namespace Session

variable [DecidableEq κ] {s : Session κ α} {m : Ledger κ α} {values : κ → List α} {k : κ} {n : Nat}
  {g : Guard κ α}

/-- A session and a ledger hold the same, once the keys came to these values. -/
structure Mirrors (values : κ → List α) (s : Session κ α) (m : Ledger κ α) : Prop where
  sound : s.Sound values
  guards : m.guards = s.guards.map (Option.map Guard.key)
  slots : ∀ k, m.slots k = ⟨(s.table.standing k).isPending, (values k).getLast?⟩

theorem mirrors_empty : Mirrors (fun _ => []) (empty : Session κ α) .empty where
  sound := sound_empty
  guards := rfl
  slots _ := rfl

namespace Mirrors

theorem length_guards (h : Mirrors values s m) : m.guards.length = s.guards.length := by
  rw [h.guards, List.length_map]

theorem guard? (h : Mirrors values s m) (n : Nat) : m.guard? n = (s.guard? n).map Guard.key := by
  rw [Ledger.guard?, Session.guard?, h.guards, List.getElem?_map]
  cases s.guards[n]? <;> rfl

theorem slots_of_pending (h : Mirrors values s m) (hk : s.table.standing k = .pending) :
    m.slots k = ⟨true, (values k).getLast?⟩ := by
  rw [h.slots, hk]
  rfl

theorem slots_of_free (h : Mirrors values s m) (hk : s.table.standing k ≠ .pending) :
    m.slots k = ⟨false, (s.table.standing k).value?⟩ := by
  rw [h.slots, Traffic.Sound.value?_standing h.sound hk]
  cases hs : s.table.standing k with
  | pending => exact absurd hs hk
  | ready a => rfl
  | abandoned => rfl

theorem peek (h : Mirrors values s m) (k : κ) : m.peek k = s.table.peek k := by
  rw [FlightTable.peek_eq, Ledger.peek]
  by_cases hk : s.table.standing k = .pending
  · rw [h.slots_of_pending hk, hk]
    rfl
  · rw [h.slots_of_free hk]
    rfl

theorem passed (h : Mirrors values s m) (hs : Sound values ⟨s.table, s.guards ++ [none]⟩) :
    Mirrors values ⟨s.table, s.guards ++ [none]⟩ m.passed where
  sound := hs
  guards := by
    rw [Ledger.passed, h.guards, List.map_append]
    rfl
  slots := h.slots

theorem opened (h : Mirrors values s m) {f : Nat} {prev : Option α}
    (hs : Sound values ⟨s.table.launch k, s.guards ++ [some ⟨k, f, prev⟩]⟩) :
    Mirrors values ⟨s.table.launch k, s.guards ++ [some ⟨k, f, prev⟩]⟩ (m.opened k) where
  sound := hs
  guards := by
    rw [Ledger.opened, h.guards, List.map_append]
    rfl
  slots k' := by
    show update m.slots k _ k' = _
    rw [Function.update_apply]
    split
    · next hk =>
      rw [hk, FlightTable.standing_launch_self, h.slots]
      rfl
    · next hk =>
      rw [h.sound.lawful.standing_launch_of_ne hk]
      exact h.slots k'

theorem claim (h : Mirrors values s m) (k : κ) (p : α → Bool) :
    (m.claim k p).1 = (s.table.asked k p, (s.table.claim k p).1.role s.table) ∧
      Mirrors values (s.claim k p) (m.claim k p).2 := by
  have hsound := h.sound.claim k p
  rw [FlightTable.asked_eq]
  obtain ⟨f, hf, hk, hclaim⟩ | ⟨f, a, hf, hk, hp, hclaim⟩ | ⟨free, old, hclaim⟩ :=
    s.table.claim_cases k p
  · rw [claim_of_follow hclaim] at hsound ⊢
    rw [Ledger.claim_of_open (h.slots_of_pending hk), hclaim, hk, Claim.role, hf]
    exact ⟨rfl, h.passed hsound⟩
  · have hslot := h.slots_of_free (k := k) (by simp [hk])
    rw [hk] at hslot
    rw [claim_of_follow hclaim] at hsound ⊢
    rw [Ledger.claim_of_kept hslot hp, hclaim, hk, Claim.role, hf]
    exact ⟨rfl, h.passed hsound⟩
  · have hold : ∀ a, (s.table.standing k).value? = some a → p a = true :=
      fun a ha => old a (Flight.value?_eq_some.1 ha)
    rw [claim_of_lead hclaim] at hsound ⊢
    rw [Ledger.claim_of_free (h.slots_of_free free) hold, hclaim, ← FlightTable.peek_eq]
    exact ⟨rfl, h.opened hsound⟩

/-- A guard ends alike: its key is closed, and stands at the last of its values. -/
theorem settle (h : Mirrors values s m) (hg : s.guard? n = some g) {st : Flight α} {v : Option α}
    {values' : κ → List α} (hst : st ≠ .pending)
    (hs : Sound values' ⟨s.table.settle g.flight st, s.guards.set n none⟩)
    (hv : ∀ k, (values' k).getLast? = if k = g.key then v else (values k).getLast?) :
    Mirrors values' ⟨s.table.settle g.flight st, s.guards.set n none⟩
      ⟨update m.slots g.key ⟨false, v⟩, m.guards.set n none⟩ where
  sound := hs
  guards := by rw [h.guards, List.map_set, Option.map_none]
  slots k := by
    have hc := h.sound.lead_current n g.key g.flight g.previous (part_of_guard hg)
    show update m.slots g.key _ k = _
    rw [Function.update_apply, hv]
    split
    · next hk =>
      rw [hk, h.sound.lawful.standing_settle_self hc]
      cases st with
      | pending => exact absurd rfl hst
      | ready a => rfl
      | abandoned => rfl
    · next hk =>
      rw [h.sound.lawful.standing_settle_of_ne hc hk]
      exact h.slots k

theorem complete (h : Mirrors values s m) (n : Nat) (a : α) :
    ∃ values', Mirrors values' (s.complete n a) (m.complete n a) := by
  have hguard := h.guard? n
  cases hg : s.guard? n with
  | none =>
    rw [hg, Option.map_none] at hguard
    rw [complete_of_none hg, Ledger.complete, hguard]
    exact ⟨values, h⟩
  | some g =>
    have hsound := h.sound.complete hg a
    rw [hg, Option.map_some] at hguard
    rw [complete_of_guard hg] at hsound ⊢
    rw [Ledger.complete, hguard]
    refine ⟨_, h.settle hg nofun hsound ?_⟩
    intro k
    rw [Function.update_apply]
    split
    · exact List.getLast?_concat
    · rfl

theorem drop (h : Mirrors values s m) (n : Nat) : Mirrors values (s.drop n) (m.drop n) := by
  have hguard := h.guard? n
  cases hg : s.guard? n with
  | none =>
    rw [hg, Option.map_none] at hguard
    rw [drop_of_none hg, Ledger.drop, hguard]
    exact h
  | some g =>
    have hsound := h.sound.drop n
    rw [hg, Option.map_some] at hguard
    rw [drop_of_guard hg] at hsound ⊢
    rw [Ledger.drop, hguard]
    refine h.settle hg ?_ hsound ?_
    · cases g.previous <;> exact nofun
    · intro k
      rw [h.slots]
      split
      · next hk => rw [hk]
      · rfl

/-- **A deed is answered alike**, and leaves a session and a ledger that hold the same. -/
theorem step (h : Mirrors values s m) (d : Deed κ α) :
    (s.step d).1 = (m.step d).1 ∧ ∃ values', Mirrors values' (s.step d).2 (m.step d).2 := by
  cases d with
  | claim k p =>
    obtain ⟨hreply, hnext⟩ := h.claim k p
    rw [Ledger.step, hreply]
    exact ⟨rfl, values, hnext⟩
  | complete n a =>
    rw [Session.step, Ledger.step, h.guard? n, Option.isSome_map]
    exact ⟨rfl, h.complete n a⟩
  | drop n =>
    rw [Session.step, Ledger.step, h.guard? n, Option.isSome_map]
    exact ⟨rfl, values, h.drop n⟩
  | peek k =>
    rw [Session.step, Ledger.step, h.peek k]
    exact ⟨rfl, values, h⟩
  | enter k p =>
    obtain ⟨hreply, hnext⟩ := h.claim k p
    rw [Ledger.step, hreply]
    exact ⟨rfl, values, hnext⟩
  | resolve k p answer =>
    obtain ⟨hreply, hnext⟩ := h.claim k p
    cases answer with
    | some a =>
      rw [step_resolve_reply, step_resolve_some, Ledger.step, hreply, ← h.length_guards]
      exact ⟨rfl, hnext.complete m.guards.length a⟩
    | none =>
      rw [step_resolve_reply, step_resolve_none, Ledger.step, hreply, ← h.length_guards]
      exact ⟨rfl, values, hnext.drop m.guards.length⟩

theorem replies (h : Mirrors values s m) (ds : List (Deed κ α)) : s.replies ds = m.replies ds := by
  induction ds generalizing s m values with
  | nil => rfl
  | cons d ds ih =>
    obtain ⟨hreply, values', hnext⟩ := h.step d
    rw [Session.replies, Ledger.replies, hreply, ih hnext]

theorem after (h : Mirrors values s m) (ds : List (Deed κ α)) :
    ∃ values', Mirrors values' (s.after ds) (m.after ds) := by
  induction ds generalizing s m values with
  | nil => exact ⟨values, h⟩
  | cons d ds ih =>
    obtain ⟨-, values', hnext⟩ := h.step d
    exact ih hnext

theorem isOpen_iff (h : Mirrors values s m) (k : κ) :
    (m.slots k).isOpen = true ↔ some k ∈ m.guards := by
  have hpending : (m.slots k).isOpen = true ↔ s.table.standing k = .pending := by
    rw [h.slots]
    cases s.table.standing k <;> simp [Flight.isPending]
  rw [hpending, h.guards, List.mem_map]
  constructor
  · intro hk
    obtain ⟨n, f, prev, hp⟩ := Traffic.Sound.exists_lead h.sound hk
    exact ⟨_, mem_guards_iff.2 ⟨n, guard_of_part hp⟩, rfl⟩
  · rintro ⟨x, hx, hk⟩
    obtain ⟨g, rfl, rfl⟩ := Option.map_eq_some_iff.1 hk
    obtain ⟨n, hg⟩ := mem_guards_iff.1 hx
    exact Traffic.Sound.standing_of_lead h.sound (part_of_guard hg)

end Mirrors

/-- **A table answers as if each key had two fields only.** -/
theorem replies_eq (ds : List (Deed κ α)) :
    (empty : Session κ α).replies ds = (Ledger.empty : Ledger κ α).replies ds ∧
      ∀ k, (((Ledger.empty : Ledger κ α).after ds).slots k).isOpen = true ↔
        some k ∈ ((Ledger.empty : Ledger κ α).after ds).guards := by
  obtain ⟨values, h⟩ := mirrors_empty.after ds
  exact ⟨mirrors_empty.replies ds, h.isOpen_iff⟩

end Session

end SchemaCatalog
