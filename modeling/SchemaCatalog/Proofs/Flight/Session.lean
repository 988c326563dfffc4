import SchemaCatalog.Proofs.Flight.Traffic

/-!
# A table in use

All that can be done with a table, one deed after the other, with what it is answered.

* `FlightTable.claimWith`, `FlightTable.asked`: a claim whose predicate may have effects, and what
  it asks.
* `Guard`: what a leader holds. `Deed`, `Deed.Reply`: what is done, and what is told.
* `Session`: a table with the guards of its leaders. `Session.step`: what a deed leads to.
* `Session.step_resolve_some`, `Session.step_resolve_none`: a resolve is a claim, followed by the
  end of its guard.
* **`Session.Sound.claim`**, **`Session.Sound.complete`**, **`Session.Sound.drop`**: flights and
  guards fit together after every deed.
-/

namespace SchemaCatalog

open Function (update)

variable {κ α : Type}

/-! ## What a claim asks -/

namespace FlightTable

section

variable [DecidableEq κ]

/-- A claim whose predicate may have effects. -/
def claimWith {m : Type → Type} [Monad m] (t : FlightTable κ α) (k : κ)
    (replaceable : α → m Bool) : m (Claim α × FlightTable κ α) :=
  match t.current? k with
  | none => pure (.lead t.flights.length none, t.launch k)
  | some f =>
    match t.flight f with
    | .pending => pure (.follow f, t)
    | .abandoned => pure (.lead t.flights.length none, t.launch k)
    | .ready a => do
      if ← replaceable a then pure (.lead t.flights.length (some a), t.launch k)
      else pure (.follow f, t)

/-- A predicate that notes what it is asked. -/
def noting (p : α → Bool) (a : α) : StateM (List α) Bool := do
  modify (· ++ [a])
  return p a

/-- The values about which a claim of `k` asks its predicate. -/
def asked (t : FlightTable κ α) (k : κ) (p : α → Bool) : List α :=
  ((t.claimWith k (noting p)).run []).2

/-- The predicate is asked about the consulted value, if there is one, and about no other. -/
theorem run_claimWith_noting (t : FlightTable κ α) (k : κ) (p : α → Bool) (log : List α) :
    (t.claimWith k (noting p)).run log = pure (t.claim k p, log ++ (t.consulted k).toList) := by
  unfold claimWith claim consulted peek
  cases hc : t.current? k with
  | none => simp
  | some f =>
    cases hf : t.flight f with
    | pending => simp [hf, Flight.value?]
    | abandoned => simp [hf, Flight.value?]
    | ready a => cases hp : p a <;> simp [hf, hp, noting, Flight.value?]

theorem peek_eq (t : FlightTable κ α) (k : κ) : t.peek k = (t.standing k).value? := by
  unfold peek standing
  cases t.current? k <;> rfl

theorem asked_eq (t : FlightTable κ α) (k : κ) (p : α → Bool) :
    t.asked k p = (t.standing k).value?.toList := by
  rw [asked, run_claimWith_noting, ← peek_eq]
  exact List.nil_append _

theorem claim_cases (t : FlightTable κ α) (k : κ) (p : α → Bool) :
    (∃ f, t.flight f = .pending ∧ t.standing k = .pending ∧ t.claim k p = (.follow f, t)) ∨
    (∃ f a, t.flight f = .ready a ∧ t.standing k = .ready a ∧ p a = false ∧
      t.claim k p = (.follow f, t)) ∨
    (t.standing k ≠ .pending ∧ (∀ a, t.standing k = .ready a → p a = true) ∧
      t.claim k p = (.lead t.flights.length (t.peek k), t.launch k)) := by
  rw [peek_eq]
  cases hs : t.standing k with
  | pending =>
    obtain ⟨f, hc, hf⟩ := exists_current_of_standing (t := t) (k := k) (by simp [hs])
    rw [hs] at hf
    exact Or.inl ⟨f, hf, rfl, claim_of_pending hc hf⟩
  | ready a =>
    cases hp : p a with
    | false =>
      obtain ⟨f, hc, hf⟩ := exists_current_of_standing (t := t) (k := k) (by simp [hs])
      rw [hs] at hf
      exact Or.inr (Or.inl ⟨f, a, hf, rfl, hp, claim_of_kept hc hf hp⟩)
    | true =>
      have hold : ∀ b, t.standing k = .ready b → p b = true := by
        intro b hb
        rw [hs] at hb
        cases hb
        exact hp
      have hclaim := claim_of_free (by simp [hs]) hold
      rw [hs] at hclaim hold
      exact Or.inr (Or.inr ⟨by simp, hold, hclaim⟩)
  | abandoned =>
    have hold : ∀ b, t.standing k = .ready b → p b = true := by
      intro b hb
      rw [hs] at hb
      cases hb
    have hclaim := claim_of_free (by simp [hs]) hold
    rw [hs] at hclaim hold
    exact Or.inr (Or.inr ⟨by simp, hold, hclaim⟩)

end

end FlightTable

/-! ## Deeds -/

/-- What a leader holds: the key and the number of its flight, and the value that this replaces. -/
structure Guard (κ α : Type) where
  key : κ
  flight : Nat
  previous : Option α

/-- The part of a leader. -/
def Guard.part (g : Guard κ α) : Part κ α := .lead g.key g.flight g.previous

/-- A guard goes away. Unless its flight is done, the flight falls back to the value that it had
replaced. -/
def FlightTable.release (t : FlightTable κ α) (g : Guard κ α) (done : Bool) : FlightTable κ α :=
  if done then t else t.cancel g.flight g.previous

/-- What can be done with a table. Callers are numbered in the order in which they claim. Who claims
keeps a guard if it leads, and completes or drops that. Who resolves does not stay: if it leads, its
fetch ends with `answer` at once, or it goes away while the fetch runs. Who enters resolves and
stays, so its fetch runs on. -/
inductive Deed (κ α : Type)
  | claim (k : κ) (replaceable : α → Bool)
  | complete (caller : Nat) (a : α)
  | drop (caller : Nat)
  | peek (k : κ)
  | resolve (k : κ) (replaceable : α → Bool) (answer : Option α)
  | enter (k : κ) (replaceable : α → Bool)

/-- The part that a claim gives: to lead a flight that replaces `previous`, or to follow one that
has `value` by now. -/
inductive Role (α : Type)
  | leads (previous : Option α)
  | follows (value : Option α)
  deriving DecidableEq

/-- What a caller is told. A claim or a resolve has asked the predicate about `asked`; a resolve ran
a fetch that was handed `fetched`, if it ran any, and came to `outcome`, if it is over. Who holds no
guard is refused. -/
inductive Deed.Reply (α : Type)
  | claimed (asked : List α) (role : Role α)
  | completed (a : α)
  | dropped
  | peeked (value : Option α)
  | resolved (asked : List α) (fetched : Option (Option α)) (outcome : Option (Option α))
  | refused
  deriving DecidableEq

namespace Role

/-- What a fetch is handed, if one runs. -/
def fetched : Role α → Option (Option α)
  | leads previous => some previous
  | follows _ => none

/-- What a resolve comes to whose fetch ends with `answer`, if it does. -/
def outcome (answer : Option α) : Role α → Option (Option α)
  | leads _ => answer.map some
  | follows value => value.map some

end Role

/-- The part that a claim gives, as the caller sees it in the table `t`. -/
def Claim.role (t : FlightTable κ α) : Claim α → Role α
  | .lead _ previous => .leads previous
  | .follow f => .follows (t.flight f).value?

/-- The guard that a claim of `k` gives. -/
def Claim.guard? (k : κ) : Claim α → Option (Guard κ α)
  | .lead f previous => some ⟨k, f, previous⟩
  | .follow _ => none

/-! ## Sessions -/

/-- A table with the guard that each caller holds, in the order of the claims; nothing for a caller
that has none any more. -/
structure Session (κ α : Type) where
  table : FlightTable κ α
  guards : List (Option (Guard κ α))

namespace Session

variable {s : Session κ α} {k : κ} {n : Nat} {g : Guard κ α} {a : α} {p : α → Bool}
  {values : κ → List α}

def empty : Session κ α := ⟨.empty, []⟩

def guard? (s : Session κ α) (n : Nat) : Option (Guard κ α) := s.guards[n]?.join

def complete (s : Session κ α) (n : Nat) (a : α) : Session κ α :=
  match s.guard? n with
  | some g => ⟨(s.table.complete g.flight a).release g true, s.guards.set n none⟩
  | none => s

def drop (s : Session κ α) (n : Nat) : Session κ α :=
  match s.guard? n with
  | some g => ⟨s.table.release g false, s.guards.set n none⟩
  | none => s

/-- The part of each caller. -/
def part (s : Session κ α) (n : Nat) : Option (Part κ α) := (s.guard? n).map Guard.part

/-! ## Guards -/

theorem guard?_concat (t : FlightTable κ α) (s : Session κ α) (g : Option (Guard κ α)) :
    guard? ⟨t, s.guards ++ [g]⟩ = update s.guard? s.guards.length g := by
  funext n
  rw [Function.update_apply, guard?]
  obtain hn | rfl | hn := Nat.lt_trichotomy n s.guards.length
  · rw [List.getElem?_append_left hn, if_neg (by omega), guard?]
  · rw [List.getElem?_concat_length, if_pos rfl]
    rfl
  · rw [if_neg (by omega), guard?, List.getElem?_eq_none (by simp; omega),
      List.getElem?_eq_none (Nat.le_of_lt hn)]

theorem guard?_set (t : FlightTable κ α) (s : Session κ α) (n : Nat) :
    guard? ⟨t, s.guards.set n none⟩ = update s.guard? n none := by
  funext n'
  rw [Function.update_apply, guard?, guard?, List.getElem?_set]
  by_cases hn : n' = n
  · subst hn
    rw [if_pos rfl, if_pos rfl]
    split <;> rfl
  · rw [if_neg (Ne.symm hn), if_neg hn]

theorem guard?_length (s : Session κ α) : s.guard? s.guards.length = none := by
  rw [guard?, List.getElem?_eq_none (Nat.le_refl _)]
  rfl

theorem part_of_guard (hg : s.guard? n = some g) :
    s.part n = some (.lead g.key g.flight g.previous) := by
  rw [part, hg]
  rfl

theorem guard_of_part {f : Nat} {prev : Option α} (h : s.part n = some (.lead k f prev)) :
    s.guard? n = some ⟨k, f, prev⟩ := by
  obtain ⟨g, hg, hpart⟩ := Option.map_eq_some_iff.1 h
  rw [Guard.part, Part.lead.injEq] at hpart
  obtain ⟨rfl, rfl, rfl⟩ := hpart
  exact hg

theorem mem_guards_iff : some g ∈ s.guards ↔ ∃ n, s.guard? n = some g := by
  simp only [List.mem_iff_getElem?, guard?, Option.join_eq_some_iff]

theorem part_concat (t : FlightTable κ α) (s : Session κ α) (g : Option (Guard κ α)) :
    part ⟨t, s.guards ++ [g]⟩ = update s.part s.guards.length (g.map Guard.part) := by
  funext n
  rw [part, guard?_concat, Function.update_apply, Function.update_apply]
  split <;> rfl

theorem part_set (t : FlightTable κ α) (s : Session κ α) (n : Nat) :
    part ⟨t, s.guards.set n none⟩ = update s.part n none := by
  funext n'
  rw [part, guard?_set, Function.update_apply, Function.update_apply]
  split <;> rfl

theorem part_length (s : Session κ α) : s.part s.guards.length = none := by
  rw [part, guard?_length]
  rfl

theorem complete_of_none (h : s.guard? n = none) : s.complete n a = s := by
  rw [complete, h]

theorem complete_of_guard (h : s.guard? n = some g) :
    s.complete n a = ⟨s.table.complete g.flight a, s.guards.set n none⟩ := by
  rw [complete, h]
  rfl

theorem drop_of_none (h : s.guard? n = none) : s.drop n = s := by
  rw [drop, h]

theorem drop_of_guard (h : s.guard? n = some g) :
    s.drop n = ⟨s.table.cancel g.flight g.previous, s.guards.set n none⟩ := by
  rw [drop, h]
  rfl

/-! ## Steps -/

section

variable [DecidableEq κ]

/-- The next caller claims `k`. -/
def claim (s : Session κ α) (k : κ) (p : α → Bool) : Session κ α :=
  ⟨(s.table.claim k p).2, s.guards ++ [(s.table.claim k p).1.guard? k]⟩

def step (s : Session κ α) : Deed κ α → Deed.Reply α × Session κ α
  | .claim k p =>
    (.claimed (s.table.asked k p) ((s.table.claim k p).1.role s.table), s.claim k p)
  | .complete n a => (if (s.guard? n).isSome then .completed a else .refused, s.complete n a)
  | .drop n => (if (s.guard? n).isSome then .dropped else .refused, s.drop n)
  | .peek k => (.peeked (s.table.peek k), s)
  | .resolve k p answer =>
    let (r, t) := s.table.resolve k p answer
    (.resolved (s.table.asked k p) (if r.led then some r.previous else none) r.outcome,
      ⟨t, s.guards ++ [none]⟩)
  | .enter k p =>
    let role := (s.table.claim k p).1.role s.table
    (.resolved (s.table.asked k p) role.fetched (role.outcome none), s.claim k p)

def after (s : Session κ α) (ds : List (Deed κ α)) : Session κ α :=
  ds.foldl (fun s d => (s.step d).2) s

/-- What is told in the course of a list of deeds. -/
def replies (s : Session κ α) : List (Deed κ α) → List (Deed.Reply α)
  | [] => []
  | d :: ds => (s.step d).1 :: (s.step d).2.replies ds

theorem claim_of_follow {f : Nat} (h : s.table.claim k p = (.follow f, s.table)) :
    s.claim k p = ⟨s.table, s.guards ++ [none]⟩ := by
  rw [claim, h]
  rfl

theorem claim_of_lead
    (h : s.table.claim k p = (.lead s.table.flights.length (s.table.peek k), s.table.launch k)) :
    s.claim k p = ⟨s.table.launch k,
      s.guards ++ [some ⟨k, s.table.flights.length, s.table.peek k⟩]⟩ := by
  rw [claim, h]
  rfl

/-! ## Resolves -/

theorem guard?_claim_length (s : Session κ α) (k : κ) (p : α → Bool) :
    (s.claim k p).guard? s.guards.length = (s.table.claim k p).1.guard? k := by
  rw [claim, guard?_concat, Function.update_self]

theorem set_guards_claim (s : Session κ α) (k : κ) (p : α → Bool) :
    (s.claim k p).guards.set s.guards.length none = s.guards ++ [none] := by
  rw [claim, List.set_append_right _ _ (Nat.le_refl _), Nat.sub_self]
  rfl

/-- A resolve whose fetch ends at once is a claim whose guard, if there is one, is completed. -/
theorem step_resolve_some (s : Session κ α) (k : κ) (p : α → Bool) (a : α) :
    (s.step (.resolve k p (some a))).2 = (s.claim k p).complete s.guards.length a := by
  have hguard := s.guard?_claim_length k p
  rcases hclaim : s.table.claim k p with ⟨⟨f, prev⟩ | f, t⟩
  · rw [hclaim] at hguard
    rw [complete_of_guard hguard, set_guards_claim]
    simp [step, FlightTable.resolve, hclaim, claim]
  · rw [hclaim] at hguard
    rw [complete_of_none hguard]
    simp [step, FlightTable.resolve, hclaim, claim, Claim.guard?]

/-- A resolve that goes away while its fetch runs is a claim whose guard, if there is one, is
dropped. -/
theorem step_resolve_none (s : Session κ α) (k : κ) (p : α → Bool) :
    (s.step (.resolve k p none)).2 = (s.claim k p).drop s.guards.length := by
  have hguard := s.guard?_claim_length k p
  rcases hclaim : s.table.claim k p with ⟨⟨f, prev⟩ | f, t⟩
  · rw [hclaim] at hguard
    rw [drop_of_guard hguard, set_guards_claim]
    simp [step, FlightTable.resolve, hclaim, claim]
  · rw [hclaim] at hguard
    rw [drop_of_none hguard]
    simp [step, FlightTable.resolve, hclaim, claim, Claim.guard?]

/-- A resolve tells what its claim asked, what its fetch was handed and what it came to. -/
theorem step_resolve_reply (s : Session κ α) (k : κ) (p : α → Bool) (answer : Option α) :
    (s.step (.resolve k p answer)).1 =
      .resolved (s.table.asked k p) ((s.table.claim k p).1.role s.table).fetched
        (((s.table.claim k p).1.role s.table).outcome answer) := by
  obtain ⟨f, hf, -, hclaim⟩ | ⟨f, a, hf, -, -, hclaim⟩ | ⟨-, -, hclaim⟩ :=
    s.table.claim_cases k p
  · simp [step, FlightTable.resolve, FlightTable.poll, hclaim, hf, Claim.role, Role.fetched,
      Role.outcome, Flight.outcome?, Flight.value?]
  · simp [step, FlightTable.resolve, FlightTable.poll, hclaim, hf, Claim.role, Role.fetched,
      Role.outcome, Flight.outcome?, Flight.value?]
  · cases answer <;>
      simp [step, FlightTable.resolve, hclaim, Claim.role, Role.fetched, Role.outcome]

/-! ## Flights and guards fit together -/

/-- Flights and guards fit together, and the keys came to these values. -/
def Sound (values : κ → List α) (s : Session κ α) : Prop :=
  Traffic.Sound ⟨s.table, s.part, values⟩

theorem sound_empty : (empty : Session κ α).Sound fun _ => [] := Traffic.sound_empty

theorem Sound.claim (h : s.Sound values) (k : κ) (p : α → Bool) : (s.claim k p).Sound values := by
  have hfollow : Sound values ⟨s.table, s.guards ++ [none]⟩ := by
    rw [Sound, part_concat, Option.map_none, ← part_length s, Function.update_eq_self]
    exact h
  obtain ⟨f, -, -, hclaim⟩ | ⟨f, a, -, -, -, hclaim⟩ | ⟨free, -, hclaim⟩ :=
    s.table.claim_cases k p
  · rwa [claim_of_follow hclaim]
  · rwa [claim_of_follow hclaim]
  · rw [claim_of_lead hclaim, Sound, part_concat, FlightTable.peek_eq]
    exact Traffic.Sound.launch h (part_length s) free

theorem Sound.complete (h : s.Sound values) (hg : s.guard? n = some g) (a : α) :
    (s.complete n a).Sound (update values g.key (values g.key ++ [a])) := by
  rw [complete_of_guard hg, Sound, part_set]
  have hmove : Traffic.Move (fun _ _ => True) ⟨s.table, s.part, values⟩ _ :=
    .complete a (part_of_guard hg)
  exact Traffic.Sound.move h hmove

theorem Sound.drop (h : s.Sound values) (n : Nat) : (s.drop n).Sound values := by
  cases hg : s.guard? n with
  | none => rwa [drop_of_none hg]
  | some g =>
    rw [drop_of_guard hg, Sound, part_set]
    have hmove : Traffic.Move (fun _ _ => True) ⟨s.table, s.part, values⟩ _ :=
      .cancel (part_of_guard hg)
    exact Traffic.Sound.move h hmove

end

end Session

end SchemaCatalog
