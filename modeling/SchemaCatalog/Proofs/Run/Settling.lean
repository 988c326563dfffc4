import SchemaCatalog.Proofs.Run.Turns

/-!
# How lookups settle

Who waits for an attempt comes to what the attempt came to, whenever it looks.

* `Run.ComesTo`: a lookup comes to an answer, unless it is given up.
* `Direction.Told`: what a lookup comes to is known. `Direction.Guided.told_next`: that stays so.
* `Direction.Shared`: a leader and a follower of one flight.
* **`Direction.Guided.shared_next`**: the follower comes to what its leader comes to, or to what the
  flight had replaced if the leader is given up.
* **`Direction.Guided.waits_next`**: whoever leads or waits comes to the last value at the end of its
  attempt.
-/

namespace SchemaCatalog

/-- Lookup `c` comes to `b`: it has answered so, or does when it resumes, unless it is given up. -/
inductive Run.ComesTo (r : Run) (c : Nat) (b : Answer) : Prop
  | answered (h : r.group.progress? c = some (.answered b))
  | cancelled (h : r.group.progress? c = some .cancelled)
  | resumes (h : ∀ now, (r.next now (.resume c)).group.progress? c = some (.answered b))

namespace Direction

section

variable {κ α : Type} (D : Direction κ α) (r : Run)

/-- What lookup `c` about `k` comes to is known. -/
inductive Told (c : Nat) (k : κ) (known : Option α) : Prop
  | waiting (f : Nat) (h : r.group.progress? c = some (D.follow k f))
      (told : (D.table r.group.cache).poll f = some known)
  | answered (h : r.group.progress? c = some (.answered (D.answer known)))
  | cancelled (h : r.group.progress? c = some .cancelled)

/-- Lookup `l` leads flight `f` of `k`, which lookup `c` follows, or did so. -/
inductive Shared (l c : Nat) (k : κ) (f : Nat) (prev : Option α) : Prop
  | pending (d : Instant) (leads : r.group.progress? l = some (D.lead k f prev d))
      (joined : r.group.progress? c = some (D.follow k f) ∨
        r.group.progress? c = some .cancelled)
  | completed (v : α) (led : r.group.progress? l = some (.answered (D.answer (some v))))
      (told : D.Told r c k (some v))
  | restored (led : r.group.progress? l = some .cancelled) (told : D.Told r c k prev)

end

section

variable {κ α : Type} [DecidableEq κ] {D : Direction κ α} {r : Run} {now : Instant}
  {a : Group.Action} {c l : Nat} {k : κ} {f : Nat} {prev known : Option α} {d : Instant} {v : α}

/-! ## Flights that are settled -/

theorem Guided.lt_of_follow (hD : D.Guided) (hp : r.group.progress? c = some (D.follow k f)) :
    f < (D.table r.group.cache).flights.length :=
  (hD.complete.sound r).traffic.follow_lt c k f (part_of_follow hp)

theorem Guided.poll_next (hD : D.Guided) (hf : f < (D.table r.group.cache).flights.length)
    (told : (D.table r.group.cache).poll f = some known) :
    (D.table (r.next now a).group.cache).poll f = some known := by
  obtain hsame | ⟨c', k', prev, hlead, -⟩ := hD.complete.flight_next (a := a) hf
  · rw [FlightTable.poll, hsame]
    exact told
  · have hpending : (D.table r.group.cache).flight f = .pending :=
      (hD.complete.sound r).traffic.lead_pending c' k' f prev hlead
    rw [FlightTable.poll_eq_none_iff.2 hpending] at told
    cases told

/-- **What a lookup comes to stays so.** -/
theorem Guided.told_next (hD : D.Guided) (h : D.Told r c k known) :
    D.Told (r.next now a) c k known := by
  cases h with
  | answered h => exact .answered (Run.progress?_stays h rfl)
  | cancelled h => exact .cancelled (Run.progress?_stays h rfl)
  | waiting f h told =>
    cases hD.followed h now a with
    | stays h' => exact .waiting f h' (hD.poll_next (hD.lt_of_follow h) told)
    | hears known' told' h' =>
      rw [told, Option.some.injEq] at told'
      subst told'
      exact .answered h'
    | cancels h' => exact .cancelled h'

theorem Guided.told_extend (hD : D.Guided) (h : D.Told r c k known)
    (later : List (Instant × Group.Action)) : D.Told (r.extend later) c k known :=
  Run.extend_induction (P := fun r' => D.Told r' c k known) h
    (fun _ _ _ ih => hD.told_next ih) later

theorem Guided.comesTo (hD : D.Guided) (h : D.Told r c k known) : r.ComesTo c (D.answer known) := by
  cases h with
  | answered h => exact .answered h
  | cancelled h => exact .cancelled h
  | waiting f h told => exact .resumes fun now => hD.answered_resume h told now

/-! ## Leaders and followers -/

/-- Who followed a pending flight is told what the flight comes to. -/
theorem Guided.told_of_restored (hD : D.Guided) (hp : r.group.progress? c = some (D.follow k f))
    (pending : (D.table r.group.cache).flight f = .pending)
    (restored : (D.table (r.next now a).group.cache).flight f = .restored known) :
    D.Told (r.next now a) c k known := by
  obtain h | h := hD.follow_next hp pending now a
  · exact .waiting f h (FlightTable.poll_of_restored restored)
  · exact .cancelled h

theorem Guided.pending_of_lead (hD : D.Guided) (hp : r.group.progress? l = some (D.lead k f prev d)) :
    (D.table r.group.cache).flight f = .pending :=
  (hD.complete.sound r).traffic.lead_pending l k f prev (part_of_lead hp)

/-- **A follower comes to what its leader comes to**, or to what the flight had replaced if the leader
is given up. -/
theorem Guided.shared_next (hD : D.Guided) (h : D.Shared r l c k f prev) :
    D.Shared (r.next now a) l c k f prev := by
  cases h with
  | completed v led told =>
    exact .completed v (Run.progress?_stays led rfl) (hD.told_next told)
  | restored led told => exact .restored (Run.progress?_stays led rfl) (hD.told_next told)
  | pending d leads joined =>
    have hpending := hD.pending_of_lead leads
    cases hD.led leads now a with
    | stays leads' =>
      refine .pending d leads' ?_
      obtain hp | hp := joined
      · exact hD.follow_next hp hpending now a
      · exact Or.inr (Run.progress?_stays hp rfl)
    | finishes t ends flight led =>
      refine .completed _ led ?_
      obtain hp | hp := joined
      · exact hD.told_of_restored hp hpending flight
      · exact .cancelled (Run.progress?_stays hp rfl)
    | cancels gone flight led =>
      refine .restored led ?_
      obtain hp | hp := joined
      · exact hD.told_of_restored hp hpending flight
      · exact .cancelled (Run.progress?_stays hp rfl)

theorem Guided.shared_extend (hD : D.Guided) (h : D.Shared r l c k f prev)
    (later : List (Instant × Group.Action)) : D.Shared (r.extend later) l c k f prev :=
  Run.extend_induction (P := fun r' => D.Shared r' l c k f prev) h
    (fun _ _ _ ih => hD.shared_next ih) later

theorem Guided.exists_leader (hD : D.Guided) (hp : r.group.progress? c = some (D.follow k f))
    (pending : (D.table r.group.cache).flight f = .pending) :
    ∃ l prev d, r.group.progress? l = some (D.lead k f prev d) := by
  have hr := (hD.complete.sound r).traffic
  have hcurrent := hr.follow_current c k f (part_of_follow hp) pending
  obtain ⟨l, prev, hl⟩ := hr.pending k f hcurrent pending
  obtain ⟨d, hp⟩ := progress?_of_part_lead hl
  exact ⟨l, prev, d, hp⟩

/-! ## Lookups that lead or wait -/

theorem Guided.last_of_lead (hD : D.Guided) (hp : r.group.progress? l = some (D.lead k f prev d)) :
    (D.values r k).getLast? = prev :=
  ((hD.complete.sound r).traffic.lead_previous l k f prev (part_of_lead hp)).symm

theorem Guided.last_of_ends (hD : D.Guided) (hp : r.group.progress? l = some (D.lead k f prev d))
    {t : Attempt} (ends : (r.moment now a).endsOn? (D.ask k) = some t) :
    (D.values (r.next now a) k).getLast? =
      some (D.attempt t.ended t.handler k prev t.body).1 := by
  rw [values_next_of_some ends, List.getLast?_concat, hD.last_of_lead hp]

theorem Guided.last_of_gone (hD : D.Guided) (hp : r.group.progress? l = some (D.lead k f prev d))
    (gone : a = .cancel l) : (D.values (r.next now a) k).getLast? = prev := by
  have hends : (r.moment now a).endsOn? (D.ask k) = none := by
    subst gone
    rfl
  rw [values_next_of_none hends, hD.last_of_lead hp]

/-- A flight tells the last value as soon as its leader has ended its attempt or is given up. -/
theorem Guided.poll_of_end (hD : D.Guided) (hp : r.group.progress? l = some (D.lead k f prev d))
    (ha : (∃ body, r.group.heard? now a = some (l, body)) ∨ a = .cancel l) :
    (D.table (r.next now a).group.cache).poll f = some (D.values (r.next now a) k).getLast? := by
  obtain ⟨body, heard⟩ | rfl := ha
  · obtain ⟨t, ends, flight, -⟩ := hD.finishes_of_heard hp heard
    rw [hD.last_of_ends hp ends]
    exact FlightTable.poll_of_restored flight
  · rw [hD.last_of_gone hp rfl]
    exact FlightTable.poll_of_restored (hD.restored_of_cancel hp now).1

/-- **Whoever leads or waits comes to the last value at the end of its attempt.** -/
theorem Guided.waits_next (hD : D.Guided) (h : D.Waits r c k) (now : Instant)
    (a : Group.Action) :
    D.Waits (r.next now a) c k ∨
      D.Told (r.next now a) c k (D.values (r.next now a) k).getLast? := by
  cases h with
  | leads f prev d hp =>
    cases hD.led hp now a with
    | stays h => exact Or.inl (.leads f prev d h)
    | finishes t ends flight h =>
      rw [hD.last_of_ends hp ends]
      exact Or.inr (.answered h)
    | cancels gone flight h => exact Or.inr (.cancelled h)
  | follows f hp pending =>
    obtain ⟨l, prev, d, hl⟩ := hD.exists_leader hp pending
    cases hD.led hl now a with
    | stays hl' =>
      have hpending := hD.pending_of_lead hl'
      obtain h | h := hD.follow_next hp pending now a
      · exact Or.inl (.follows f h hpending)
      · exact Or.inr (.cancelled h)
    | finishes t ends flight hl' =>
      rw [hD.last_of_ends hl ends]
      exact Or.inr (hD.told_of_restored hp pending flight)
    | cancels gone flight hl' =>
      rw [hD.last_of_gone hl gone]
      exact Or.inr (hD.told_of_restored hp pending flight)

end

end Direction

end SchemaCatalog
