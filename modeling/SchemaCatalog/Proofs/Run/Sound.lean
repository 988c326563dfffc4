import SchemaCatalog.Proofs.Run.Moves

/-!
# What a run has learned

* `Direction.values`: the values that the attempts about a key came to in a run.
* `Direction.traffic`: the flights of a direction with their callers and these values.
* `Direction.Sound`: what holds of every run: flights and callers fit together, handlers keep and
  lookups answer with values that were learned, and only outdated values were replaced.
* **`Direction.Complete.sound`**: it does hold, in both directions.
* `Direction.Sound.standing_of_kept`: a value that nobody could replace is the current one.
-/

namespace SchemaCatalog

open Function (update update_apply)

namespace Direction

variable {κ α : Type} (D : Direction κ α) (r : Run)

/-- The values that attempts about `k` come to, one after the other. -/
def trail (k : κ) (l : List Attempt) : List α :=
  l.foldl (fun vs a => vs ++ [(D.attempt a.ended a.handler k vs.getLast? a.body).1]) []

theorem trail_concat (k : κ) (l : List Attempt) (a : Attempt) :
    D.trail k (l ++ [a]) =
      D.trail k l ++ [(D.attempt a.ended a.handler k (D.trail k l).getLast? a.body).1] := by
  rw [trail, List.foldl_append]
  rfl

/-- The values that the attempts about `k` came to. -/
def values (k : κ) : List α := D.trail k (r.attempts (D.ask k))

def part (g : Group) (c : Nat) : Option (Part κ α) := (g.progress? c).bind D.part?

/-- The flights with their callers. -/
def traffic : Traffic κ α := ⟨D.table r.group.cache, D.part r.group, D.values r⟩

/-- A handler could have replaced the value at some time. -/
def Outdated (_ : κ) (v : α) : Prop :=
  ∃ x ∈ r.schedule, ∃ u ∈ r.setups, D.replaceable x.1 u.handler v = true

/-- What a lookup about `k` can be at. -/
inductive Fits (vs : List α) (k : κ) : Progress → Prop
  | lead (f : Nat) (prev : Option α) (d : Instant) : Fits vs k (D.lead k f prev d)
  | follow (f : Nat) : Fits vs k (D.follow k f)
  | answered (known : Option α) (learned : ∀ v, known = some v → v ∈ vs) :
    Fits vs k (.answered (D.answer known))
  | cancelled : Fits vs k .cancelled

/-- Handlers keep what was learned, and lookups answer with it. -/
structure Learned : Prop where
  backed : ∀ h ∈ r.group.handlers, D.Backed (D.values r) h
  fits : ∀ (c i : Nat) (k : κ), r.started[c]? = some (i, D.ask k) →
    ∃ p, r.group.calls[c]? = some ⟨i, p⟩ ∧ D.Fits (D.values r k) k p

/-- What holds of every run. -/
structure Sound [DecidableEq κ] : Prop extends D.Learned r where
  traffic : (D.traffic r).Sound
  spent : (D.traffic r).Spent (D.Outdated r)

variable {D r} {now : Instant} {a : Group.Action}

theorem Fits.mono {vs vs' : List α} {k : κ} {p : Progress} (h : vs ⊆ vs') (hp : D.Fits vs k p) :
    D.Fits vs' k p := by
  cases hp with
  | lead f prev d => exact .lead f prev d
  | follow f => exact .follow f
  | answered known learned => exact .answered known fun v hv => h (learned v hv)
  | cancelled => exact .cancelled

theorem Fits.about? {vs : List α} {k : κ} {p : Progress} {q : Question} (hp : D.Fits vs k p)
    (hq : p.about? = some q) : q = D.ask k := by
  cases hp with
  | lead f prev d => rw [D.about?_lead, Option.some.injEq] at hq; exact hq.symm
  | follow f => rw [D.about?_follow, Option.some.injEq] at hq; exact hq.symm
  | answered known learned => cases hq
  | cancelled => cases hq

theorem Fits.exists_known {vs : List α} {k : κ} {b : Answer} (hp : D.Fits vs k (.answered b)) :
    ∃ known, b = D.answer known ∧ ∀ v, known = some v → v ∈ vs := by
  generalize hq : Progress.answered b = p at hp
  cases hp with
  | lead f prev d =>
    have habout := D.about?_lead k f prev d
    rw [← hq] at habout
    cases habout
  | follow f =>
    have habout := D.about?_follow k f
    rw [← hq] at habout
    cases habout
  | answered known learned =>
    cases hq
    exact ⟨known, rfl, learned⟩
  | cancelled => cases hq

theorem Outdated.next {k : κ} {v : α} (h : D.Outdated r k v) : D.Outdated (r.next now a) k v := by
  obtain ⟨x, hx, u, hu, hv⟩ := h
  exact ⟨x, List.mem_append_left _ hx, u, hu, hv⟩

/-! ## Values of a run -/

theorem values_next_of_none {k : κ} (h : (r.moment now a).endsOn? (D.ask k) = none) :
    D.values (r.next now a) k = D.values r k := by
  rw [values, r.attempts_next, h, Option.toList_none, List.append_nil, values]

theorem values_next_of_some {k : κ} {t : Attempt}
    (h : (r.moment now a).endsOn? (D.ask k) = some t) :
    D.values (r.next now a) k =
      D.values r k ++ [(D.attempt t.ended t.handler k (D.values r k).getLast? t.body).1] := by
  rw [values, r.attempts_next, h, Option.toList_some, trail_concat, values]

theorem values_next_quiet (h : ∀ k, (r.moment now a).endsOn? (D.ask k) = none) :
    D.values (r.next now a) = D.values r :=
  funext fun k => values_next_of_none (h k)

theorem values_subset_next (k : κ) : D.values r k ⊆ D.values (r.next now a) k := by
  cases h : (r.moment now a).endsOn? (D.ask k) with
  | none => rw [values_next_of_none h]; exact List.Subset.refl _
  | some t => rw [values_next_of_some h]; exact List.subset_append_left _ _

theorem part_put {g : Group} {c i : Nat} {cache : SharedCache} {h : Handler} {p : Progress}
    (hc : c ≤ g.calls.length) : D.part (g.put c i cache h p) = update (D.part g) c (D.part? p) := by
  funext c'
  rw [part, Group.progress?_put hc, update_apply, update_apply]
  split <;> rfl

theorem part_of_part_put {g : Group} {c c' i : Nat} {cache : SharedCache} {h : Handler}
    {p : Progress} {q : Part κ α} (hc : c ≤ g.calls.length) (hp : D.part? p ≠ some q)
    (h' : D.part (g.put c i cache h p) c' = some q) : D.part g c' = some q := by
  rw [part_put hc, update_apply] at h'
  split at h'
  · exact absurd h' hp
  · exact h'

/-! ## Moves of a run -/

theorem traffic_next_put {c i : Nat} {cache : SharedCache} {h : Handler} {p : Progress}
    {e : Group.Effect} {vs : κ → List α} (hx : r.group.step now a = (r.group.put c i cache h p, e))
    (hc : c ≤ r.group.calls.length) (hv : D.values (r.next now a) = vs) :
    D.traffic (r.next now a) = ⟨D.table cache, update (D.part r.group) c (D.part? p), vs⟩ := by
  rw [traffic, r.group_next, hx, Group.cache_put, part_put hc, hv]

theorem traffic_part_of_call {c i : Nat} {p : Progress} (hc : r.group.calls[c]? = some ⟨i, p⟩) :
    (D.traffic r).part c = D.part? p := by
  show D.part r.group c = _
  rw [part, Group.progress?_of_call hc, Option.bind_some]

end Direction

/-! ## Handlers of a run -/

theorem Run.setups_group (r : Run) : r.group.handlers.map Handler.setup = r.setups := by
  induction r using Run.induction with
  | start us =>
    show (us.map Setup.handler).map Handler.setup = us
    rw [List.map_map]
    exact List.map_id us
  | next r now a ih =>
    rw [r.group_next, r.setups_next, ← ih]
    obtain hm | hm | hm := r.group.step_moves now a
    · exact hm.setups
    · exact hm.setups
    · rw [hm.step]

theorem Run.setup_mem {r : Run} {i : Nat} {h : Handler} (hi : r.group.handlers[i]? = some h) :
    h.setup ∈ r.setups := by
  rw [← r.setups_group]
  exact List.mem_map_of_mem (List.mem_of_getElem? hi)

namespace Direction

section

variable {κ α : Type} [DecidableEq κ] {D : Direction κ α} {r : Run} {now : Instant}
  {a : Group.Action} {x : Group × Group.Effect}

omit [DecidableEq κ] in
theorem outdated_next {i : Nat} {h : Handler} {k : κ} {v : α} (hi : r.group.handlers[i]? = some h)
    (hv : D.replaceable now h v = true) : D.Outdated (r.next now a) k v := by
  refine ⟨(now, a), List.mem_append_right _ (List.mem_singleton_self _), h.setup,
    r.setup_mem hi, ?_⟩
  rw [← hv, D.replaceable_of_setup now h h.setup.handler rfl]

theorem Sound.traffic_move (hr : D.Sound r) (hm : D.Moves now r.group a x)
    (hx : r.group.step now a = x) :
    Traffic.Move (D.Outdated (r.next now a)) (D.traffic r) (D.traffic (r.next now a)) := by
  have hnew : (D.traffic r).part r.group.calls.length = none := by
    show (r.group.progress? _).bind D.part? = none
    rw [Group.progress?_eq_none (Nat.le_refl _), Option.bind_none]
  cases hm with
  | own hi owned =>
    rw [traffic_next_put hx (Nat.le_refl _) (values_next_quiet fun _ => rfl), D.part?_answered]
    exact .leave (s := D.traffic r) (by simp [hnew])
  | @lead i h k hi missed free old =>
    rw [traffic_next_put hx (Nat.le_refl _) (values_next_quiet fun _ => rfl), D.part?_lead,
      D.table_withTable]
    exact .lead (s := D.traffic r) hnew free fun v hv => outdated_next hi (old v hv)
  | join hi missed current pending =>
    rw [traffic_next_put hx (Nat.le_refl _) (values_next_quiet fun _ => rfl), D.part?_follow]
    exact .join (s := D.traffic r) hnew current pending
  | learn hi missed ready good =>
    rw [traffic_next_put hx (Nat.le_refl _) (values_next_quiet fun _ => rfl), D.part?_answered]
    exact .leave (s := D.traffic r) (by simp [hnew])
  | hear hc hi told =>
    rw [traffic_next_put hx (Group.le_length_of_call hc) (values_next_quiet fun _ => rfl), D.part?_answered]
    exact .leave (s := D.traffic r) (by simp [traffic_part_of_call hc, D.part?_follow])
  | @finish a c i h k f prev d body heard hc hi =>
    have hpart : (D.traffic r).part c = some (.lead k f prev) := by
      rw [traffic_part_of_call hc, D.part?_lead]
    have hprev : prev = (D.values r k).getLast? := hr.traffic.lead_previous c k f prev hpart
    have hv : D.values (r.next now a) =
        update (D.values r) k (D.values r k ++ [(D.attempt now h k prev body).1]) := by
      funext k'
      have hon := D.endsOn?_finish heard hc hi k'
      by_cases hk : k' = k
      · subst hk
        rw [if_pos rfl] at hon
        rw [Function.update_self, values_next_of_some hon, hprev]
      · rw [if_neg hk] at hon
        rw [Function.update_of_ne hk, values_next_of_none hon]
    rw [traffic_next_put hx (Group.le_length_of_call hc) hv, D.part?_answered, D.table_withTable]
    exact .complete (s := D.traffic r) _ hpart
  | cancel hc hi =>
    rw [traffic_next_put hx (Group.le_length_of_call hc) (values_next_quiet fun _ => rfl), D.part?_cancelled,
      D.table_withTable]
    exact .cancel (s := D.traffic r) (by rw [traffic_part_of_call hc, D.part?_lead])
  | leave hc hi =>
    rw [traffic_next_put hx (Group.le_length_of_call hc) (values_next_quiet fun _ => rfl), D.part?_cancelled]
    exact .leave (s := D.traffic r) (by simp [traffic_part_of_call hc, D.part?_follow])

/-! ## Every step keeps what holds -/

omit [DecidableEq κ] in
theorem Learned.backed_put (hr : D.Learned r) {c i : Nat} {h h' : Handler} {cache : SharedCache}
    {p : Progress} {e : Group.Effect} (hi : r.group.handlers[i]? = some h)
    (hx : r.group.step now a = (r.group.put c i cache h' p, e))
    (hh : D.Backed (D.values (r.next now a)) h → D.Backed (D.values (r.next now a)) h') :
    ∀ h ∈ (r.next now a).group.handlers, D.Backed (D.values (r.next now a)) h := by
  rw [r.group_next, hx]
  exact backed_set hi hh fun x hx => D.backed_mono _ _ x values_subset_next (hr.backed x hx)

omit [DecidableEq κ] in
theorem Learned.start (hr : D.Learned r) {i : Nat} {h h' : Handler} {k : κ} {cache : SharedCache}
    {p : Progress} {e : Group.Effect} (hi : r.group.handlers[i]? = some h)
    (hx : r.group.step now (.start i (D.ask k)) =
      (r.group.put r.group.calls.length i cache h' p, e))
    (hh : D.Backed (D.values r) h → D.Backed (D.values r) h')
    (hp : D.Fits (D.values r k) k p) : D.Learned (r.next now (.start i (D.ask k))) := by
  have hv : D.values (r.next now (.start i (D.ask k))) = D.values r :=
    values_next_quiet fun _ => rfl
  refine ⟨hr.backed_put hi hx (by rwa [hv]), ?_⟩
  intro c' i' k' hc'
  have hopens : (r.moment now (.start i (D.ask k))).opens? = some (i, D.ask k) :=
    Moment.opens?_eq_some.2 ⟨rfl, h, hi⟩
  rw [r.started_next, hopens, Option.toList_some] at hc'
  rw [hv, r.group_next, hx, Group.getElem?_calls_put (Nat.le_refl _)]
  by_cases hlt : c' < r.group.calls.length
  · rw [List.getElem?_append_left (by rwa [r.length_started])] at hc'
    rw [if_neg (by omega)]
    exact hr.fits c' i' k' hc'
  · obtain ⟨hlt', -⟩ := List.getElem?_eq_some_iff.1 hc'
    rw [List.length_append, r.length_started, List.length_singleton] at hlt'
    obtain rfl : c' = r.group.calls.length := by omega
    rw [← r.length_started, List.getElem?_concat_length, Option.some.injEq, Prod.mk.injEq] at hc'
    obtain ⟨rfl, hk⟩ := hc'
    rw [if_pos rfl, ← D.ask_inj k k' hk]
    exact ⟨p, rfl, hp⟩

omit [DecidableEq κ] in
theorem Learned.turn (hr : D.Learned r) {c i : Nat} {h h' : Handler} {k : κ} {cache : SharedCache}
    {p p' : Progress} {e : Group.Effect} (hc : r.group.calls[c]? = some ⟨i, p⟩)
    (hi : r.group.handlers[i]? = some h) (hq : p.about? = some (D.ask k))
    (ho : (r.moment now a).opens? = none)
    (hx : r.group.step now a = (r.group.put c i cache h' p', e))
    (hh : D.Backed (D.values (r.next now a)) h → D.Backed (D.values (r.next now a)) h')
    (hp : D.Fits (D.values (r.next now a) k) k p') : D.Learned (r.next now a) := by
  refine ⟨hr.backed_put hi hx hh, ?_⟩
  intro c' i' k' hc'
  rw [r.started_next, ho, Option.toList_none, List.append_nil] at hc'
  rw [r.group_next, hx, Group.getElem?_calls_put (Group.le_length_of_call hc)]
  obtain ⟨p₀, hget, hfits⟩ := hr.fits c' i' k' hc'
  by_cases hcc : c' = c
  · subst hcc
    rw [hc, Option.some.injEq, Call.mk.injEq] at hget
    obtain ⟨rfl, rfl⟩ := hget
    rw [if_pos rfl, ← D.ask_inj k k' (hfits.about? hq)]
    exact ⟨p', rfl, hp⟩
  · rw [if_neg hcc]
    exact ⟨p₀, hget, hfits.mono (values_subset_next k')⟩

/-- A flight that is settled tells a value of its key, or that there is none. -/
theorem Sound.mem_of_told (hr : D.Sound r) {c i : Nat} {k : κ} {f : Nat} {known : Option α}
    (hc : r.group.calls[c]? = some ⟨i, D.follow k f⟩)
    (told : (D.table r.group.cache).poll f = some known) (v : α) (hv : known = some v) :
    v ∈ D.values r k := by
  have hpart : (D.traffic r).part c = some (.follow k f) := by
    rw [traffic_part_of_call hc, D.part?_follow]
  subst hv
  cases hf : (D.table r.group.cache).flight f with
  | pending => rw [FlightTable.poll, hf] at told; cases told
  | ready b =>
    rw [FlightTable.poll, hf] at told
    cases told
    exact hr.traffic.follow_told c k f v hpart hf
  | abandoned => rw [FlightTable.poll, hf] at told; cases told

/-- A move keeps what was learned. -/
theorem Sound.learned_move (hr : D.Sound r) (hm : D.Moves now r.group a x)
    (hx : r.group.step now a = x) : D.Learned (r.next now a) := by
  have hl := hr.toLearned
  cases hm with
  | @own i h k b hi owned =>
    obtain ⟨v, hmem, rfl, -⟩ :=
      D.own_of_backed _ _ _ _ _ (hl.backed h (List.mem_of_getElem? hi)) owned
    refine hl.start hi hx (D.backed_own _ _ _ _) (.answered (some v) ?_)
    rintro w ⟨⟩
    exact hmem
  | lead hi => exact hl.start hi hx (D.backed_own _ _ _ _) (.lead _ _ _)
  | join hi => exact hl.start hi hx (D.backed_own _ _ _ _) (.follow _)
  | @learn i h k b hi missed ready good =>
    have hmem : ∀ v, some b = some v → v ∈ D.values r k := by
      rintro v ⟨⟩
      exact List.mem_of_getLast? (hr.traffic.ready k b ready)
    exact hl.start hi hx
      (fun hh => D.backed_keep _ _ _ _ (D.backed_own _ _ _ _ hh) hmem) (.answered (some b) hmem)
  | @hear c i h k f known hc hi told =>
    have hmem : ∀ v, known = some v → v ∈ D.values (r.next now (.resume c)) k :=
      fun v hv => values_subset_next k (hr.mem_of_told hc told v hv)
    exact hl.turn hc hi (D.about?_follow k f) rfl hx
      (fun hh => D.backed_keep _ _ _ _ hh hmem) (.answered known hmem)
  | @finish a c i h k f prev d body heard hc hi =>
    have hmem : ∀ v, some (D.attempt now h k prev body).1 = some v →
        v ∈ D.values (r.next now a) k := by
      rintro v ⟨⟩
      have hprev := hr.traffic.lead_previous c k f prev
        ((traffic_part_of_call hc).trans (D.part?_lead k f prev d))
      have hon := D.endsOn?_finish heard hc hi k
      rw [if_pos rfl] at hon
      rw [values_next_of_some hon, hprev]
      exact List.mem_append_right _ (List.mem_singleton_self _)
    exact hl.turn hc hi (D.about?_lead k f prev d) (Moment.opens?_of_heard heard) hx
      (fun hh => D.backed_keep _ _ _ _ hh hmem) (.answered _ hmem)
  | cancel hc hi => exact hl.turn hc hi (D.about?_lead _ _ _ _) rfl hx id .cancelled
  | leave hc hi => exact hl.turn hc hi (D.about?_follow _ _) rfl hx id .cancelled

theorem Sound.move (hr : D.Sound r) (hm : D.Moves now r.group a (r.group.step now a)) :
    D.Sound (r.next now a) where
  toLearned := hr.learned_move hm rfl
  traffic := hr.traffic.move (hr.traffic_move hm rfl)
  spent :=
    hr.traffic.move_spent (hr.spent.mono fun _ _ => Outdated.next) (hr.traffic_move hm rfl)

omit [DecidableEq κ] in
theorem traffic_away (hm : D.Away now r.group a (r.group.step now a)) :
    D.traffic (r.next now a) = D.traffic r := by
  have hpart : D.part (r.group.step now a).1 = D.part r.group := funext hm.part
  rw [Direction.traffic, r.group_next, hm.table, hpart, values_next_quiet hm.ends,
    Direction.traffic]

theorem Sound.away (hr : D.Sound r) (hm : D.Away now r.group a (r.group.step now a)) :
    D.Sound (r.next now a) where
  traffic := by rw [traffic_away hm]; exact hr.traffic
  spent := by
    rw [traffic_away hm]
    exact hr.spent.mono fun _ _ => Outdated.next
  backed := by
    rw [r.group_next, values_next_quiet hm.ends]
    exact hm.backed _ hr.backed
  fits c i k hc := by
    rw [values_next_quiet hm.ends, r.group_next]
    rw [r.started_next] at hc
    by_cases hlt : c < r.started.length
    · rw [List.getElem?_append_left hlt] at hc
      obtain ⟨p, hget, hfits⟩ := hr.fits c i k hc
      exact ⟨p, hm.calls c _ hget fun q hq => ⟨k, hfits.about? hq⟩, hfits⟩
    · -- a lookup that starts here would be in this direction
      rw [List.getElem?_append_right (by omega)] at hc
      cases ho : (r.moment now a).opens? with
      | none => rw [ho] at hc; cases hc
      | some o =>
        rw [ho] at hc
        obtain rfl := List.mem_singleton.1 (List.mem_of_getElem? hc)
        exact absurd ho (hm.opens i k)

omit [DecidableEq κ] in
theorem traffic_start (us : List Setup) :
    D.traffic ⟨us, []⟩ = ⟨.empty, fun _ => none, fun _ => []⟩ := by
  rw [Direction.traffic, ← D.table_empty]
  rfl

theorem sound_start (us : List Setup) : D.Sound ⟨us, []⟩ where
  traffic := by
    rw [traffic_start]
    exact Traffic.sound_empty
  spent := by
    rw [traffic_start]
    exact Traffic.spent_empty
  backed h hh := by
    obtain ⟨u, -, rfl⟩ := List.mem_map.1 hh
    exact D.backed_setup _ u
  fits c i k hc := by cases hc

/-! ## Every run -/

/-- **Every run is sound.** -/
theorem Complete.sound (hD : D.Complete) (r : Run) : D.Sound r := by
  induction r using Run.induction with
  | start us => exact sound_start us
  | next r now a ih =>
    obtain hm | hm := hD now r.group a
    · exact ih.move hm
    · exact ih.away hm

/-! ## Values that stay -/

/-- A value that nobody could replace is the last one, and nobody is about to replace it. -/
theorem Sound.standing_of_kept (hr : D.Sound r) {k : κ} {v : α} (hv : v ∈ D.values r k)
    (kept : ¬ D.Outdated r k v) : (D.table r.group.cache).standing k = .ready v := by
  have hlast : (D.values r k).getLast? = some v :=
    Traffic.getLast?_of_notMem_dropLast hv fun hd => kept (hr.spent.replaced k v hd)
  have hfree : (D.table r.group.cache).standing k ≠ .pending := by
    intro hp
    obtain ⟨c, f, prev, hc⟩ := hr.traffic.exists_lead hp
    have hprev : prev = some v := (hr.traffic.lead_previous c k f prev hc).trans hlast
    subst hprev
    exact kept (hr.spent.replacing c k f v hc)
  exact (hr.traffic.standing_eq_ready_iff hfree).2 hlast

end

end Direction

end SchemaCatalog
