import SchemaCatalog.Proofs.Run.LocalTier
import SchemaCatalog.Proofs.Run.Lookups
import SchemaCatalog.Proofs.Run.Outstanding
import SchemaCatalog.Proofs.Run.Settling

/-!
# The cell of a key

Of all that a run has learned, only a small part matters to a key: where it stands, and how far its
own lookups are. This cell evolves by itself.

* `Stage`, `Cell`: how far a lookup is, and the cell of a key.
* `Cell.step`: how a cell evolves.
* `Direction.cell`: the cell of a key in a run.
* **`Direction.Guided.cell_next`**: a step about a key does to the cell what `Cell.step` says, and
  shows what it says.
* **`Direction.Guided.cell_rest`**: any other step leaves the cell alone, and shows nothing.
-/

namespace SchemaCatalog

open Function (update update_apply)

/-- How far a lookup about a key is; flights are not numbered here. It leads a flight that replaces
`prev`, waits for the leader, or has been told by the flight what it came to without having noticed
yet. -/
inductive Stage (α : Type)
  | leads (prev : Option α) (deadline : Option Instant)
  | waits
  | told (known : Option α)
  | answered (b : Answer)
  | cancelled

namespace Stage

variable {α : Type}

def deadline? : Stage α → Option Instant
  | leads _ deadline => deadline
  | _ => none

/-- How the lookup has ended, if it has. -/
def outcome? : Stage α → Option (Option Answer)
  | answered b => some (some b)
  | cancelled => some none
  | _ => none

/-- Whoever waits for the leader is told what the flight came to. -/
def release (known : Option α) : Stage α → Stage α
  | waits => told known
  | s => s

end Stage

theorem Progress.about?_of_asks? {p : Progress} {q : Question} (h : p.asks? = some q) :
    p.about? = some q := by
  cases p <;> first | exact h | cases h

/-- The cell of a key: where it stands, the number of its lookups, and for each of them its handler
and how far it is. -/
@[ext]
structure Cell (α : Type) where
  standing : Flight α
  count : Nat
  lookup : Nat → Option (Nat × Stage α)

namespace Cell

variable {α : Type} (s : Cell α) (standing : Flight α) (n i : Nat) (t : Stage α)

def add : Cell α := ⟨standing, s.count + 1, update s.lookup s.count (some (i, t))⟩

/-- A turn of lookup `n`, which changes the stages of the others by `f`. -/
def turn (f : Stage α → Stage α) : Cell α :=
  ⟨standing, s.count, update (fun n => (s.lookup n).map (Prod.map id f)) n (some (i, t))⟩

/-- When lookup `n` gives up its request. -/
def deadline? : Option Instant := (s.lookup n).bind fun x => x.2.deadline?

variable {κ : Type} (D : Direction κ α) (us : List Setup) (k : κ) (now : Instant)

/-- What lookup `n` does when it hears `body`, and what is shown then. -/
def hear (body : Option String) : Cell α × List Observation :=
  match s.lookup n with
  | some (i, .leads prev _) =>
    match us[i]? with
    | none => (s, [])
    | some u =>
      let known := D.attempt now u.handler k prev body
      (s.turn (.ready known.1) n i (.answered (D.answer (some known.1)))
          (Stage.release (some known.1)),
        .hears body :: known.2.map .reports)
  | _ => (s, [])

/-- How the cell of `k` evolves, and what it shows. -/
def step : Group.Action → Cell α × List Observation
  | .start i _ =>
    match us[i]? with
    | none => (s, [])
    | some u =>
      let led (prev : Option α) :=
        (s.add .pending i (.leads prev (some (u.handler.giveUpAt now))),
          [.begins i, .asks (D.path u.handler k)])
      match s.standing with
      | .pending => (s.add .pending i .waits, [.begins i])
      | .abandoned => led none
      | .ready v =>
        if D.replaceable now u.handler v then led (some v)
        else (s.add (.ready v) i (.answered (D.answer (some v))), [.begins i])
  | .receive n body => s.hear n D us k now body
  | .expire n =>
    if (s.deadline? n).any fun d => d.nanos ≤ now.nanos then s.hear n D us k now none else (s, [])
  | .resume n =>
    match s.lookup n with
    | some (i, .told known) => (s.turn s.standing n i (.answered (D.answer known)) id, [])
    | _ => (s, [])
  | .cancel n =>
    match s.lookup n with
    | some (i, .leads prev _) => (s.turn (.restored prev) n i .cancelled (Stage.release prev), [])
    | some (i, .waits) | some (i, .told _) => (s.turn s.standing n i .cancelled id, [])
    | _ => (s, [])

variable {D us k now} {s : Cell α} {n i : Nat} {t : Stage α}

theorem hear_of_quiet (hs : s.lookup n = some (i, t)) (ht : ∀ prev d, t ≠ .leads prev d)
    (body : Option String) : s.hear n D us k now body = (s, []) := by
  cases t with
  | leads prev d => exact absurd rfl (ht prev d)
  | _ => simp only [hear, hs]

theorem step_of_ended {b : Group.Action} (hb : b.call? = some n) (hs : s.lookup n = some (i, t))
    (ended : t.outcome?.isSome) : s.step D us k now b = (s, []) := by
  have quiet : ∀ prev d, t ≠ .leads prev d := by
    rintro prev d rfl
    cases ended
  cases b with
  | start j q => cases hb
  | receive n' body =>
    obtain rfl := Option.some.inj hb
    exact hear_of_quiet hs quiet body
  | expire n' =>
    obtain rfl := Option.some.inj hb
    simp only [step, hear_of_quiet hs quiet, ite_self]
  | resume n' | cancel n' =>
    obtain rfl := Option.some.inj hb
    cases t with
    | leads prev d | waits | told known => cases ended
    | answered _ | cancelled => simp only [step, hs]

end Cell

/-! ## The cell of a run -/

namespace Direction

variable {κ α : Type} (D : Direction κ α)

def stage (cache : SharedCache) (p : Progress) : Stage α :=
  match D.part? p with
  | some (.lead _ _ prev) => .leads prev p.deadline?
  | some (.follow _ f) =>
    match (D.table cache).poll f with
    | some known => .told known
    | none => .waits
  | none => (p.answer?.map .answered).getD .cancelled

def view (g : Group) (c : Nat) : Option (Nat × Stage α) :=
  (g.calls[c]?).map fun call => (call.handler, D.stage g.cache call.progress)

def cell [DecidableEq κ] (r : Run) (k : κ) : Cell α where
  standing := (D.table r.group.cache).standing k
  count := (r.lookups (D.ask k)).length
  lookup n := ((r.lookups (D.ask k))[n]?).bind (D.view r.group)

variable {D} {cache cache' : SharedCache} {k : κ} {f : Nat} {prev known : Option α} {d : Instant}
  {b : Answer} {p : Progress} {g : Group} {c i : Nat}

@[simp] theorem stage_lead : D.stage cache (D.lead k f prev d) = .leads prev (some d) := by
  simp only [stage, D.part?_lead, D.deadline?_lead]

theorem stage_follow_of_poll (h : (D.table cache).poll f = some known) :
    D.stage cache (D.follow k f) = .told known := by
  simp only [stage, D.part?_follow, h]

theorem stage_follow_of_pending (h : (D.table cache).flight f = .pending) :
    D.stage cache (D.follow k f) = .waits := by
  have hpoll : (D.table cache).poll f = none := FlightTable.poll_eq_none_iff.2 h
  simp only [stage, D.part?_follow, hpoll]

theorem stage_follow (cache : SharedCache) (k : κ) (f : Nat) :
    ((D.table cache).flight f = .pending ∧ D.stage cache (D.follow k f) = .waits) ∨
      ∃ known, (D.table cache).poll f = some known ∧
        D.stage cache (D.follow k f) = .told known := by
  cases hp : (D.table cache).poll f with
  | none =>
    have hpending := FlightTable.poll_eq_none_iff.1 hp
    exact Or.inl ⟨hpending, stage_follow_of_pending hpending⟩
  | some known => exact Or.inr ⟨known, rfl, stage_follow_of_poll hp⟩

@[simp] theorem stage_answered : D.stage cache (.answered b) = .answered b := by
  simp only [stage, D.part?_answered]
  rfl

@[simp] theorem stage_cancelled : D.stage cache .cancelled = .cancelled := by
  simp only [stage, D.part?_cancelled]
  rfl

/-- Only followers look at flights. -/
theorem stage_congr (h : ∀ k f, p = D.follow k f →
      (D.table cache').flight f = (D.table cache).flight f) :
    D.stage cache' p = D.stage cache p := by
  unfold stage
  cases hp : D.part? p with
  | none => rfl
  | some part =>
    cases part with
    | lead k f prev => rfl
    | follow k f => simp only [FlightTable.poll, h k f (D.follow_of_part? p k f hp)]

theorem outcome?_stage {vs : List α} (cache : SharedCache) (hp : D.Fits vs k p) :
    (D.stage cache p).outcome? = p.outcome? := by
  have hrunning : ∀ {p : Progress} {q : Question}, p.about? = some q → p.outcome? = none := by
    intro p q h
    cases p <;> first | rfl | cases h
  cases hp with
  | lead f prev d =>
    rw [stage_lead, hrunning (D.about?_lead k f prev d)]
    rfl
  | follow f =>
    rw [hrunning (D.about?_follow k f)]
    obtain ⟨-, hs⟩ | ⟨known, -, hs⟩ := stage_follow (D := D) cache k f <;> rw [hs] <;> rfl
  | answered known learned =>
    rw [stage_answered]
    rfl
  | cancelled =>
    rw [stage_cancelled]
    rfl

theorem deadline?_stage {vs : List α} (cache : SharedCache) (hp : D.Fits vs k p) :
    (D.stage cache p).deadline? = p.deadline? := by
  cases hp with
  | lead f prev d =>
    rw [stage_lead, D.deadline?_lead]
    rfl
  | follow f =>
    rw [D.deadline?_follow]
    obtain ⟨-, hs⟩ | ⟨known, -, hs⟩ := stage_follow (D := D) cache k f <;> rw [hs] <;> rfl
  | answered known learned =>
    rw [stage_answered]
    rfl
  | cancelled =>
    rw [stage_cancelled]
    rfl

theorem view_of_call (hc : g.calls[c]? = some ⟨i, p⟩) :
    D.view g c = some (i, D.stage g.cache p) := by
  rw [view, hc, Option.map_some]

section

variable [DecidableEq κ] {r : Run} {now : Instant} {a : Group.Action} {h : Handler} {n : Nat}
  {u : Setup}

/-! ## Lookups about the key -/

theorem Complete.exists_fits (hD : D.Complete) (hc : c ∈ r.lookups (D.ask k)) :
    ∃ i p, r.group.calls[c]? = some ⟨i, p⟩ ∧ D.Fits (D.values r k) k p := by
  obtain ⟨i, hi⟩ := Run.mem_lookups.1 hc
  obtain ⟨p, hcall, hfits⟩ := (hD.sound r).fits c i k hi
  exact ⟨i, p, hcall, hfits⟩

theorem Complete.mem_lookups_of_lead (hD : D.Complete)
    (hc : r.group.calls[c]? = some ⟨i, D.lead k f prev d⟩) : c ∈ r.lookups (D.ask k) := by
  have hpart : D.part r.group c = some (.lead k f prev) :=
    (traffic_part_of_call hc).trans (D.part?_lead k f prev d)
  obtain ⟨j, hstarted, -⟩ := hD.requested_of_lead r hpart
  exact Run.mem_lookups.2 ⟨j, hstarted⟩

omit [DecidableEq κ] in
theorem view_put_self (hc : c ≤ g.calls.length) :
    D.view (g.put c i cache' h p) c = some (i, D.stage cache' p) := by
  rw [view, Group.getElem?_calls_put hc, if_pos rfl]
  rfl

omit [DecidableEq κ] in
theorem view_put_of_ne {c' : Nat} {t : Stage α → Stage α} (hc : c ≤ g.calls.length) (hne : c' ≠ c)
    (hstage : ∀ i p, g.calls[c']? = some ⟨i, p⟩ → D.stage cache' p = t (D.stage g.cache p)) :
    D.view (g.put c i cache' h p) c' = (D.view g c').map (Prod.map id t) := by
  rw [view, Group.getElem?_calls_put hc, if_neg hne, view]
  cases hc' : g.calls[c']? with
  | none => rfl
  | some call =>
    obtain ⟨i', p'⟩ := call
    simp only [Option.map_some, Prod.map, id, Group.cache_put, hstage i' p' hc']

theorem map_id_id (x : Option (Nat × Stage α)) : x.map (Prod.map id id) = x := by
  simp

/-- The cell after a lookup about `k` has started. -/
theorem cell_add {h' : Handler} (hi : r.group.handlers[i]? = some h)
    (hg : (r.next now (.start i (D.ask k))).group =
      r.group.put r.group.calls.length i cache' h' p)
    (hstage : ∀ c i p, c ∈ r.lookups (D.ask k) → r.group.calls[c]? = some ⟨i, p⟩ →
      D.stage cache' p = D.stage r.group.cache p) :
    D.cell (r.next now (.start i (D.ask k))) k =
      (D.cell r k).add ((D.table cache').standing k) i (D.stage cache' p) := by
  have hopens := Run.opens?_start hi now (D.ask k)
  have hlookups : (r.next now (.start i (D.ask k))).lookups (D.ask k) =
      r.lookups (D.ask k) ++ [r.group.calls.length] := by
    rw [Run.lookups_next, hopens]
    simp [Option.filter]
  unfold cell Cell.add
  rw [hlookups, hg]
  ext1
  · rfl
  · simp
  · funext n
    dsimp only
    rw [update_apply]
    by_cases hn : n = (r.lookups (D.ask k)).length
    · rw [if_pos hn, hn, List.getElem?_concat_length, Option.bind_some,
        view_put_self (Nat.le_refl _)]
    · rw [if_neg hn]
      by_cases hlt : n < (r.lookups (D.ask k)).length
      · have hc := List.getElem?_eq_getElem hlt
        have hmem := List.mem_of_getElem? hc
        have hne := Nat.ne_of_lt (Run.lt_of_mem_lookups hmem)
        rw [List.getElem?_append_left hlt, hc, Option.bind_some, Option.bind_some,
          view_put_of_ne (t := id) (Nat.le_refl _) hne fun i p => hstage _ i p hmem, map_id_id]
      · rw [List.getElem?_eq_none (by simp; omega), List.getElem?_eq_none (by omega)]
        rfl

theorem cell_turn {t : Stage α → Stage α} (ha : (r.moment now a).opens? = none)
    (hn : (r.lookups (D.ask k))[n]? = some c)
    (hg : (r.next now a).group = r.group.put c i cache' h p)
    (hstage : ∀ c' i p, c' ∈ r.lookups (D.ask k) → r.group.calls[c']? = some ⟨i, p⟩ →
      D.stage cache' p = t (D.stage r.group.cache p)) :
    D.cell (r.next now a) k =
      (D.cell r k).turn ((D.table cache').standing k) n i (D.stage cache' p) t := by
  have hle := Nat.le_of_lt (Run.lt_of_mem_lookups (List.mem_of_getElem? hn))
  unfold cell Cell.turn
  rw [Run.lookups_next_of_none (by rw [ha]; rfl), hg]
  ext1
  · rfl
  · rfl
  · funext n'
    dsimp only
    rw [update_apply]
    by_cases hnn : n' = n
    · rw [if_pos hnn, hnn, hn, Option.bind_some, view_put_self hle]
    · rw [if_neg hnn]
      cases hc' : (r.lookups (D.ask k))[n']? with
      | none => rfl
      | some c' =>
        have hmem := List.mem_of_getElem? hc'
        have hne : c' ≠ c := by
          rintro rfl
          exact hnn (Run.eq_of_getElem?_lookups hc' hn)
        exact view_put_of_ne hle hne fun i p => hstage c' i p hmem

theorem cell_other (hlookups : (r.next now a).lookups (D.ask k) = r.lookups (D.ask k))
    (hstanding : (D.table (r.next now a).group.cache).standing k =
      (D.table r.group.cache).standing k)
    (hview : ∀ c ∈ r.lookups (D.ask k), D.view (r.next now a).group c = D.view r.group c) :
    D.cell (r.next now a) k = D.cell r k := by
  unfold cell
  rw [hlookups, hstanding]
  ext1
  · rfl
  · rfl
  · funext n
    dsimp only
    cases hc : (r.lookups (D.ask k))[n]? with
    | none => rfl
    | some c => exact hview c (List.mem_of_getElem? hc)

/-! ## Steps about the key -/

/-- A step in which no lookup about `k` starts or ends shows nothing. -/
theorem Complete.shown_eq_nil (hD : D.Complete)
    (ho : (r.moment now a).opens?.filter (fun o => o.2 = D.ask k) = none)
    (he : (r.moment now a).endsOn? (D.ask k) = none) : r.shown (D.ask k) now a = [] := by
  have hevents := hD.events_moment r now a k
  rw [he] at hevents
  simp only [Run.shown, ho, he, hevents, Run.asks?_of_opens? ho]
  rfl

theorem Complete.shown_start (hD : D.Complete) (hi : r.group.handlers[i]? = some h) :
    r.shown (D.ask k) now (.start i (D.ask k)) =
      .begins i :: (r.group.step now (.start i (D.ask k))).2.request.toList.map .asks := by
  have hevents := hD.events_moment r now (.start i (D.ask k)) k
  have hends : (r.moment now (.start i (D.ask k))).endsOn? (D.ask k) = none := rfl
  rw [hends] at hevents
  simp only [Run.shown, Run.opens?_start hi, hends, hevents, Run.asks?_start]
  cases hx : (r.group.step now (.start i (D.ask k))).2.request <;>
    simp [Option.filter, Moment.sends?, Moment.effect, Run.moment, hx]

theorem Complete.cell_of_rests (hD : D.Complete) (hr : r.group.Rests now a) :
    (D.cell (r.next now a) k, r.shown (D.ask k) now a) = (D.cell r k, []) := by
  have ho : (r.moment now a).opens? = none := hr.opens?
  have he : (r.moment now a).ends? = none := hr.ends?
  have hg : (r.next now a).group = r.group := by rw [r.group_next, hr.step]
  rw [cell_other (Run.lookups_next_of_none (by rw [ho]; rfl)) (by rw [hg]) (by rw [hg]; simp),
    hD.shown_eq_nil (by rw [ho]; rfl) (by rw [Moment.endsOn?, he]; rfl)]

theorem Guided.cell_of_start (hD : D.Guided) (hi : r.group.handlers[i]? = some h) {t : Turn}
    (ht : D.start now r.group.cache h k = t)
    (hstage : ∀ c i p, c ∈ r.lookups (D.ask k) → r.group.calls[c]? = some ⟨i, p⟩ →
      D.stage t.cache p = D.stage r.group.cache p) :
    (D.cell (r.next now (.start i (D.ask k))) k, r.shown (D.ask k) now (.start i (D.ask k))) =
      ((D.cell r k).add ((D.table t.cache).standing k) i (D.stage t.cache t.progress),
        .begins i :: t.request.toList.map .asks) := by
  have hstep : r.group.step now (.start i (D.ask k)) = r.group.turned r.group.calls.length i t := by
    rw [Group.step_start hi, hD.start, ht]
  have hg : (r.next now (.start i (D.ask k))).group =
      r.group.put r.group.calls.length i t.cache t.handler t.progress := by
    rw [r.group_next, hstep]
    rfl
  rw [cell_add hi hg hstage, hD.complete.shown_start hi, hstep]
  rfl

theorem Guided.stage_launch (hD : D.Guided) (k : κ) (hc : r.group.calls[c]? = some ⟨i, p⟩) :
    D.stage (D.withTable r.group.cache ((D.table r.group.cache).launch k)) p =
      D.stage r.group.cache p := by
  refine stage_congr ?_
  rintro k' f rfl
  rw [D.table_withTable]
  exact FlightTable.flight_launch_of_lt (hD.lt_of_follow (Group.progress?_of_call hc))

/-- **A lookup about `k` starts.** -/
theorem Guided.cell_start (hD : D.Guided) (ageing : D.Ageing r now) (i : Nat) :
    (D.cell (r.next now (.start i (D.ask k))) k, r.shown (D.ask k) now (.start i (D.ask k))) =
      (D.cell r k).step D r.setups k now (.start i (D.ask k)) := by
  cases hi : r.group.handlers[i]? with
  | none =>
    have hu : r.setups[i]? = none := by rw [← r.setups_group, List.getElem?_map, hi]; rfl
    have hrests : r.group.Rests now (.start i (D.ask k)) :=
      ⟨by simp [Group.step, hi], by simp [Moment.opens?, hi], rfl⟩
    rw [hD.complete.cell_of_rests hrests]
    simp only [Cell.step, hu]
  | some h =>
    have hu : r.setups[i]? = some h.setup := Run.setup_of_handler hi
    have hpath : D.path h k = D.path h.setup.handler k := D.path_of_setup _ _ _ rfl
    have hdeadline : h.giveUpAt now = h.setup.handler.giveUpAt now := rfl
    have hold : D.replaceable now h = D.replaceable now h.setup.handler :=
      D.replaceable_of_setup _ _ _ rfl
    have hcell : (D.cell r k).standing = (D.table r.group.cache).standing k := rfl
    cases hown : (D.own now h k).1 with
    | some b =>
      -- the cache would have told the same
      obtain ⟨v, ready, good, hanswer⟩ :=
        (hD.complete.sound r).echoes ageing (List.mem_of_getElem? hi) k b hown
      rw [hD.cell_of_start hi (D.start_of_own hown) fun _ _ _ _ _ => rfl]
      simp [Cell.step, hu, hcell, ready, ← hold, good, hanswer]
    | none =>
      cases hs : (D.table r.group.cache).standing k with
      | pending =>
        obtain ⟨f, hc, hf⟩ :=
          FlightTable.exists_current_of_standing (t := D.table r.group.cache) (k := k) (by simp [hs])
        rw [hs] at hf
        rw [hD.cell_of_start hi (D.start_of_pending hown hc hf) fun _ _ _ _ _ => rfl]
        simp [Cell.step, hu, hcell, hs, stage_follow_of_pending hf]
      | ready v =>
        cases hr : D.replaceable now h v with
        | false =>
          rw [hD.cell_of_start hi (D.start_of_kept hown hs hr) fun _ _ _ _ _ => rfl]
          simp [Cell.step, hu, hcell, hs, ← hold, hr, tell]
        | true =>
          rw [hD.cell_of_start hi (D.start_of_free hown (by simp [hs]) (by simp [hs, hr]))
            fun _ _ _ _ hc => hD.stage_launch k hc]
          simp [Cell.step, hu, hcell, hs, ← hold, hr, D.table_withTable, Flight.value?, hpath, hdeadline]
      | abandoned =>
        rw [hD.cell_of_start hi (D.start_of_free hown (by simp [hs]) (by simp [hs]))
          fun _ _ _ _ hc => hD.stage_launch k hc]
        simp [Cell.step, hu, hcell, hs, D.table_withTable, Flight.value?, hpath, hdeadline]

/-! ## Turns of lookups about the key -/

theorem lookup_cell (hn : (r.lookups (D.ask k))[n]? = some c)
    (hc : r.group.calls[c]? = some ⟨i, p⟩) :
    (D.cell r k).lookup n = some (i, D.stage r.group.cache p) := by
  show ((r.lookups (D.ask k))[n]?).bind (D.view r.group) = _
  rw [hn, Option.bind_some, view_of_call hc]

theorem Complete.deadline?_cell (hD : D.Complete) (hn : (r.lookups (D.ask k))[n]? = some c) :
    (D.cell r k).deadline? n = r.group.deadline? c := by
  obtain ⟨i, p, hc, hfits⟩ := hD.exists_fits (List.mem_of_getElem? hn)
  rw [Cell.deadline?, lookup_cell hn hc, Option.bind_some, deadline?_stage _ hfits,
    Group.deadline?, Group.progress?_of_call hc, Option.bind_some]

theorem Complete.cell_of_turn (hD : D.Complete) {t : Turn} {g : Stage α → Stage α}
    (hn : (r.lookups (D.ask k))[n]? = some c) (ho : (r.moment now a).opens? = none)
    (he : (r.moment now a).endsOn? (D.ask k) = none)
    (hstep : r.group.step now a = r.group.turned c i t)
    (hstage : ∀ c' i p, c' ∈ r.lookups (D.ask k) → r.group.calls[c']? = some ⟨i, p⟩ →
      D.stage t.cache p = g (D.stage r.group.cache p)) :
    (D.cell (r.next now a) k, r.shown (D.ask k) now a) =
      ((D.cell r k).turn ((D.table t.cache).standing k) n i (D.stage t.cache t.progress) g, []) := by
  have hg : (r.next now a).group = r.group.put c i t.cache t.handler t.progress := by
    rw [r.group_next, hstep]
    rfl
  rw [cell_turn ho hn hg hstage, hD.shown_eq_nil (by rw [ho]; rfl) he]

/-- Followers of a flight that is settled are told what it has come to. -/
theorem Guided.stage_settle (hD : D.Guided) {l : Nat}
    (hl : r.group.progress? l = some (D.lead k f prev d)) (known : Option α)
    (hmem : c ∈ r.lookups (D.ask k)) (hc : r.group.calls[c]? = some ⟨i, p⟩) :
    D.stage (D.withTable r.group.cache ((D.table r.group.cache).settle f (.restored known))) p =
      (D.stage r.group.cache p).release known := by
  obtain ⟨i', p', hc', hfits⟩ := hD.complete.exists_fits hmem
  rw [hc, Option.some.injEq, Call.mk.injEq] at hc'
  obtain ⟨-, rfl⟩ := hc'
  cases hfits with
  | lead f' prev' d' => simp [Stage.release]
  | answered b learned => simp [Stage.release]
  | cancelled => simp [Stage.release]
  | follow f' =>
    have hpending := hD.pending_of_lead hl
    by_cases hff : f' = f
    · subst hff
      have htold : ((D.table r.group.cache).settle f' (.restored known)).poll f' = some known :=
        FlightTable.poll_of_restored (FlightTable.flight_settle_self (hD.lt_of_lead hl))
      rw [stage_follow_of_pending hpending, Stage.release]
      exact stage_follow_of_poll (by rw [D.table_withTable, htold])
    · -- the flight was settled before, as the pending flight of the key is another one
      have hr := (hD.complete.sound r).traffic
      have hold : (D.table r.group.cache).flight f' ≠ .pending := by
        intro hp
        have hcurrent := hr.follow_current c k f' (part_of_follow (Group.progress?_of_call hc)) hp
        rw [hr.lead_current l k f prev (part_of_lead hl)] at hcurrent
        exact hff (Option.some.inj hcurrent).symm
      have hsame : D.stage (D.withTable r.group.cache
          ((D.table r.group.cache).settle f (.restored known))) (D.follow k f') =
            D.stage r.group.cache (D.follow k f') := by
        refine stage_congr ?_
        intro k₂ f₂ he
        have hpart := D.part?_follow k f'
        rw [he, D.part?_follow, Option.some.injEq, Part.follow.injEq] at hpart
        rw [D.table_withTable, hpart.2, FlightTable.flight_settle_of_ne hff]
      rw [hsame]
      obtain ⟨hpending', -⟩ | ⟨known', -, hs⟩ := stage_follow (D := D) r.group.cache k f'
      · exact absurd hpending' hold
      · rw [hs]
        rfl

theorem standing_settled (hD : D.Guided) {l : Nat}
    (hl : r.group.progress? l = some (D.lead k f prev d)) (known : Option α) :
    (D.table (D.withTable r.group.cache ((D.table r.group.cache).settle f (.restored known)))).standing
      k = .restored known := by
  have hr := (hD.complete.sound r).traffic
  rw [D.table_withTable]
  exact hr.lawful.standing_settle_self (hr.lead_current l k f prev (part_of_lead hl))

/-- **An attempt about `k` ends**: the registry answers, or the time of the leader is over. -/
theorem Guided.cell_finish (hD : D.Guided) (hB : D.Blind)
    (hn : (r.lookups (D.ask k))[n]? = some c)
    (hc : r.group.calls[c]? = some ⟨i, D.lead k f prev d⟩) (hi : r.group.handlers[i]? = some h)
    {body : Option String} (heard : r.group.heard? now a = some (c, body)) :
    (D.cell (r.next now a) k, r.shown (D.ask k) now a) =
      (D.cell r k).hear n D r.setups k now body := by
  have hl := Group.progress?_of_call hc
  have hstep : r.group.step now a =
      r.group.turned c i (D.finish now r.group.cache h k f prev body) := by
    rw [Group.step_of_heard heard, Group.step, Group.takeTurn_eq hc hi, hD.receive_lead]
  have hg : (r.next now a).group =
      r.group.put c i
        (D.withTable r.group.cache ((D.table r.group.cache).settle f
          (.restored (some (D.attempt now h k prev body).1))))
        (D.keep h k (some (D.attempt now h k prev body).1))
        (.answered (D.answer (some (D.attempt now h k prev body).1))) := by
    rw [r.group_next, hstep]
    rfl
  have hopens : (r.moment now a).opens? = none := Moment.opens?_of_heard heard
  have hends : (r.moment now a).endsOn? (D.ask k) = some ⟨c, h, now, body⟩ :=
    (D.endsOn?_finish heard hc hi k).trans (if_pos rfl)
  have hevents := hD.complete.events_moment r now a k
  rw [hends, hD.last_of_lead hl] at hevents
  have hattempt : D.attempt now h = D.attempt now h.setup.handler := by
    rw [← hB.attempt now h, ← hB.attempt now h.setup.handler]
    rfl
  have hcell := cell_turn hopens hn hg fun c' i' p' hmem hc' =>
    hD.stage_settle hl (some (D.attempt now h k prev body).1) hmem hc'
  rw [standing_settled hD hl, stage_answered] at hcell
  have hshown : r.shown (D.ask k) now a =
      .hears body :: ((D.attempt now h k prev body).2.map .reports) := by
    simp only [Run.shown, hends, hevents, hopens, Option.filter_none,
      Run.asks?_of_opens? (q := D.ask k) (by rw [hopens]; rfl)]
    rfl
  have hu : r.setups[i]? = some h.setup := Run.setup_of_handler hi
  have hlookup := lookup_cell hn hc
  rw [stage_lead] at hlookup
  rw [hcell, hshown, hattempt]
  simp only [Cell.hear, hlookup, hu]
  rfl

omit [DecidableEq κ] in
theorem rests_of_turn (hc : r.group.calls[c]? = some ⟨i, p⟩) (hi : r.group.handlers[i]? = some h)
    (hstep : r.group.step now a = r.group.turned c i ⟨r.group.cache, h, p, none, []⟩)
    (ho : (r.moment now a).opens? = none) (he : (r.moment now a).ends? = none) :
    r.group.Rests now a :=
  ⟨hstep.trans (Group.turned_rest hc hi), ho, he⟩

omit [DecidableEq κ] in
theorem asks?_follow (k : κ) (f : Nat) : (D.follow k f).asks? = none := by
  cases hasks : (D.follow k f).asks? with
  | none => rfl
  | some q =>
    have habout := Progress.about?_of_asks? hasks
    rw [D.about?_follow, Option.some.injEq] at habout
    subst habout
    obtain ⟨f', prev, d, he⟩ := D.lead_of_asks? _ _ hasks
    have hpart := D.part?_follow k f
    rw [he, D.part?_lead] at hpart
    cases hpart

omit [DecidableEq κ] in
theorem rests_of_ended (hc : r.group.calls[c]? = some ⟨i, p⟩) (ended : p.outcome?.isSome)
    (ha : a.call? = some c) (now : Instant) : r.group.Rests now a := by
  obtain ⟨h, hi⟩ := Run.exists_handler hc
  have hquiet : p.asks? = none := by
    cases p <;> first | rfl | cases ended
  have hresume : Lookup.resume r.group.cache h p = ⟨r.group.cache, h, p, none, []⟩ := by
    cases p <;> first | rfl | cases ended
  have habandon : Lookup.abandon r.group.cache h p = ⟨r.group.cache, h, p, none, []⟩ := by
    cases p <;> first | rfl | cases ended
  cases a with
  | start j q => cases ha
  | receive c' body =>
    obtain rfl := Option.some.inj ha
    exact Run.rests_receive ((Run.asks?_of_call hc).trans hquiet) now body
  | expire c' =>
    obtain rfl := Option.some.inj ha
    exact Run.rests_expire_of_quiet ((Run.asks?_of_call hc).trans hquiet) now
  | resume c' =>
    obtain rfl := Option.some.inj ha
    refine rests_of_turn hc hi ?_ rfl rfl
    rw [Group.step, Group.takeTurn_eq hc hi, hresume]
  | cancel c' =>
    obtain rfl := Option.some.inj ha
    refine rests_of_turn hc hi ?_ rfl rfl
    rw [Group.step, Group.takeTurn_eq hc hi, habandon]

theorem Complete.cell_of_ended (hD : D.Complete) {b : Group.Action}
    (hn : (r.lookups (D.ask k))[n]? = some c) (hc : r.group.calls[c]? = some ⟨i, p⟩)
    (hfits : D.Fits (D.values r k) k p) (ended : p.outcome?.isSome) (ha : a.call? = some c)
    (hb : b.call? = some n) :
    (D.cell (r.next now a) k, r.shown (D.ask k) now a) = (D.cell r k).step D r.setups k now b := by
  have hstage : (D.stage r.group.cache p).outcome?.isSome := by rwa [outcome?_stage _ hfits]
  rw [hD.cell_of_rests (rests_of_ended hc ended ha now),
    Cell.step_of_ended hb (lookup_cell hn hc) hstage]

/-- **A lookup about `k` hears the registry or its timer.** -/
theorem Guided.cell_hear (hD : D.Guided) (hB : D.Blind)
    (hn : (r.lookups (D.ask k))[n]? = some c) {body : Option String}
    (heard : r.group.heard? now a = some (c, body)) :
    (D.cell (r.next now a) k, r.shown (D.ask k) now a) =
      (D.cell r k).hear n D r.setups k now body := by
  obtain ⟨i, p, hc, hfits⟩ := hD.complete.exists_fits (List.mem_of_getElem? hn)
  obtain ⟨h, hi⟩ := Run.exists_handler hc
  have deaf : p.asks? = none → (∀ prev d, D.stage r.group.cache p ≠ .leads prev d) →
      (D.cell (r.next now a) k, r.shown (D.ask k) now a) =
        (D.cell r k).hear n D r.setups k now body := by
    intro hquiet hstage
    have hrests := Run.rests_receive ((Run.asks?_of_call hc).trans hquiet) now body
    rw [hD.complete.cell_of_rests (hrests.of_heard heard),
      Cell.hear_of_quiet (lookup_cell hn hc) hstage]
  cases hfits with
  | lead f prev d => exact hD.cell_finish hB hn hc hi heard
  | follow f =>
    refine deaf (asks?_follow k f) ?_
    obtain ⟨-, hs⟩ | ⟨known, -, hs⟩ := stage_follow (D := D) r.group.cache k f <;> rw [hs] <;> nofun
  | answered known learned => exact deaf rfl (by rw [stage_answered]; nofun)
  | cancelled => exact deaf rfl (by rw [stage_cancelled]; nofun)

/-- **The timer of a lookup about `k` runs off.** -/
theorem Guided.cell_expire (hD : D.Guided) (hB : D.Blind)
    (hn : (r.lookups (D.ask k))[n]? = some c) :
    (D.cell (r.next now (.expire c)) k, r.shown (D.ask k) now (.expire c)) =
      (D.cell r k).step D r.setups k now (.expire n) := by
  have hdue : ((D.cell r k).deadline? n).any (fun d => d.nanos ≤ now.nanos) =
      r.group.isDue now c := by
    rw [hD.complete.deadline?_cell hn, Group.isDue_eq]
  simp only [Cell.step, hdue]
  cases hd : r.group.isDue now c with
  | true => exact hD.cell_hear hB hn (Group.heard?_expire hd)
  | false => exact hD.complete.cell_of_rests (Group.rests_expire now hd)

/-- **A lookup about `k` looks at its flight.** -/
theorem Guided.cell_resume (hD : D.Guided) (hn : (r.lookups (D.ask k))[n]? = some c) :
    (D.cell (r.next now (.resume c)) k, r.shown (D.ask k) now (.resume c)) =
      (D.cell r k).step D r.setups k now (.resume n) := by
  obtain ⟨i, p, hc, hfits⟩ := hD.complete.exists_fits (List.mem_of_getElem? hn)
  obtain ⟨h, hi⟩ := Run.exists_handler hc
  have hlookup := lookup_cell hn hc
  have hstep : r.group.step now (.resume c) =
      r.group.turned c i (Lookup.resume r.group.cache h p) := by
    rw [Group.step, Group.takeTurn_eq hc hi]
  have hrest : Lookup.resume r.group.cache h p = ⟨r.group.cache, h, p, none, []⟩ →
      (D.cell (r.next now (.resume c)) k, r.shown (D.ask k) now (.resume c)) =
        (D.cell r k, []) := by
    intro hp
    rw [hp] at hstep
    exact hD.complete.cell_of_rests (rests_of_turn hc hi hstep rfl rfl)
  cases hfits with
  | lead f prev d =>
    rw [stage_lead] at hlookup
    rw [hrest (hD.resume_lead r.group.cache h k f prev d)]
    simp only [Cell.step, hlookup]
  | follow f =>
    rw [hD.resume_follow] at hstep hrest
    obtain ⟨hpending, hs⟩ | ⟨known, hpoll, hs⟩ := stage_follow (D := D) r.group.cache k f
    · rw [hs] at hlookup
      rw [hrest (by simp only [await, FlightTable.poll_eq_none_iff.2 hpending])]
      simp only [Cell.step, hlookup]
    · rw [hs] at hlookup
      have hawait : D.await r.group.cache h k f = D.tell r.group.cache h k known [] := by
        simp only [await, hpoll]
      rw [hawait] at hstep
      rw [hD.complete.cell_of_turn (g := id) hn rfl rfl hstep fun _ _ _ _ _ => rfl]
      simp only [Cell.step, hlookup, tell, stage_answered]
      rfl
  | answered known learned =>
    exact hD.complete.cell_of_ended hn hc (.answered known learned) rfl rfl rfl
  | cancelled => exact hD.complete.cell_of_ended hn hc .cancelled rfl rfl rfl

/-- **A lookup about `k` is given up.** -/
theorem Guided.cell_cancel (hD : D.Guided) (hn : (r.lookups (D.ask k))[n]? = some c) :
    (D.cell (r.next now (.cancel c)) k, r.shown (D.ask k) now (.cancel c)) =
      (D.cell r k).step D r.setups k now (.cancel n) := by
  obtain ⟨i, p, hc, hfits⟩ := hD.complete.exists_fits (List.mem_of_getElem? hn)
  obtain ⟨h, hi⟩ := Run.exists_handler hc
  have hlookup := lookup_cell hn hc
  have hstep : r.group.step now (.cancel c) =
      r.group.turned c i (Lookup.abandon r.group.cache h p) := by
    rw [Group.step, Group.takeTurn_eq hc hi]
  cases hfits with
  | lead f prev d =>
    have hl := Group.progress?_of_call hc
    rw [stage_lead] at hlookup
    rw [hD.abandon_lead] at hstep
    rw [hD.complete.cell_of_turn hn rfl rfl hstep fun c' i' p' hmem hc' =>
      hD.stage_settle hl prev hmem hc']
    have hstanding := standing_settled hD hl prev
    rw [stage_cancelled]
    simp only [Cell.step, hlookup]
    exact congrArg (fun x => ((D.cell r k).turn x n i .cancelled (Stage.release prev), [])) hstanding
  | follow f =>
    rw [hD.abandon_follow] at hstep
    rw [hD.complete.cell_of_turn (g := id) hn rfl rfl hstep fun _ _ _ _ _ => rfl, stage_cancelled]
    obtain ⟨-, hs⟩ | ⟨known, -, hs⟩ := stage_follow (D := D) r.group.cache k f
    · rw [hs] at hlookup
      simp only [Cell.step, hlookup]
      rfl
    · rw [hs] at hlookup
      simp only [Cell.step, hlookup]
      rfl
  | answered known learned =>
    exact hD.complete.cell_of_ended hn hc (.answered known learned) rfl rfl rfl
  | cancelled => exact hD.complete.cell_of_ended hn hc .cancelled rfl rfl rfl

/-! ## Steps elsewhere -/

theorem Complete.cell_elsewhere (hD : D.Complete) (ha : r.localize (D.ask k) a = none)
    (hc : c ≤ r.group.calls.length) (hmem : c ∉ r.lookups (D.ask k))
    (he : (r.moment now a).endsOn? (D.ask k) = none)
    (hg : (r.next now a).group = r.group.put c i cache' h p)
    (hstanding : (D.table cache').standing k = (D.table r.group.cache).standing k)
    (hstage : ∀ c' i p, c' ∈ r.lookups (D.ask k) → r.group.calls[c']? = some ⟨i, p⟩ →
      D.stage cache' p = D.stage r.group.cache p) :
    (D.cell (r.next now a) k, r.shown (D.ask k) now a) = (D.cell r k, []) := by
  have ho := Run.opens?_of_localize ha now
  have hview : ∀ c' ∈ r.lookups (D.ask k), D.view (r.next now a).group c' = D.view r.group c' := by
    intro c' hmem'
    have hne : c' ≠ c := by
      rintro rfl
      exact hmem hmem'
    rw [hg, view_put_of_ne (t := id) hc hne fun i p => hstage c' i p hmem', map_id_id]
  rw [cell_other (Run.lookups_next_of_none ho) (by rw [hg, Group.cache_put, hstanding]) hview,
    hD.shown_eq_nil ho he]

theorem Guided.stage_settle_of_ne (hD : D.Guided) {l : Nat} {k' : κ} (hne : k' ≠ k)
    (hl : r.group.progress? l = some (D.lead k' f prev d)) (s : Flight α)
    (hmem : c ∈ r.lookups (D.ask k)) (hc : r.group.calls[c]? = some ⟨i, p⟩) :
    D.stage (D.withTable r.group.cache ((D.table r.group.cache).settle f s)) p =
      D.stage r.group.cache p := by
  have hr := (hD.complete.sound r).traffic
  obtain ⟨i', p', hc', hfits⟩ := hD.complete.exists_fits hmem
  rw [hc, Option.some.injEq, Call.mk.injEq] at hc'
  obtain ⟨-, rfl⟩ := hc'
  refine stage_congr ?_
  rintro k₂ f₂ rfl
  rw [D.table_withTable]
  refine FlightTable.flight_settle_of_ne ?_
  rintro rfl
  -- it would be the pending flight of both keys
  have hcurrent := hr.follow_current c k₂ f₂ (part_of_follow (Group.progress?_of_call hc))
    (hD.pending_of_lead hl)
  have hkey : k' = k₂ :=
    hr.lawful.current_inj k' k₂ f₂ (hr.lead_current l k' f₂ prev (part_of_lead hl)) hcurrent
  exact hne (hkey.trans (D.ask_inj k₂ k (hfits.about? (D.about?_follow k₂ f₂))))

theorem standing_settled_of_ne (hD : D.Guided) {l : Nat} {k' : κ} (hne : k' ≠ k)
    (hl : r.group.progress? l = some (D.lead k' f prev d)) (s : Flight α) :
    (D.table (D.withTable r.group.cache ((D.table r.group.cache).settle f s))).standing k =
      (D.table r.group.cache).standing k := by
  have hr := (hD.complete.sound r).traffic
  rw [D.table_withTable]
  exact hr.lawful.standing_settle_of_ne (hr.lead_current l k' f prev (part_of_lead hl)) hne.symm

/-- **A step that is not about `k` leaves its cell alone, and shows nothing.** -/
theorem Guided.cell_rest (hD : D.Guided) (ha : r.localize (D.ask k) a = none) (now : Instant) :
    (D.cell (r.next now a) k, r.shown (D.ask k) now a) = (D.cell r k, []) := by
  have hr := (hD.complete.sound r).traffic
  have hnew : r.group.calls.length ∉ r.lookups (D.ask k) :=
    fun hmem => Nat.lt_irrefl _ (Run.lt_of_mem_lookups hmem)
  have hne : ∀ {i k'}, a = .start i (D.ask k') → k' ≠ k := by
    rintro i k' rfl rfl
    simp [Run.localize] at ha
  have hother : ∀ {c i k' f prev d}, a.call? = some c →
      r.group.calls[c]? = some ⟨i, D.lead k' f prev d⟩ → k' ≠ k := by
    rintro c i k' f prev d hcall hc rfl
    exact Run.notMem_of_localize ha hcall (hD.complete.mem_lookups_of_lead hc)
  obtain hm | hm := hD.complete now r.group a
  · generalize hx : r.group.step now a = x at hm
    have hg : (r.next now a).group = x.1 := by rw [r.group_next, hx]
    cases hm with
    | own hi | join hi | learn hi =>
      exact hD.complete.cell_elsewhere ha (Nat.le_refl _) hnew rfl hg rfl fun _ _ _ _ _ => rfl
    | @lead i h k' hi =>
      refine hD.complete.cell_elsewhere ha (Nat.le_refl _) hnew rfl hg ?_
        fun _ _ _ _ hc => hD.stage_launch k' hc
      rw [D.table_withTable]
      exact hr.lawful.standing_launch_of_ne (hne rfl).symm
    | hear hc | leave hc =>
      exact hD.complete.cell_elsewhere ha (Group.le_length_of_call hc)
        (Run.notMem_of_localize ha rfl) rfl hg rfl fun _ _ _ _ _ => rfl
    | @finish a c i h k' f prev d body heard hc hi =>
      have hcall := Group.call?_of_heard heard
      have hk := hother hcall hc
      have hl := Group.progress?_of_call hc
      refine hD.complete.cell_elsewhere ha (Group.le_length_of_call hc)
        (Run.notMem_of_localize ha hcall) ?_ hg (standing_settled_of_ne hD hk hl _)
        fun _ _ _ hmem hc' => hD.stage_settle_of_ne hk hl _ hmem hc'
      exact (D.endsOn?_finish heard hc hi k).trans (if_neg hk.symm)
    | @cancel c i h k' f prev d hc hi =>
      have hk := hother rfl hc
      have hl := Group.progress?_of_call hc
      exact hD.complete.cell_elsewhere ha (Group.le_length_of_call hc)
        (Run.notMem_of_localize ha rfl) rfl hg (standing_settled_of_ne hD hk hl _)
        fun _ _ _ hmem hc' => hD.stage_settle_of_ne hk hl _ hmem hc'
  · have ho := Run.opens?_of_localize ha now
    have htable : D.table (r.next now a).group.cache = D.table r.group.cache := by
      rw [r.group_next, hm.table]
    have hview : ∀ c ∈ r.lookups (D.ask k), D.view (r.next now a).group c = D.view r.group c := by
      intro c hmem
      obtain ⟨i, p, hc, hfits⟩ := hD.complete.exists_fits hmem
      have hstays : (r.next now a).group.calls[c]? = some ⟨i, p⟩ := by
        rw [r.group_next]
        exact hm.calls c _ hc fun q hq => ⟨k, hfits.about? hq⟩
      have hstage : D.stage (r.next now a).group.cache p = D.stage r.group.cache p :=
        stage_congr fun _ _ _ => by rw [htable]
      rw [view_of_call hstays, view_of_call hc, hstage]
    rw [cell_other (Run.lookups_next_of_none ho) (by rw [htable]) hview,
      hD.complete.shown_eq_nil ho (hm.ends k)]

/-- **A step about `k` does to its cell what `Cell.step` says, and shows what it says.** -/
theorem Guided.cell_next (hD : D.Guided) (hB : D.Blind) (ageing : D.Ageing r now)
    {b : Group.Action} (ha : r.localize (D.ask k) a = some b) :
    (D.cell (r.next now a) k, r.shown (D.ask k) now a) =
      (D.cell r k).step D r.setups k now b := by
  cases Run.localized ha with
  | start i => exact hD.cell_start ageing i
  | receive hn body => exact hD.cell_hear hB (Run.getElem?_of_place? hn) rfl
  | expire hn => exact hD.cell_expire hB (Run.getElem?_of_place? hn)
  | resume hn => exact hD.cell_resume (Run.getElem?_of_place? hn)
  | cancel hn => exact hD.cell_cancel (Run.getElem?_of_place? hn)

end

end Direction

end SchemaCatalog
