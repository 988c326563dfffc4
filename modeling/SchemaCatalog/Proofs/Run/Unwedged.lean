import SchemaCatalog.Proofs.Run.Outstanding
import SchemaCatalog.Proofs.Run.Settling

/-!
# No key is wedged

However long the registry is silent, a key is pending no longer than its leader waits: the leader has
set a timer, which ends its request. What comes later changes nothing, and whoever has waited is
answered.

* `Run.Timely`: the clock has passed no timer that is set.
* `Run.Agrees`: two runs of which the same is seen.
* `Run.agrees_of_rests`: a step that does nothing may be left out.
* `Direction.Shared.comesTo`: what a follower comes to.
* **`Run.no_wedged_key`**: requests, leaders, late answers and followers.
-/

namespace SchemaCatalog

namespace Group

variable {g : Group} {s : List (Instant × Group.Action)}

theorem moments_append (s s' : List (Instant × Group.Action)) :
    g.moments (s ++ s') = g.moments s ++ (g.replay s).moments s' := by
  induction s generalizing g with
  | nil => rfl
  | cons x s ih =>
    rw [List.cons_append, moments, moments, ih, List.cons_append]
    rfl

end Group

namespace Run

variable {r r' : Run} {now : Instant} {a : Group.Action} {c : Nat} {q : Question} {x : Request}
  {u : Setup}

/-! ## Steps that do nothing -/

def reports (r : Run) : List Event := r.past.flatMap fun m => m.effect.events

/-- Of both runs the same is seen: what is cached, what lookups came to, what was asked, what the
registry answered, and what was reported. -/
structure Agrees (r r' : Run) : Prop where
  group : r.group = r'.group
  started : r.started = r'.started
  sent : r.sent = r'.sent
  attempts : r.attempts = r'.attempts
  reports : r.reports = r'.reports

theorem group_extend (r : Run) (s : List (Instant × Group.Action)) :
    (r.extend s).group = r.group.replay s := by
  simp only [group, origin, extend, Group.replay, List.foldl_append]

theorem past_extend (r : Run) (s : List (Instant × Group.Action)) :
    (r.extend s).past = r.past ++ r.group.moments s :=
  Group.moments_append r.schedule s

/-- A step that does nothing may be left out. -/
theorem agrees_of_rests (hr : r.group.Rests now a) (s : List (Instant × Group.Action)) :
    ((r.next now a).extend s).Agrees (r.extend s) := by
  have hopens : (r.moment now a).opens? = none := hr.opens?
  have hends : (r.moment now a).ends? = none := hr.ends?
  have hgroup : (r.next now a).group = r.group := by rw [r.group_next, hr.step]
  have hpast : ((r.next now a).extend s).past =
      r.past ++ ([r.moment now a] ++ r.group.moments s) := by
    rw [past_extend, hgroup, r.past_next, List.append_assoc]
  have heffect : (r.moment now a).effect = .none := by rw [Moment.effect, moment, hr.step]
  refine ⟨?_, ?_, ?_, ?_, ?_⟩
  · rw [group_extend, hgroup, group_extend]
  · simp [started, hpast, past_extend, hopens]
  · simp [sent, hpast, past_extend, Moment.sends?, heffect, Group.Effect.none]
  · funext q
    simp [attempts, hpast, past_extend, Moment.endsOn?, hends]
  · simp [reports, hpast, past_extend, heffect, Group.Effect.none]

/-! ## Late answers -/

/-- The clock has passed no timer that is set: whoever has set it is resumed in time. -/
def Timely (r : Run) (now : Instant) : Prop :=
  ∀ c d, r.group.deadline? c = some d → now.nanos ≤ d.nanos

theorem Timely.recent (timely : r.Timely now) (hx : x ∈ r.outstanding) (hu : r.SentBy x u) :
    now.nanos ≤ (x.sent.after u.config.requestTimeout).nanos := by
  obtain ⟨u', hu', hd⟩ := armed hx
  rw [hu.unique hu']
  exact timely x.call _ hd

theorem asks?_of_late (timely : r.Timely now) (hx : x ∈ r.sent) (hu : r.SentBy x u)
    (late : (x.sent.after u.config.requestTimeout).nanos < now.nanos) :
    r.group.asks? x.call = none := by
  cases hq : r.group.asks? x.call with
  | none => rfl
  | some q =>
    obtain ⟨⟨y, hy, hcall⟩, -⟩ := (asks?_eq_some_iff r x.call q).1 hq
    obtain rfl := eq_of_call (r.outstanding_sublist.subset hy) hx hcall
    exact absurd (timely.recent hy hu) (Nat.not_le_of_gt late)

theorem agrees_of_late (timely : r.Timely now) (hx : x ∈ r.sent) (hu : r.SentBy x u)
    (late : (x.sent.after u.config.requestTimeout).nanos < now.nanos) (body : Option String)
    (s : List (Instant × Group.Action)) :
    ((r.next now (.receive x.call body)).extend s).Agrees (r.extend s) :=
  agrees_of_rests (rests_receive (asks?_of_late timely hx hu late) now body) s

/-! ## Pending keys -/

theorem not_pending_next (hx : x ∈ r.outstanding) (hq : r.question? x.call = some q)
    (hs : (r.moment now a).stops? = some x.call) : ¬ (r.next now a).group.cache.Pending q := by
  rw [pending_iff]
  rintro ⟨y, hy, hyq⟩
  obtain ⟨hy, hstill⟩ | hnew := mem_outstanding_next.1 hy
  · -- there is no other request about the key
    rw [question?_of_lt (lt_of_outstanding hy)] at hyq
    have hcall : y.call = x.call :=
      eq_of_asks? ((asks?_of_outstanding hy).trans hyq) ((asks?_of_outstanding hx).trans hq)
    exact hstill (by rw [hs, hcall])
  · rw [sends?_of_stops hs] at hnew
    cases hnew

/-- The leader of a pending key has sent a request `x` about it on a handler made from `u`, which is
outstanding and not too old. It is the only one. Its timer does nothing before the time of the handler
is over; from then on it ends the request, which frees the key, as if the registry had failed. -/
structure Leader (r : Run) (now : Instant) (q : Question) (x : Request) (u : Setup) : Prop where
  outstanding : x ∈ r.outstanding
  question : r.question? x.call = some q
  sentBy : r.SentBy x u
  recent : now.since x.sent ≤ u.config.requestTimeout.nanos
  only : ∀ l, r.group.asks? l = some q ↔ l = x.call
  early : ∀ now', now'.nanos < (x.sent.after u.config.requestTimeout).nanos →
    r.group.Rests now' (.expire x.call)
  due : ∀ now', (x.sent.after u.config.requestTimeout).nanos ≤ now'.nanos →
    (r.moment now' (.expire x.call)).stops? = some x.call ∧
      r.group.step now' (.expire x.call) = r.group.step now' (.receive x.call none)
  frees : ∀ now' a, (r.moment now' a).stops? = some x.call →
    ¬ (r.next now' a).group.cache.Pending q

/-- A pending key has exactly one leader, whose request is not older than its handler waits. -/
theorem exists_leader_of_pending (timely : r.Timely now) (hq : r.group.cache.Pending q) :
    ∃ x u, r.Leader now q x u := by
  obtain ⟨x, hx, hxq⟩ := (pending_iff r q).1 hq
  obtain ⟨u, hu, hd⟩ := armed hx
  have hasks : r.group.asks? x.call = some q := (asks?_of_outstanding hx).trans hxq
  have hdue : ∀ now' : Instant, r.group.isDue now' x.call =
      decide ((x.sent.after u.config.requestTimeout).nanos ≤ now'.nanos) := by
    intro now'
    rw [Group.isDue_eq, hd, Option.any_some]
  refine ⟨x, u, hx, hxq, hu, ?_, ?_, ?_, ?_, fun now' a => not_pending_next hx hxq⟩
  · exact Nat.sub_le_iff_le_add'.2 (timely.recent hx hu)
  · intro l
    constructor
    · intro hl
      exact eq_of_asks? hl hasks
    · rintro rfl
      exact hasks
  · intro now' early
    refine Group.rests_expire now' ?_
    rw [hdue, decide_eq_false_iff_not]
    exact Nat.not_le_of_gt early
  · intro now' due
    have hover : r.group.isDue now' x.call := by
      rw [hdue, decide_eq_true_iff]
      exact due
    exact ⟨stops?_eq_some.2 (Or.inr ⟨none, Group.heard?_expire hover⟩),
      Group.step_expire_of_due now' hover⟩

end Run

/-! ## Followers -/

namespace Direction

variable {κ α : Type} [DecidableEq κ] {D : Direction κ α} {r : Run} {c l f : Nat} {k : κ}
  {prev : Option α} {d : Instant} {b : Answer}

omit [DecidableEq κ] in
theorem lead_ne_answered : D.lead k f prev d ≠ .answered b := by
  intro he
  have hpart := D.part?_lead k f prev d
  rw [he, D.part?_answered] at hpart
  cases hpart

omit [DecidableEq κ] in
theorem lead_ne_cancelled : D.lead k f prev d ≠ .cancelled := by
  intro he
  have hpart := D.part?_lead k f prev d
  rw [he, D.part?_cancelled] at hpart
  cases hpart

/-- A follower comes to the answer of its leader, or to what the flight had replaced. -/
theorem Shared.comesTo (hD : D.Guided) (h : D.Shared r l c k f prev) :
    (∀ b, r.group.progress? l = some (.answered b) → r.ComesTo c b) ∧
      (r.group.progress? l = some .cancelled → r.ComesTo c (D.answer prev)) := by
  cases h with
  | pending d leads joined =>
    rw [leads]
    refine ⟨fun b hb => ?_, fun hb => ?_⟩
    · exact absurd (Option.some.inj hb) lead_ne_answered
    · exact absurd (Option.some.inj hb) lead_ne_cancelled
  | completed v led told =>
    rw [led]
    refine ⟨?_, nofun⟩
    rintro b ⟨⟩
    exact hD.comesTo told
  | restored led told =>
    rw [led]
    exact ⟨nofun, fun _ => hD.comesTo told⟩

theorem Guided.joined (hD : D.Guided) (hp : r.group.progress? c = some (D.follow k f))
    (pending : (D.table r.group.cache).flight f = .pending) :
    ∃ l prev d, r.group.progress? l = some (D.lead k f prev d) ∧
      ∀ later,
        (∀ b, (r.extend later).group.progress? l = some (.answered b) →
          (r.extend later).ComesTo c b) ∧
        ((r.extend later).group.progress? l = some .cancelled →
          (r.extend later).ComesTo c (D.answer prev)) := by
  obtain ⟨l, prev, d, hl⟩ := hD.exists_leader hp pending
  refine ⟨l, prev, d, hl, fun later => ?_⟩
  have hshared : D.Shared r l c k f prev := .pending d hl (Or.inl hp)
  exact (hD.shared_extend hshared later).comesTo hD

end Direction

namespace Run

variable {r : Run} {l f : Nat} {id : SchemaId} {prev : Option CachedSchema} {d : Instant}

theorem content_of_lead (hp : r.group.progress? l = some (.leadContent id f prev d)) :
    prev.bind CachedSchema.content = none := by
  cases prev with
  | none => rfl
  | some v =>
    have hlead : contents.part r.group l = some (.lead id f (some v)) :=
      Direction.part_of_lead hp
    obtain ⟨x, -, u, -, hold⟩ := (contents_complete.sound r).spent.replacing l id f v hlead
    exact Option.isNone_iff_eq_none.1 hold

/-- **No key is wedged.** As long as the clock passes no timer that is set: no two requests about one
key are outstanding; a pending key has exactly one leader, whose request is not older than its handler
waits, and is free when that request ends, by its timer at the latest; an answer that comes later
changes nothing, now or ever after; and who has joined an attempt comes to the answer of its leader, or
to what was known before if the leader is given up. -/
theorem no_wedged_key (r : Run) (now : Instant) (timely : r.Timely now) :
    (r.outstanding.map fun x => r.question? x.call).Nodup ∧
    (∀ q, r.group.cache.Pending q → ∃ x u, r.Leader now q x u) ∧
    (∀ x ∈ r.sent, ∃ u, r.SentBy x u ∧
      ((x.sent.after u.config.requestTimeout).nanos < now.nanos → ∀ body later,
        ((r.next now (.receive x.call body)).extend later).Agrees (r.extend later))) ∧
    (∀ id f c, r.group.progress? c = some (.followContent id f) →
      r.group.cache.schemas.flight f = .pending →
      ∃ l prev d, r.group.progress? l = some (.leadContent id f prev d) ∧
        ∀ later,
          (∀ b, (r.extend later).group.progress? l = some (.answered b) →
            (r.extend later).ComesTo c b) ∧
          ((r.extend later).group.progress? l = some .cancelled →
            (r.extend later).ComesTo c (.content none))) ∧
    (∀ key f c, r.group.progress? c = some (.followId key f) →
      r.group.cache.ids.flight f = .pending →
      ∃ l prev d, r.group.progress? l = some (.leadId key f prev d) ∧
        ∀ later,
          (∀ b, (r.extend later).group.progress? l = some (.answered b) →
            (r.extend later).ComesTo c b) ∧
          ((r.extend later).group.progress? l = some .cancelled →
            (r.extend later).ComesTo c (.id (prev.bind Mapping.id)))) := by
  refine ⟨r.nodup_outstanding, fun q hq => exists_leader_of_pending timely hq, ?_, ?_, ?_⟩
  · intro x hx
    obtain ⟨u, hu⟩ := exists_sentBy hx
    exact ⟨u, hu, fun late body later => agrees_of_late timely hx hu late body later⟩
  · intro id f c hp pending
    obtain ⟨l, prev, d, hl, hlater⟩ := contents_guided.joined hp pending
    have hnone : contents.answer prev = .content none := congrArg Answer.content (content_of_lead hl)
    rw [hnone] at hlater
    exact ⟨l, prev, d, hl, hlater⟩
  · intro key f c hp pending
    exact ids_guided.joined hp pending

/-- Two handlers ask for one id, and the registry is silent. -/
def hanging : Run where
  setups := [⟨1, .standard, .record⟩, ⟨2, .standard, .record⟩]
  schedule :=
    [(.ofMillis 0, .start 0 (.id ⟨"a", "1"⟩)), (.ofMillis 5000, .start 1 (.id ⟨"a", "1"⟩))]

/-- When the time of the leader is over, the follower is answered too. -/
theorem no_wedged_key_hanging :
    hanging.outstanding.length = 1 ∧
      (hanging.extend [(.ofMillis 10000, .expire 0)]).ComesTo 1 (.id none) := by
  refine ⟨by decide +kernel, ?_⟩
  have hlen : hanging.group.calls.length = 2 := by decide +kernel
  have hfirst : hanging.group.deadline? 0 = some (.ofMillis 10000) := by decide +kernel
  have hsecond : hanging.group.deadline? 1 = none := by decide +kernel
  have timely : hanging.Timely (.ofMillis 10000) := by
    intro c d hd
    obtain rfl | rfl | hc : c = 0 ∨ c = 1 ∨ 2 ≤ c := by omega
    · rw [hfirst] at hd
      cases hd
      exact Nat.le_refl _
    · rw [hsecond] at hd
      cases hd
    · rw [Group.deadline?, Group.progress?_eq_none (by rwa [hlen])] at hd
      cases hd
  obtain ⟨-, -, -, -, joined⟩ := no_wedged_key hanging (.ofMillis 10000) timely
  obtain ⟨l, prev, d, hl, later⟩ := joined ⟨"a", "1"⟩ 0 1 (by decide +kernel) (by decide +kernel)
  have hleads : hanging.group.deadline? l = some d := by
    rw [Group.deadline?, hl, Option.bind_some]
    rfl
  have hlt : l < 2 := by
    rw [← hlen]
    exact Group.lt_of_progress? hl
  obtain rfl | rfl : l = 0 ∨ l = 1 := by omega
  · exact (later _).1 (.id none) (by decide +kernel)
  · rw [hsecond] at hleads
    cases hleads

end Run

end SchemaCatalog
