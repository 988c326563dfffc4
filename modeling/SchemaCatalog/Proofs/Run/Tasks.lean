import SchemaCatalog.Catalog.Scheduler
import SchemaCatalog.Proofs.Run.LocalTier
import SchemaCatalog.Proofs.Run.Outstanding

/-!
# Tasks make runs

Whatever a scheduler is told to do, its groups go through the steps of a schedule on a clock that never
goes back. So what holds of every run holds of the lookups of tasks.

* `Fleet.after`: the groups after a schedule.
* `Scheduler.Plays`: a scheduler comes from another one by a schedule, and what it has asked and
  reported is what is seen of that.
* `Scheduler.Goes`: it does as long as no deadline has passed.
* `Scheduler.obey`: a scheduler does what it is told.
* **`Scheduler.exists_plays`**: each order is carried out by a schedule.
* **`Scheduler.exists_runs`**: after any orders the groups are those of runs.
-/

namespace SchemaCatalog

namespace Fleet

/-- The groups after a schedule. -/
def after (gs : List Group) (s : List Happening) : List Group :=
  s.foldl (fun gs x => (step gs x).1) gs

variable {gs : List Group} {rs : List Run} {s s' : List Happening} {x : Happening} {r : Run}

theorem after_append : after gs (s ++ s') = after (after gs s) s' :=
  List.foldl_append

theorem seen_append : seen gs (s ++ s') = seen gs s ++ seen (after gs s) s' := by
  induction s generalizing gs with
  | nil => rfl
  | cons x s ih =>
    rw [List.cons_append, seen, seen, ih]
    rfl

/-- Groups that go through a schedule go through runs. -/
theorem exists_runs_after (ordered : s.Pairwise fun x y => x.now.nanos ≤ y.now.nanos)
    (hrs : ∀ r ∈ rs, r.Ordered ∧ ∀ y ∈ r.schedule, ∀ x ∈ s, y.1.nanos ≤ x.now.nanos) :
    ∃ rs' : List Run, after (rs.map Run.group) s = rs'.map Run.group ∧
      rs'.map Run.setups = rs.map Run.setups ∧ ∀ r ∈ rs', r.Ordered := by
  induction s generalizing rs with
  | nil => exact ⟨rs, rfl, rfl, fun r hr => (hrs r hr).1⟩
  | cons x s ih =>
    have htail : ∀ r ∈ rs, r.Ordered ∧ ∀ y ∈ r.schedule, ∀ x ∈ s, y.1.nanos ≤ x.now.nanos :=
      fun r hr => ⟨(hrs r hr).1, fun y hy x hx => (hrs r hr).2 y hy x (List.mem_cons_of_mem _ hx)⟩
    cases hx : rs[x.group]? with
    | none =>
      have hafter : after (rs.map Run.group) (x :: s) = after (rs.map Run.group) s := by
        rw [after, List.foldl_cons, step_of_none hx, after]
      rw [hafter]
      exact ih ordered.tail htail
    | some r =>
      obtain ⟨hr, hpast⟩ := hrs r (List.mem_of_getElem? hx)
      obtain ⟨hlt, hget⟩ := List.getElem?_eq_some_iff.1 hx
      have hafter : after (rs.map Run.group) (x :: s) =
          after ((rs.set x.group (r.next x.now x.action)).map Run.group) s := by
        rw [after, List.foldl_cons, step_of_some hx, after]
      have hsetups : (rs.set x.group (r.next x.now x.action)).map Run.setups =
          rs.map Run.setups := by
        have hlt' : x.group < (rs.map Run.setups).length := by simpa using hlt
        have hsame : (r.next x.now x.action).setups = (rs.map Run.setups)[x.group] := by
          rw [List.getElem_map, hget, r.setups_next]
        rw [List.map_set, hsame, List.set_getElem_self]
      rw [hafter, ← hsetups]
      -- only the run of this group has grown, by a step that is before what is left of the schedule
      refine ih ordered.tail fun r' hr' => ?_
      obtain hold | rfl := List.mem_or_eq_of_mem_set hr'
      · exact htail r' hold
      · refine ⟨(r.ordered_next _ _).2 ⟨hr, fun y hy => hpast y hy x List.mem_cons_self⟩, ?_⟩
        intro y hy x' hx'
        obtain hold | hnew := List.mem_append.1 hy
        · exact hpast y hold x' (List.mem_cons_of_mem _ hx')
        · rw [List.mem_singleton.1 hnew]
          exact List.rel_of_pairwise_cons ordered hx'

end Fleet

namespace Scheduler

/-- No deadline has passed. -/
def Ahead (s : Scheduler) : Prop := ∀ d ∈ s.deadlines, s.now ≤ d.1

/-- The groups of `s` have gone through the schedule `hs` by `s'`, between the readings of both clocks.
What was asked and reported in the meantime is what is seen of the schedule. -/
structure Plays (s : Scheduler) (hs : List Happening) (s' : Scheduler) : Prop where
  groups : s'.groups = Fleet.after s.groups hs
  requests : s'.requests =
    s.requests ++ (Fleet.seen s.groups hs).flatMap fun x => x.1.request.toList
  events : s'.events.map Prod.snd =
    s.events.map Prod.snd ++ (Fleet.seen s.groups hs).flatMap fun x => x.1.events
  ordered : hs.Pairwise fun x y => x.now.nanos ≤ y.now.nanos
  within : ∀ x ∈ hs, ∃ ms, x.now = .ofMillis ms ∧ s.now ≤ ms ∧ ms ≤ s'.now
  clock : s.now ≤ s'.now

/-- As long as no deadline has passed, `s'` comes from `s` by a schedule, and none has passed then. -/
def Goes (s s' : Scheduler) : Prop := s.Ahead → s'.Ahead ∧ ∃ hs, s.Plays hs s'

/-- The same while the clock stands still. -/
structure Works (s s' : Scheduler) : Prop where
  now : s'.now = s.now
  goes : s.Goes s'

variable {s s' s'' : Scheduler} {hs hs' : List Happening} {n call time : Nat} {t : Task}
  {q : Question} {d : Instant} {path : String}

theorem Plays.trans (h : s.Plays hs s') (h' : s'.Plays hs' s'') : s.Plays (hs ++ hs') s'' where
  groups := by rw [h'.groups, h.groups, Fleet.after_append]
  requests := by
    rw [h'.requests, h.requests, h.groups, Fleet.seen_append, List.flatMap_append,
      List.append_assoc]
  events := by
    rw [h'.events, h.events, h.groups, Fleet.seen_append, List.flatMap_append, List.append_assoc]
  ordered := by
    refine List.pairwise_append.2 ⟨h.ordered, h'.ordered, fun x hx y hy => ?_⟩
    obtain ⟨ms, hms, -, hle⟩ := h.within x hx
    obtain ⟨ms', hms', hle', -⟩ := h'.within y hy
    rw [hms, hms']
    exact Nat.mul_le_mul_right _ (hle.trans hle')
  within x hx := by
    have hclock := h.clock
    have hclock' := h'.clock
    obtain hx | hx := List.mem_append.1 hx
    · obtain ⟨ms, hms, hle, hle'⟩ := h.within x hx
      exact ⟨ms, hms, hle, by omega⟩
    · obtain ⟨ms, hms, hle, hle'⟩ := h'.within x hx
      exact ⟨ms, hms, by omega, hle'⟩
  clock := h.clock.trans h'.clock

theorem Goes.trans (h : s.Goes s') (h' : s'.Goes s'') : s.Goes s'' := by
  intro ahead
  obtain ⟨ahead', hs, plays⟩ := h ahead
  obtain ⟨ahead'', hs', plays'⟩ := h' ahead'
  exact ⟨ahead'', hs ++ hs', plays.trans plays'⟩

theorem Works.trans (h : s.Works s') (h' : s'.Works s'') : s.Works s'' :=
  ⟨h'.now.trans h.now, h.goes.trans h'.goes⟩

/-- Tasks, queue and replies are of no consequence, and deadlines may be dropped. -/
theorem works_of_still (hnow : s'.now = s.now) (hgroups : s'.groups = s.groups)
    (hrequests : s'.requests = s.requests) (hevents : s'.events = s.events)
    (hdeadlines : s'.deadlines ⊆ s.deadlines) : s.Works s' := by
  refine ⟨hnow, fun ahead => ⟨fun d hd => ?_, [], ?_⟩⟩
  · rw [hnow]
    exact ahead d (hdeadlines hd)
  · exact ⟨hgroups, by simp [hrequests, Fleet.seen], by simp [hevents, Fleet.seen], .nil, nofun,
      Nat.le_of_eq hnow.symm⟩

theorem Works.refl (s : Scheduler) : s.Works s := works_of_still rfl rfl rfl rfl (List.Subset.refl _)

/-! ## Tasks -/

theorem works_act (s : Scheduler) (t : Task) (a : Group.Action) : s.Works (s.act t a).1 := by
  cases hg : s.groups[t.group]? with
  | none =>
    simp only [act, hg]
    exact .refl s
  | some g =>
    have hstep : Fleet.step s.groups ⟨t.group, .ofMillis s.now, a⟩ =
        (s.groups.set t.group (g.step (.ofMillis s.now) a).1, (g.step (.ofMillis s.now) a).2) := by
      simp only [Fleet.step, hg]
    simp only [act, hg]
    refine ⟨rfl, fun ahead => ⟨ahead, [⟨t.group, .ofMillis s.now, a⟩], ?_⟩⟩
    refine ⟨?_, ?_, ?_, List.pairwise_singleton _ _, ?_, Nat.le_refl _⟩
    · simp [Fleet.after, hstep]
    · simp [Fleet.seen, hstep]
    · simp [Fleet.seen, hstep, Function.comp_def]
    · intro x hx
      rw [List.mem_singleton.1 hx]
      exact ⟨s.now, rfl, Nat.le_refl _, Nat.le_refl _⟩

theorem works_finish (s : Scheduler) (n : Nat) (t : Task) (state : TaskState) :
    s.Works (s.finish n t state) :=
  works_of_still rfl rfl rfl rfl (List.filter_subset_self _)

theorem works_setState (s : Scheduler) (n : Nat) (t : Task) (state : TaskState) :
    s.Works (s.setState n t state) :=
  works_of_still rfl rfl rfl rfl (List.Subset.refl _)

theorem works_wake (s : Scheduler) : s.Works s.wake :=
  works_of_still rfl rfl rfl rfl (List.Subset.refl _)

theorem works_conclude (s : Scheduler) (n : Nat) (t : Task) (call : Nat) :
    s.Works (s.conclude n t call) := by
  unfold conclude
  split
  · exact s.works_finish n t _
  · exact .refl s

theorem works_poll (s : Scheduler) (n : Nat) (t : Task) (call : Nat) (arrival : Option Arrival) :
    s.Works (s.poll n t call arrival) :=
  ((s.works_act t _).trans (works_conclude _ n t call)).trans (works_wake _)

theorem le_arrival {reg : Registry} {now : Nat} {x : Arrival} (hx : reg.arrival? now path = some x) :
    now ≤ x.time := by
  unfold Registry.arrival? at hx
  split at hx
  · obtain rfl := Option.some.inj hx
    exact Nat.le_add_right _ _
  · cases hx

/-- The timer of a lookup that starts is set to no earlier time. -/
theorem le_deadline (hpath : (s.act t (.start t.handler q)).2 = some path)
    (hd : (((s.act t (.start t.handler q)).1.progress? t
      (((s.groups[t.group]?).map fun g => g.calls.length).getD 0)).bind Progress.deadline?) =
        some d) : s.now ≤ d.ceilMillis := by
  cases hg : s.groups[t.group]? with
  | none => simp [act, hg] at hpath
  | some g =>
    obtain ⟨hlt, -⟩ := List.getElem?_eq_some_iff.1 hg
    cases hi : g.handlers[t.handler]? with
    | none => simp [act, hg, Group.step, hi, Group.Effect.none] at hpath
    | some h =>
      have hprogress : (g.step (.ofMillis s.now) (.start t.handler q)).1.progress? g.calls.length =
          some (Lookup.start (.ofMillis s.now) g.cache h q).progress := by
        rw [Group.step_start hi, Group.progress?_turned (Nat.le_refl _)]
      simp only [act, hg, progress?, Option.map_some, Option.getD_some, List.getElem?_set_self hlt,
        Option.bind_some, hprogress, (Lookup.waits_start (.ofMillis s.now) g.cache h q).2] at hd
      obtain ⟨-, -, rfl⟩ := Option.map_eq_some_iff.1 hd
      simp only [Handler.giveUpAt, Instant.after, Instant.ofMillis, Instant.ceilMillis]
      omega

/-- Deadlines that are to come may be set. -/
theorem works_arm (s : Scheduler) (n : Nat) (t : Task) (state : TaskState) {times : List Nat}
    (htimes : ∀ time ∈ times, s.now ≤ time) :
    s.Works { s.setState n t state with
      deadlines := s.deadlines ++ times.map fun time => (time, n) } := by
  refine ⟨rfl, fun ahead => ⟨fun d hd => ?_, [], rfl, by simp [Fleet.seen, setState],
    by simp [Fleet.seen, setState], .nil, nofun, Nat.le_refl _⟩⟩
  obtain hold | hnew := List.mem_append.1 hd
  · exact ahead d hold
  · obtain ⟨time, htime, rfl⟩ := List.mem_map.1 hnew
    exact htimes time htime

theorem works_begin (s : Scheduler) (n : Nat) (t : Task) (q : Question) :
    s.Works (s.begin n t q) := by
  have hact := s.works_act t (.start t.handler q)
  unfold begin
  dsimp only
  split
  · exact (hact.trans (works_setState _ n t _)).trans (works_conclude _ n t _)
  · next path hpath =>
    -- whatever comes first wakes the task: the answer of the registry or the timer of the lookup
    refine (hact.trans (works_arm _ n t _ fun time htime => ?_)).trans (works_poll _ n t _ _)
    obtain htime | htime := List.mem_append.1 htime
    · obtain ⟨x, hx, rfl⟩ := Option.map_eq_some_iff.1 (Option.mem_toList.1 htime)
      exact le_arrival hx
    · obtain ⟨d, hd, rfl⟩ := Option.map_eq_some_iff.1 (Option.mem_toList.1 htime)
      rw [hact.now]
      exact le_deadline hpath hd

theorem works_drop (s : Scheduler) (n : Nat) (t : Task) : s.Works (s.drop n t) := by
  unfold drop
  refine Works.trans ?_ ((works_finish _ n t _).trans (works_wake _))
  split
  · exact s.works_act t _
  · exact .refl s

theorem works_runTask (s : Scheduler) (n : Nat) : s.Works (s.runTask n) := by
  unfold runTask
  split
  · exact .refl s
  · next t ht =>
    split_ifs
    · exact .refl s
    · exact s.works_drop n t
    · split
      · next call arrival hstate =>
        split_ifs
        · exact s.works_poll n t call arrival
        · exact (s.works_act t _).trans (works_conclude _ n t call)
      · split
        · next q hq => exact s.works_begin n t q
        · split
          · exact s.works_setState n t _
          · exact s.works_setState n t _

theorem works_runReady (fuel : Nat) (s : Scheduler) : s.Works (runReady fuel s) := by
  induction fuel generalizing s with
  | zero => exact .refl s
  | succ fuel ih =>
    unfold runReady
    split
    · exact .refl s
    · next n rest hready =>
      have hqueue : s.Works { s with ready := rest } :=
        works_of_still rfl rfl rfl rfl (List.Subset.refl _)
      exact (hqueue.trans (works_runTask _ n)).trans (ih _)

theorem works_settle (s : Scheduler) : s.Works s.settle := works_runReady _ s

/-! ## The clock -/

theorem goes_advance (htime : s.now ≤ time) : s.Goes (s.advance time) := by
  refine fun ahead => ⟨fun d hd => ?_, [], rfl, by simp [Fleet.seen, advance],
    by simp [Fleet.seen, advance], .nil, nofun, htime⟩
  simp only [advance, List.partition_eq_filter_filter, List.mem_filter] at hd
  have hlater := hd.2
  simp at hlater
  exact Nat.le_of_lt hlater

theorem mem_of_nextDeadline (h : s.nextDeadline? = some time) : ∃ d ∈ s.deadlines, d.1 = time := by
  obtain ⟨d, hd, he⟩ := List.mem_map.1 (List.min?_mem h)
  exact ⟨d, hd, he⟩

/-- The clock goes to the next deadline. -/
theorem goes_nextDeadline (h : s.nextDeadline? = some time) : s.Goes (s.advance time) := by
  intro ahead
  obtain ⟨d, hd, rfl⟩ := mem_of_nextDeadline h
  exact goes_advance (ahead d hd) ahead

theorem goes_runUntil (fuel : Nat) (htime : s.now ≤ time) : s.Goes (runUntil time fuel s) := by
  induction fuel generalizing s with
  | zero => exact goes_advance htime
  | succ fuel ih =>
    have hsettle := s.works_settle
    have htime' : s.settle.now ≤ time := by rwa [hsettle.now]
    refine hsettle.goes.trans ?_
    unfold runUntil
    dsimp only
    split
    · next d hd =>
      split_ifs with hle
      · exact (goes_nextDeadline hd).trans (ih hle)
      · exact goes_advance htime'
    · exact goes_advance htime'

theorem goes_sleep (s : Scheduler) (ms : Nat) : s.Goes (s.sleep ms) :=
  (s.works_settle.goes.trans (goes_runUntil _ (Nat.le_add_right _ _))).trans
    (works_settle _).goes

theorem goes_awaitWithin (n fuel : Nat) (s : Scheduler) : s.Goes (awaitWithin n fuel s) := by
  induction fuel generalizing s with
  | zero => exact (Works.refl s).goes
  | succ fuel ih =>
    refine s.works_settle.goes.trans ?_
    unfold awaitWithin
    dsimp only
    split_ifs
    · exact (Works.refl _).goes
    · split
      · next d hd => exact (goes_nextDeadline hd).trans (ih _)
      · exact (Works.refl _).goes

/-! ## Orders -/

/-- What a scheduler can be told. -/
inductive Order
  | spawn (group handler : Nat) (job : Job)
  | abort (task : Nat)
  | settle
  | sleep (ms : Nat)
  | await (task : Nat)
  | answer (path : String) (reply : Reply)

/-- A scheduler does what it is told. -/
def obey (s : Scheduler) : Order → Scheduler
  | .spawn group handler job => (s.spawn group handler job).2
  | .abort n => s.abort n
  | .settle => s.settle
  | .sleep ms => s.sleep ms
  | .await n => s.await n
  | .answer path reply => { s with registry := s.registry.set path reply }

theorem goes_obey (s : Scheduler) (o : Order) : s.Goes (s.obey o) := by
  cases o with
  | spawn group handler job | answer path reply =>
    refine Works.goes ?_
    exact works_of_still rfl rfl rfl rfl (List.Subset.refl _)
  | abort n =>
    refine Works.goes ?_
    simp only [obey, abort]
    split
    · split_ifs
      · exact .refl s
      · exact works_of_still rfl rfl rfl rfl (List.Subset.refl _)
    · exact .refl s
  | settle => exact s.works_settle.goes
  | sleep ms => exact s.goes_sleep ms
  | await n => exact goes_awaitWithin n _ s

/-- **Whatever a scheduler is told, it goes through a schedule.** -/
theorem exists_plays (crews : List (List Setup)) (orders : List Order) :
    ∃ hs, (start (Fleet.ofCrews crews)).Plays hs (orders.foldl obey (start (Fleet.ofCrews crews))) := by
  have hgoes : ∀ s : Scheduler, s.Goes (orders.foldl obey s) := by
    induction orders with
    | nil => exact fun s => (Works.refl s).goes
    | cons o orders ih => exact fun s => (s.goes_obey o).trans (ih _)
  have ahead : (start (Fleet.ofCrews crews)).Ahead := nofun
  exact (hgoes _ ahead).2

/-- **Its groups are those of runs** on a clock that never goes back. -/
theorem exists_runs (crews : List (List Setup)) (orders : List Order) :
    ∃ rs : List Run, (orders.foldl obey (start (Fleet.ofCrews crews))).groups = rs.map Run.group ∧
      rs.map Run.setups = crews ∧ ∀ r ∈ rs, r.Ordered := by
  obtain ⟨hs, plays⟩ := exists_plays crews orders
  have hcrews : Fleet.ofCrews crews = (crews.map fun us => Run.mk us []).map Run.group := by
    rw [List.map_map]
    rfl
  have hfresh : ∀ r ∈ crews.map fun us => Run.mk us [],
      r.Ordered ∧ ∀ y ∈ r.schedule, ∀ x ∈ hs, y.1.nanos ≤ x.now.nanos := by
    intro r hr
    obtain ⟨us, -, rfl⟩ := List.mem_map.1 hr
    exact ⟨List.Pairwise.nil, nofun⟩
  obtain ⟨rs, hrs, hsetups, ordered⟩ := Fleet.exists_runs_after plays.ordered hfresh
  refine ⟨rs, ?_, ?_, ordered⟩
  · rw [plays.groups, ← hrs, ← hcrews]
    rfl
  · rw [hsetups, List.map_map]
    exact List.map_id' crews

end Scheduler

end SchemaCatalog
