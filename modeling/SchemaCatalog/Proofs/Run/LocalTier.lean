import SchemaCatalog.Proofs.Retry.Delay
import SchemaCatalog.Proofs.Run.Bare
import SchemaCatalog.Proofs.Run.Clock

/-!
# Own entries are invisible

What handlers keep for themselves changes nothing that can be seen, as long as handlers with one
shared cache keep ids fresh equally long. So it does not matter how many entries they keep.

* `Direction.Ageing`: what could once be replaced can be replaced now.
* `Direction.Sound.echoes`: then own answers could come from the shared cache.
* `Run.step_bare`: a run does the same with own entries left out.
* `Run.resized`: a run with other capacities. `Run.bare_resized`: it has the same group, own entries
  left out.
* **`Fleet.seen_resized`**: in several groups of handlers, each with a cache of its own, capacities
  cannot be told from what is seen.
-/

namespace SchemaCatalog

namespace Direction

variable {κ α : Type} [DecidableEq κ]

/-- What could once be replaced can be replaced now. -/
def Ageing (D : Direction κ α) (r : Run) (now : Instant) : Prop :=
  ∀ h ∈ r.group.handlers, ∀ k v, D.Outdated r k v → D.replaceable now h v = true

theorem Sound.echoes {D : Direction κ α} {r : Run} {now : Instant} {h : Handler} (hr : D.Sound r)
    (hageing : D.Ageing r now) (hh : h ∈ r.group.handlers) : D.Echoes now r.group.cache h := by
  intro k b owned
  obtain ⟨v, hv, hanswer, hgood⟩ := D.own_of_backed _ _ _ _ _ (hr.backed h hh) owned
  have hkept : ¬ D.Outdated r k v := by
    intro hold
    rw [hageing h hh k v hold] at hgood
    cases hgood
  exact ⟨v, hr.standing_of_kept hv hkept, hgood, hanswer⟩

end Direction

namespace Run

variable {r : Run} {now : Instant} {a : Group.Action} {maxAge : Duration}

theorem contents_ageing (r : Run) (now : Instant) : contents.Ageing r now := by
  rintro h - id v ⟨x, -, u, -, hold⟩
  exact hold

theorem ids_ageing (hages : r.Ages maxAge) (ordered : (r.next now a).Ordered) :
    ids.Ageing r now := by
  rintro h hh key m ⟨x, hx, u, hu, hold⟩
  obtain ⟨i, hi⟩ := List.mem_iff_getElem?.1 hh
  have hle : x.1.nanos ≤ now.nanos := ((r.ordered_next now a).1 ordered).2 x hx
  have hthen : m.refreshable x.1 maxAge = true := by
    have hage : u.handler.config.maxAge = maxAge := hages u hu
    rw [← hage]
    exact hold
  show m.refreshable now h.config.maxAge = true
  rw [hages.of_handler hi]
  exact Mapping.refreshable_mono hthen hle

/-- **A run does the same with own entries left out.** -/
theorem step_bare (hages : r.Ages maxAge) (ordered : (r.next now a).Ordered) :
    (r.group.bare.step now a).1.bare = (r.next now a).group.bare ∧
      (r.group.bare.step now a).2 = (r.moment now a).effect := by
  have hcontents : ∀ h ∈ r.group.handlers, contents.Echoes now r.group.cache h :=
    fun h hh => (contents_complete.sound r).echoes (contents_ageing r now) hh
  have hids : ∀ h ∈ r.group.handlers, ids.Echoes now r.group.cache h :=
    fun h hh => (ids_complete.sound r).echoes (ids_ageing hages ordered) hh
  rw [r.group_next]
  exact Group.step_bare a hcontents hids

/-! ## Other capacities -/

/-- The run of handlers that keep up to `capacity i` entries each. -/
def resized (r : Run) (capacity : Nat → UInt64) : Run :=
  { r with setups := r.setups.mapIdx fun i u => u.withCapacity (capacity i) }

variable {capacity : Nat → UInt64}

theorem resized_next : (r.next now a).resized capacity = (r.resized capacity).next now a := rfl

theorem Ages.resized (hages : r.Ages maxAge) (capacity : Nat → UInt64) :
    (r.resized capacity).Ages maxAge := by
  intro u hu
  obtain ⟨i, hi, rfl⟩ := List.mem_mapIdx.1 hu
  exact hages r.setups[i] (List.getElem_mem hi)

theorem origin_resized (r : Run) (capacity : Nat → UInt64) :
    (r.resized capacity).origin.bare = r.origin.bare := by
  have hsame : ((r.setups.mapIdx fun i u => u.withCapacity (capacity i)).map Setup.handler).map
      Handler.bare = (r.setups.map Setup.handler).map Handler.bare := by
    apply List.ext_getElem?
    intro i
    simp only [List.getElem?_map, List.getElem?_mapIdx, Option.map_map]
    rfl
  rw [Group.bare, Group.bare]
  simp only [origin, Group.ofHandlers, resized, hsame]

/-- Runs with other capacities have the same group, own entries left out. -/
theorem bare_resized (r : Run) (capacity : Nat → UInt64) (hages : r.Ages maxAge)
    (ordered : r.Ordered) : (r.resized capacity).group.bare = r.group.bare := by
  induction r using Run.induction with
  | start us => exact origin_resized ⟨us, []⟩ capacity
  | next r now a ih =>
    have hold : r.Ages maxAge := hages
    have hsame := ih hold ((r.ordered_next now a).1 ordered).1
    have ordered' : ((r.resized capacity).next now a).Ordered := ordered
    rw [resized_next, ← (step_bare (hold.resized capacity) ordered').1, hsame,
      (step_bare hold ordered).1]

theorem effect_resized (hages : r.Ages maxAge) (ordered : (r.next now a).Ordered) :
    ((r.resized capacity).moment now a).effect = (r.moment now a).effect := by
  have hsame := r.bare_resized capacity hages ((r.ordered_next now a).1 ordered).1
  have ordered' : ((r.resized capacity).next now a).Ordered := ordered
  rw [← (step_bare (hages.resized capacity) ordered').2, hsame, (step_bare hages ordered).2]

theorem calls_resized (hages : r.Ages maxAge) (ordered : r.Ordered) :
    (r.resized capacity).group.calls = r.group.calls := by
  have hsame := congrArg Group.calls (r.bare_resized capacity hages ordered)
  exact hsame

end Run

/-! ## Several caches -/

/-- Something that happens in one of several groups. -/
structure Happening where
  group : Nat
  now : Instant
  action : Group.Action
  deriving DecidableEq, Repr

namespace Fleet

/-- Groups whose handlers have not learned anything yet. -/
def ofCrews (crews : List (List Setup)) : List Group :=
  crews.map fun us => .ofHandlers (us.map Setup.handler)

/-- What happens in one group leaves the others alone. -/
def step (gs : List Group) (x : Happening) : List Group × Group.Effect :=
  match gs[x.group]? with
  | some g => (gs.set x.group (g.step x.now x.action).1, (g.step x.now x.action).2)
  | none => (gs, .none)

/-- What is seen of a schedule, step for step: what the step asks and reports, and how far all
lookups are after it. -/
def seen (gs : List Group) : List Happening → List (Group.Effect × List (List Call))
  | [] => []
  | x :: s => ((step gs x).2, (step gs x).1.map Group.calls) :: seen (step gs x).1 s

/-- The runs whose handlers keep up to `capacity j i` entries each. -/
def resized (rs : List Run) (capacity : Nat → Nat → UInt64) : List Run :=
  rs.mapIdx fun j r => r.resized (capacity j)

/-- A run of handlers that keep ids fresh equally long, on a clock that never goes back, also not
when it comes to `s`. -/
structure Steady (s : List Happening) (r : Run) : Prop where
  ages : ∃ maxAge, r.Ages maxAge
  ordered : r.Ordered
  past : ∀ y ∈ r.schedule, ∀ x ∈ s, y.1.nanos ≤ x.now.nanos

variable {rs : List Run} {s : List Happening} {x : Happening} {r : Run}
  {capacity : Nat → Nat → UInt64}

theorem Steady.tail (hr : Steady (x :: s) r) : Steady s r where
  ages := hr.ages
  ordered := hr.ordered
  past y hy x' hx' := hr.past y hy x' (List.mem_cons_of_mem x hx')

theorem Steady.ordered_next (hr : Steady (x :: s) r) : (r.next x.now x.action).Ordered :=
  (r.ordered_next x.now x.action).2
    ⟨hr.ordered, fun y hy => hr.past y hy x List.mem_cons_self⟩

theorem Steady.next (hr : Steady (x :: s) r)
    (ordered : (x :: s).Pairwise fun x y => x.now.nanos ≤ y.now.nanos) :
    Steady s (r.next x.now x.action) where
  ages := hr.ages
  ordered := hr.ordered_next
  past y hy x' hx' := by
    obtain hold | hnew := List.mem_append.1 hy
    · exact hr.past y hold x' (List.mem_cons_of_mem x hx')
    · rw [List.mem_singleton.1 hnew]
      exact List.rel_of_pairwise_cons ordered hx'

theorem step_of_none (h : rs[x.group]? = none) :
    step (rs.map Run.group) x = (rs.map Run.group, .none) := by
  simp only [step, List.getElem?_map, h, Option.map_none]

theorem step_of_some (h : rs[x.group]? = some r) :
    step (rs.map Run.group) x =
      ((rs.set x.group (r.next x.now x.action)).map Run.group,
        (r.moment x.now x.action).effect) := by
  rw [List.map_set, r.group_next]
  simp only [step, List.getElem?_map, h, Option.map_some]
  rfl

theorem calls_resized (capacity : Nat → Nat → UInt64) (hrs : ∀ r ∈ rs, Steady s r) :
    ((resized rs capacity).map Run.group).map Group.calls =
      (rs.map Run.group).map Group.calls := by
  apply List.ext_getElem?
  intro j
  simp only [resized, List.getElem?_map, List.getElem?_mapIdx, Option.map_map]
  cases hj : rs[j]? with
  | none => rfl
  | some r =>
    have hr := hrs r (List.mem_of_getElem? hj)
    obtain ⟨maxAge, hages⟩ := hr.ages
    exact congrArg some (Run.calls_resized hages hr.ordered)

theorem seen_runs (hrs : ∀ r ∈ rs, Steady s r)
    (ordered : s.Pairwise fun x y => x.now.nanos ≤ y.now.nanos) :
    seen ((resized rs capacity).map Run.group) s = seen (rs.map Run.group) s := by
  induction s generalizing rs with
  | nil => rfl
  | cons x s ih =>
    have hget : (resized rs capacity)[x.group]? =
        (rs[x.group]?).map fun r => r.resized (capacity x.group) := List.getElem?_mapIdx
    cases hx : rs[x.group]? with
    | none =>
      rw [hx, Option.map_none] at hget
      have hcalls := calls_resized capacity hrs
      rw [seen, seen, step_of_none hx, step_of_none hget, hcalls,
        ih (fun r hr => (hrs r hr).tail) ordered.tail]
    | some r =>
      rw [hx, Option.map_some] at hget
      have hr := hrs r (List.mem_of_getElem? hx)
      obtain ⟨maxAge, hages⟩ := hr.ages
      have hset : (resized rs capacity).set x.group
          ((r.resized (capacity x.group)).next x.now x.action) =
            resized (rs.set x.group (r.next x.now x.action)) capacity := by
        rw [resized, resized, List.mapIdx_set, Run.resized_next]
      have hrs' : ∀ r' ∈ rs.set x.group (r.next x.now x.action), Steady s r' := by
        intro r' hr'
        obtain hold | rfl := List.mem_or_eq_of_mem_set hr'
        · exact (hrs r' hold).tail
        · exact hr.next ordered
      rw [seen, seen, step_of_some hx, step_of_some hget, hset, calls_resized capacity hrs',
        Run.effect_resized hages hr.ordered_next, ih hrs' ordered.tail]

/-- **What handlers keep for themselves is invisible.** Handlers that keep any other number of
entries, none included, ask and report the same at each step of each schedule, and their lookups
come to the same answers at the same steps. -/
theorem seen_resized (crews : List (List Setup)) (capacity : Nat → Nat → UInt64)
    (shared : ∀ us ∈ crews, ∃ maxAge, ∀ u ∈ us, u.config.maxAge = maxAge) (s : List Happening)
    (ordered : s.Pairwise fun x y => x.now.nanos ≤ y.now.nanos) :
    seen (ofCrews (crews.mapIdx fun j us => us.mapIdx fun i u => u.withCapacity (capacity j i))) s =
      seen (ofCrews crews) s := by
  have hsteady : ∀ r ∈ crews.map fun us => Run.mk us [], Steady s r := by
    intro r hr
    obtain ⟨us, hus, rfl⟩ := List.mem_map.1 hr
    exact ⟨shared us hus, List.Pairwise.nil, nofun⟩
  have hcrews : ∀ crews : List (List Setup),
      (crews.map fun us => Run.mk us []).map Run.group = ofCrews crews := by
    intro crews
    rw [List.map_map]
    rfl
  have hresized : resized (crews.map fun us => Run.mk us []) capacity =
      (crews.mapIdx fun j us => us.mapIdx fun i u => u.withCapacity (capacity j i)).map
        fun us => Run.mk us [] := by
    apply List.ext_getElem?
    intro j
    simp only [resized, List.getElem?_map, List.getElem?_mapIdx, Option.map_map]
    rfl
  rw [← hcrews, ← hcrews, ← hresized, seen_runs hsteady ordered]

/-- Two handlers with one cache and a third one with a cache of its own. -/
def threeHandlers : List (List Setup) :=
  [[⟨1, .standard, .record⟩, ⟨2, .standard, .record⟩], [⟨3, .standard, .record⟩]]

/-- Two pairs with one checksum drive each other out of the own entries of a handler. -/
def takingTurns : List Happening :=
  [⟨0, ⟨0⟩, .start 0 (.id ⟨"ab", "c"⟩)⟩, ⟨1, ⟨0⟩, .start 0 (.content ⟨7⟩)⟩,
    ⟨0, ⟨1⟩, .receive 0 (some "\x7b\"globalId\":1\x7d")⟩, ⟨0, ⟨2⟩, .start 0 (.id ⟨"a", "bc"⟩)⟩,
    ⟨0, ⟨3⟩, .receive 1 (some "\x7b\"globalId\":2\x7d")⟩, ⟨0, ⟨4⟩, .start 0 (.id ⟨"ab", "c"⟩)⟩,
    ⟨0, ⟨5⟩, .start 1 (.id ⟨"ab", "c"⟩)⟩, ⟨1, ⟨6⟩, .cancel 0⟩]

theorem seen_resized_takingTurns :
    seen (ofCrews [[⟨1, Config.standard.withCacheCapacity 0, .record⟩,
        ⟨2, Config.standard.withCacheCapacity 0, .record⟩],
      [⟨3, Config.standard.withCacheCapacity 0, .record⟩]]) takingTurns =
      seen (ofCrews threeHandlers) takingTurns := by
  have shared : ∀ us ∈ threeHandlers, ∃ maxAge, ∀ u ∈ us, u.config.maxAge = maxAge := by
    intro us hus
    refine ⟨.ofSecs 300, ?_⟩
    revert us
    decide
  exact seen_resized threeHandlers (fun _ _ => 0) shared takingTurns (by decide)

end Fleet

end SchemaCatalog
