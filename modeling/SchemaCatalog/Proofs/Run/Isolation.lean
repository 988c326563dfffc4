import SchemaCatalog.Proofs.Run.Alone

/-!
# Keys are isolated

Several groups of handlers, each with a cache of its own, are on one schedule. Of that schedule the
steps of lookups about other keys can be left out.

* `Fleet.next`: a step of several runs.
* `Fleet.alone`: a schedule with other keys left out.
* `Fleet.sights`: what is seen of a key, where, and when.
* `Fleet.Punctual`: whoever waits is resumed in time.
* **`Fleet.keys_isolated`**: nothing that is seen of a key changes.
-/

namespace SchemaCatalog

namespace Fleet

/-- The runs of several groups after something has happened in one of them. -/
def next (rs : List Run) (x : Happening) : List Run :=
  match rs[x.group]? with
  | some r => rs.set x.group (r.next x.now x.action)
  | none => rs

/-- A schedule with the steps of lookups about other keys left out. -/
def alone (q : Question) : List Run → List Happening → List Happening
  | _, [] => []
  | rs, x :: s =>
    ((rs[x.group]?.bind fun r => r.localize q x.action).map fun b => { x with action := b }).toList ++
      alone q (next rs x) s

/-- What is seen of `q`, where, and when. -/
def sights (q : Question) : List Run → List Happening → List (Nat × Instant × Observation)
  | _, [] => []
  | rs, x :: s =>
    (rs[x.group]?.toList.flatMap fun r =>
        (r.observed q x.now x.action).map fun o => (x.group, x.now, o)) ++
      sights q (next rs x) s

/-- Whoever waits is resumed in time, all along a schedule. -/
def Punctual : List Run → List Happening → Prop
  | _, [] => True
  | rs, x :: s => (∀ r ∈ rs, r.Timely x.now) ∧ Punctual (next rs x) s

variable {rs : List Run} {s : List Happening} {x : Happening} {r : Run} {q q' : Question}
  {b : Group.Action}

theorem next_of_some (h : rs[x.group]? = some r) :
    next rs x = rs.set x.group (r.next x.now x.action) := by
  simp only [next, h]

theorem next_of_none (h : rs[x.group]? = none) : next rs x = rs := by
  simp only [next, h]

/-- The step is left out, as it is not about `q`. -/
def Out (q : Question) (rs : List Run) (x : Happening) : Prop :=
  ∀ r, rs[x.group]? = some r → r.localize q x.action = none

theorem out_or_left (q : Question) (rs : List Run) (x : Happening) :
    Out q rs x ∨ ∃ r b, rs[x.group]? = some r ∧ r.localize q x.action = some b := by
  by_cases h : ∃ r b, rs[x.group]? = some r ∧ r.localize q x.action = some b
  · exact Or.inr h
  · refine Or.inl ?_
    intro r hx
    by_contra hne
    obtain ⟨b, hb⟩ := Option.ne_none_iff_exists'.1 hne
    exact h ⟨r, b, hx, hb⟩

theorem alone_of_out (out : Out q rs x) : alone q rs (x :: s) = alone q (next rs x) s := by
  have hnone : (rs[x.group]?.bind fun r => r.localize q x.action) = none :=
    Option.bind_eq_none_iff.2 out
  rw [alone, hnone]
  rfl

theorem alone_of_left (hx : rs[x.group]? = some r) (ha : r.localize q x.action = some b) :
    alone q rs (x :: s) = { x with action := b } :: alone q (next rs x) s := by
  rw [alone, hx, Option.bind_some, ha]
  rfl

theorem sights_of_out (out : Out q rs x) : sights q rs (x :: s) = sights q (next rs x) s := by
  rw [sights]
  cases hx : rs[x.group]? with
  | none => rfl
  | some r => simp [Run.observed_rest (out r hx)]

theorem sights_of_some (hx : rs[x.group]? = some r) :
    sights q rs (x :: s) =
      ((r.observed q x.now x.action).map fun o => (x.group, x.now, o)) ++ sights q (next rs x) s := by
  rw [sights, hx]
  simp

/-- A step that is left out changes nothing where the others are left out. -/
theorem map_alone_of_out (out : Out q rs x) :
    (next rs x).map (fun r => r.alone q) = rs.map fun r => r.alone q := by
  cases hx : rs[x.group]? with
  | none => rw [next_of_none hx]
  | some r =>
    obtain ⟨hlt, hget⟩ := List.getElem?_eq_some_iff.1 hx
    have hlt' : x.group < (rs.map fun r => r.alone q).length := by simpa using hlt
    have hsame : r.alone q = (rs.map fun r => r.alone q)[x.group] := by simp [hget]
    rw [next_of_some hx, List.map_set, Run.alone_next_of_none (out r hx), hsame,
      List.set_getElem_self]

theorem getElem?_map_alone (hx : rs[x.group]? = some r) :
    (rs.map fun r => r.alone q)[x.group]? = some (r.alone q) := by
  rw [List.getElem?_map, hx, Option.map_some]

theorem map_alone_of_left (hx : rs[x.group]? = some r) (ha : r.localize q x.action = some b) :
    (next rs x).map (fun r => r.alone q) =
      next (rs.map fun r => r.alone q) { x with action := b } := by
  rw [next_of_some hx, List.map_set, Run.alone_next_of_some ha,
    next_of_some (x := { x with action := b }) (getElem?_map_alone hx)]

theorem steady_next (hrs : ∀ r ∈ rs, Steady (x :: s) r)
    (ordered : (x :: s).Pairwise fun x y => x.now.nanos ≤ y.now.nanos) :
    ∀ r ∈ next rs x, Steady s r := by
  intro r hr
  cases hx : rs[x.group]? with
  | none =>
    rw [next_of_none hx] at hr
    exact (hrs r hr).tail
  | some r₀ =>
    rw [next_of_some hx] at hr
    obtain hold | rfl := List.mem_or_eq_of_mem_set hr
    · exact (hrs r hold).tail
    · exact (hrs r₀ (List.mem_of_getElem? hx)).next ordered

theorem alone_sublist (q : Question) (rs : List Run) (s : List Happening) :
    ((alone q rs s).map fun x => (x.group, x.now)).Sublist (s.map fun x => (x.group, x.now)) := by
  induction s generalizing rs with
  | nil => exact List.Sublist.refl _
  | cons x s ih =>
    obtain out | ⟨r, b, hx, ha⟩ := out_or_left q rs x
    · rw [alone_of_out out]
      exact (ih (next rs x)).cons _
    · rw [alone_of_left hx ha]
      exact (ih (next rs x)).cons_cons _

theorem punctual_alone (hrs : ∀ r ∈ rs, Steady s r)
    (ordered : s.Pairwise fun x y => x.now.nanos ≤ y.now.nanos) (punctual : Punctual rs s)
    (q : Question) : Punctual (rs.map fun r => r.alone q) (alone q rs s) := by
  induction s generalizing rs with
  | nil => trivial
  | cons x s ih =>
    obtain ⟨timely, later⟩ := punctual
    have hold := ih (steady_next hrs ordered) ordered.tail later
    obtain out | ⟨r, b, hx, ha⟩ := out_or_left q rs x
    · rw [map_alone_of_out out] at hold
      rw [alone_of_out out]
      exact hold
    · rw [map_alone_of_left hx ha] at hold
      rw [alone_of_left hx ha]
      refine ⟨?_, hold⟩
      intro r' hr'
      obtain ⟨r₀, hr₀, rfl⟩ := List.mem_map.1 hr'
      obtain ⟨maxAge, hages⟩ := (hrs r₀ hr₀).ages
      exact Run.timely_alone hages (hrs r₀ hr₀).ordered (timely r₀ hr₀) q

/-- What is seen of a key does not change when other keys are left out. -/
theorem sights_alone (hrs : ∀ r ∈ rs, Steady s r)
    (ordered : s.Pairwise fun x y => x.now.nanos ≤ y.now.nanos) (q : Question) :
    sights q (rs.map fun r => r.alone q) (alone q rs s) = sights q rs s := by
  induction s generalizing rs with
  | nil => rfl
  | cons x s ih =>
    have hold := ih (steady_next hrs ordered) ordered.tail
    obtain out | ⟨r, b, hx, ha⟩ := out_or_left q rs x
    · rw [alone_of_out out, sights_of_out out, ← hold, map_alone_of_out out]
    · have hr := hrs r (List.mem_of_getElem? hx)
      obtain ⟨maxAge, hages⟩ := hr.ages
      rw [map_alone_of_left hx ha] at hold
      rw [alone_of_left hx ha, sights_of_some hx,
        sights_of_some (x := { x with action := b }) (getElem?_map_alone hx), hold,
        Run.observed_alone hages hr.ordered_next ha]

theorem sights_alone_of_ne (hne : q' ≠ q) (rs : List Run) (s : List Happening) :
    sights q' (rs.map fun r => r.alone q) (alone q rs s) = [] := by
  induction s generalizing rs with
  | nil => rfl
  | cons x s ih =>
    have hold := ih (next rs x)
    obtain out | ⟨r, b, hx, ha⟩ := out_or_left q rs x
    · rw [alone_of_out out, ← map_alone_of_out out, hold]
    · rw [map_alone_of_left hx ha] at hold
      rw [alone_of_left hx ha,
        sights_of_some (x := { x with action := b }) (getElem?_map_alone hx), hold,
        Run.observed_rest (Run.localize_alone_of_ne ha hne)]
      rfl

/-- **Keys are isolated.** Leave out the steps of all lookups about other keys, also of those that
have the checksum of `q`, that hang or that fail. What is left is a schedule on the same clock, on which
whoever waits is resumed in time if it was before. Lookups about `q` start on the same handlers, ask
for the same paths, hear the same, report the same and come to the same answers, all at the same
instants, and nothing is seen of any other key. -/
theorem keys_isolated (crews : List (List Setup))
    (shared : ∀ us ∈ crews, ∃ maxAge, ∀ u ∈ us, u.config.maxAge = maxAge) (s : List Happening)
    (ordered : s.Pairwise fun x y => x.now.nanos ≤ y.now.nanos) (q : Question) :
    let rs := crews.map fun us => Run.mk us []
    ((alone q rs s).map fun x => (x.group, x.now)).Sublist (s.map fun x => (x.group, x.now)) ∧
      (alone q rs s).Pairwise (fun x y => x.now.nanos ≤ y.now.nanos) ∧
      (Punctual rs s → Punctual rs (alone q rs s)) ∧
      sights q rs (alone q rs s) = sights q rs s ∧
      ∀ q', q' ≠ q → sights q' rs (alone q rs s) = [] := by
  intro rs
  have hsteady : ∀ r ∈ rs, Steady s r := by
    intro r hr
    obtain ⟨us, hus, rfl⟩ := List.mem_map.1 hr
    exact ⟨shared us hus, List.Pairwise.nil, nofun⟩
  have hfresh : (rs.map fun r => r.alone q) = rs := by
    rw [List.map_map]
    rfl
  have hsub := alone_sublist q rs s
  have hinstants : ∀ s : List Happening, (s.Pairwise fun x y => x.now.nanos ≤ y.now.nanos) ↔
      (s.map fun x => (x.group, x.now)).Pairwise fun x y => x.2.nanos ≤ y.2.nanos := by
    intro s
    rw [List.pairwise_map]
  refine ⟨hsub, (hinstants _).2 (((hinstants s).1 ordered).sublist hsub), ?_, ?_, ?_⟩
  · intro punctual
    have halone := punctual_alone hsteady ordered punctual q
    rwa [hfresh] at halone
  · have hsame := sights_alone hsteady ordered q
    rwa [hfresh] at hsame
  · intro q' hne
    have hnone := sights_alone_of_ne hne rs s
    rwa [hfresh] at hnone

/-- Two pairs with one checksum share the own entry of a handler, and each is seen to do what it
does without the other. -/
theorem keys_isolated_takingTurns :
    let rs := threeHandlers.map fun us => Run.mk us []
    sights (.id ⟨"a", "bc"⟩) rs takingTurns =
      sights (.id ⟨"a", "bc"⟩) rs [⟨0, ⟨2⟩, .start 0 (.id ⟨"a", "bc"⟩)⟩,
        ⟨0, ⟨3⟩, .receive 0 (some "\x7b\"globalId\":2\x7d")⟩] := by
  intro rs
  have shared : ∀ us ∈ threeHandlers, ∃ maxAge, ∀ u ∈ us, u.config.maxAge = maxAge := by
    intro us hus
    refine ⟨.ofSecs 300, ?_⟩
    revert us
    decide
  have halone : alone (.id ⟨"a", "bc"⟩) rs takingTurns =
      [⟨0, ⟨2⟩, .start 0 (.id ⟨"a", "bc"⟩)⟩,
        ⟨0, ⟨3⟩, .receive 0 (some "\x7b\"globalId\":2\x7d")⟩] := by
    decide +kernel
  obtain ⟨-, -, -, hsame, -⟩ :=
    keys_isolated threeHandlers shared takingTurns (by decide) (.id ⟨"a", "bc"⟩)
  rw [← halone]
  exact hsame.symm

end Fleet

end SchemaCatalog
