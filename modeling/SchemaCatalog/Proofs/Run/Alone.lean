import SchemaCatalog.Proofs.Run.Cell
import SchemaCatalog.Proofs.Run.Unwedged

/-!
# Runs with other keys left out

The steps of lookups about other keys can be left out of a run, and nothing that is seen of a key
changes.

* `Run.collect`: what is collected on the way of a run.
* `Run.alone`: the steps of the lookups about one key.
* `Direction.Fair.cell_alone`: the cell of the key is the same in both runs.
* **`Run.observed_alone`**: so is what is seen of it in each step that is left.
* **`Run.observed_rest`**: nothing is seen of it in the others.
* `Run.timely_alone`: the timers that are left are set as before.
-/

namespace SchemaCatalog

namespace Run

/-! ## The way of a run -/

/-- A run, and what is collected at each of its steps from the run so far. -/
def walk {β : Type} (f : Run → Instant → Group.Action → List β) (us : List Setup)
    (s : List (Instant × Group.Action)) : Run × List β :=
  s.foldl (fun w x => (w.1.next x.1 x.2, w.2 ++ f w.1 x.1 x.2)) (⟨us, []⟩, [])

/-- What is collected at each step from the run so far. -/
def collect {β : Type} (r : Run) (f : Run → Instant → Group.Action → List β) : List β :=
  (walk f r.setups r.schedule).2

/-- The run with the steps of lookups about other keys left out. -/
def alone (r : Run) (q : Question) : Run where
  setups := r.setups
  schedule := r.collect fun r now a => ((r.localize q a).map fun b => (now, b)).toList

section

variable {β : Type} {r : Run} {now : Instant} {a b : Group.Action} {q q' : Question} {c n i : Nat}
  {maxAge : Duration}

theorem walk_concat (f : Run → Instant → Group.Action → List β) (us : List Setup)
    (s : List (Instant × Group.Action)) (x : Instant × Group.Action) :
    walk f us (s ++ [x]) = ((walk f us s).1.next x.1 x.2,
      (walk f us s).2 ++ f (walk f us s).1 x.1 x.2) := by
  rw [walk, List.foldl_append]
  rfl

theorem walk_fst (f : Run → Instant → Group.Action → List β) (us : List Setup)
    (s : List (Instant × Group.Action)) : (walk f us s).1 = ⟨us, s⟩ := by
  induction s using List.reverseRecOn with
  | nil => rfl
  | append_singleton s x ih =>
    rw [walk_concat, ih]
    rfl

theorem collect_next (f : Run → Instant → Group.Action → List β) :
    (r.next now a).collect f = r.collect f ++ f r now a := by
  rw [collect, next, walk_concat, walk_fst, collect]

theorem alone_next_of_none (ha : r.localize q a = none) : (r.next now a).alone q = r.alone q := by
  simp only [alone, collect_next, ha]
  simp [next]

theorem alone_next_of_some (ha : r.localize q a = some b) :
    (r.next now a).alone q = (r.alone q).next now b := by
  simp only [alone, collect_next, ha]
  rfl

/-! ## The clock -/

theorem schedule_alone (r : Run) (q : Question) :
    ((r.alone q).schedule.map Prod.fst).Sublist (r.schedule.map Prod.fst) := by
  induction r using Run.induction with
  | start us => exact List.Sublist.refl _
  | next r now a ih =>
    cases ha : r.localize q a with
    | none =>
      rw [alone_next_of_none ha, next, List.map_append]
      exact ih.trans (List.sublist_append_left _ _)
    | some b =>
      rw [alone_next_of_some ha, next, next, List.map_append, List.map_append]
      exact ih.append (List.Sublist.refl _)

theorem ordered_alone (ordered : r.Ordered) (q : Question) : (r.alone q).Ordered := by
  have hinstants : ∀ r : Run, r.Ordered ↔
      (r.schedule.map Prod.fst).Pairwise fun t t' => t.nanos ≤ t'.nanos := by
    intro r
    rw [List.pairwise_map]
    rfl
  rw [hinstants] at ordered ⊢
  exact ordered.sublist (r.schedule_alone q)

/-! ## Lookups that are left -/

theorem opens?_start_eq (r : Run) (now : Instant) (i : Nat) (q : Question) :
    (r.moment now (.start i q)).opens? = if i < r.setups.length then some (i, q) else none := by
  by_cases hi : i < r.setups.length
  · obtain ⟨h, hh⟩ := handler_of_lt hi
    rw [if_pos hi]
    exact Moment.opens?_eq_some.2 ⟨rfl, h, hh⟩
  · rw [if_neg hi]
    have hnone : r.group.handlers[i]? = none := by
      rw [List.getElem?_eq_none_iff, r.length_handlers]
      exact Nat.le_of_not_lt hi
    simp [Moment.opens?, moment, hnone]

theorem opens?_alone (ha : r.localize q a = some b) (now : Instant) :
    ((r.alone q).moment now b).opens? = (r.moment now a).opens? ∧
      (r.moment now a).opens?.filter (fun o => o.2 = q) = (r.moment now a).opens? := by
  cases localized ha with
  | start i =>
    rw [opens?_start_eq, opens?_start_eq]
    refine ⟨rfl, ?_⟩
    split <;> simp [Option.filter]
  | _ => exact ⟨rfl, rfl⟩

theorem started_alone (r : Run) (q : Question) :
    (r.alone q).started = r.started.filter fun o => o.2 = q := by
  induction r using Run.induction with
  | start us => rfl
  | next r now a ih =>
    rw [started_next, List.filter_append, ← Option.toList_filter]
    cases ha : r.localize q a with
    | none =>
      rw [alone_next_of_none ha, ih, opens?_of_localize ha now]
      exact (List.append_nil _).symm
    | some b =>
      obtain ⟨hopens, hown⟩ := opens?_alone ha now
      rw [alone_next_of_some ha, started_next, ih, hopens, hown]

theorem length_started_alone (r : Run) (q : Question) :
    (r.alone q).started.length = (r.lookups q).length := by
  rw [started_alone, length_lookups]

theorem eq_of_started_alone (hc : (r.alone q).started[c]? = some (i, q')) : q' = q := by
  have hmem := List.mem_of_getElem? hc
  rw [started_alone] at hmem
  exact of_decide_eq_true (List.mem_filter.1 hmem).2

theorem lookups_alone (r : Run) (q : Question) :
    (r.alone q).lookups q = List.range (r.alone q).started.length := by
  refine List.filter_eq_self.2 ?_
  intro c hc
  obtain ⟨⟨i, q'⟩, hi⟩ : ∃ o, (r.alone q).started[c]? = some o :=
    ⟨_, List.getElem?_eq_getElem (List.mem_range.1 hc)⟩
  rw [decide_eq_true_iff, hi, Option.map_some, eq_of_started_alone hi]

theorem lookups_alone_of_ne (hne : q' ≠ q) : (r.alone q).lookups q' = [] := by
  rw [List.eq_nil_iff_forall_not_mem]
  intro c hc
  obtain ⟨i, hi⟩ := mem_lookups.1 hc
  exact hne (eq_of_started_alone hi)

theorem localize_alone (ha : r.localize q a = some b) : (r.alone q).localize q b = some b := by
  have hplace : ∀ {c n}, r.place? q c = some n → (r.alone q).place? q n = some n := by
    intro c n hn
    have hlt := (List.getElem?_eq_some_iff.1 (getElem?_of_place? hn)).1
    rw [← length_started_alone] at hlt
    refine place?_of_getElem? ?_
    rw [lookups_alone, List.getElem?_range hlt]
  cases localized ha with
  | start i => exact if_pos rfl
  | receive hn body | expire hn | resume hn | cancel hn =>
    simp only [localize, hplace hn, Option.map_some]

end

end Run

/-! ## Cells of both runs -/

namespace Direction

variable {κ α : Type} [DecidableEq κ] {D : Direction κ α} {r : Run} {now : Instant}
  {a b : Group.Action} {k : κ} {n c i : Nat} {maxAge : Duration} {p : Progress}

/-- Lookups take turns in the way of their direction, and what handlers keep for themselves cannot be
told from the shared cache. -/
structure Fair (D : Direction κ α) : Prop where
  guided : D.Guided
  blind : D.Blind
  ageing : ∀ {r : Run} {now : Instant} {a : Group.Action} {maxAge : Duration}, r.Ages maxAge →
    (r.next now a).Ordered → D.Ageing r now

/-- The cell tells how lookups have ended. -/
theorem Complete.outcomes_eq (hD : D.Complete) (r : Run) (k : κ) :
    r.outcomes (D.ask k) =
      (List.range (D.cell r k).count).map fun n =>
        ((D.cell r k).lookup n).bind fun x => x.2.outcome? := by
  refine List.ext_getElem? ?_
  intro n
  rw [Run.outcomes, List.getElem?_map, List.getElem?_map]
  show ((r.lookups (D.ask k))[n]?).map _ = _
  cases hn : (r.lookups (D.ask k))[n]? with
  | none =>
    have hle : (List.range (D.cell r k).count)[n]? = none := by
      rw [List.getElem?_eq_none_iff, List.length_range]
      exact List.getElem?_eq_none_iff.1 hn
    rw [hle]
    rfl
  | some c =>
    have hlt : n < (D.cell r k).count := (List.getElem?_eq_some_iff.1 hn).1
    obtain ⟨i, p, hc, hfits⟩ := hD.exists_fits (List.mem_of_getElem? hn)
    rw [List.getElem?_range hlt, Option.map_some, Option.map_some, lookup_cell hn hc,
      Group.progress?_of_call hc, Option.bind_some, Option.bind_some, outcome?_stage _ hfits]

theorem Complete.outcomes_congr (hD : D.Complete) {r r' : Run} (h : D.cell r k = D.cell r' k) :
    r.outcomes (D.ask k) = r'.outcomes (D.ask k) := by
  rw [hD.outcomes_eq, hD.outcomes_eq, h]

/-- A step that is left does the same to the cell, and shows the same. -/
theorem Fair.step_alone (hD : D.Fair) (hages : r.Ages maxAge) (ordered : (r.next now a).Ordered)
    (ha : r.localize (D.ask k) a = some b)
    (hcell : D.cell (r.alone (D.ask k)) k = D.cell r k) :
    (D.cell ((r.alone (D.ask k)).next now b) k, (r.alone (D.ask k)).shown (D.ask k) now b) =
      (D.cell (r.next now a) k, r.shown (D.ask k) now a) := by
  have hb := Run.localize_alone ha
  have ordered' : ((r.alone (D.ask k)).next now b).Ordered := by
    rw [← Run.alone_next_of_some ha]
    exact Run.ordered_alone ordered _
  have hages' : (r.alone (D.ask k)).Ages maxAge := hages
  rw [hD.guided.cell_next hD.blind (hD.ageing hages ordered) ha,
    hD.guided.cell_next hD.blind (hD.ageing hages' ordered') hb, hcell]
  rfl

/-- **The cell of a key does not change when other keys are left out.** -/
theorem Fair.cell_alone (hD : D.Fair) (hages : r.Ages maxAge) (ordered : r.Ordered) (k : κ) :
    D.cell (r.alone (D.ask k)) k = D.cell r k := by
  induction r using Run.induction with
  | start us => rfl
  | next r now a ih =>
    have hages' : r.Ages maxAge := hages
    have hold := ih hages' ((r.ordered_next now a).1 ordered).1
    cases ha : r.localize (D.ask k) a with
    | none =>
      rw [Run.alone_next_of_none ha, hold]
      exact (congrArg Prod.fst (hD.guided.cell_rest ha now)).symm
    | some b =>
      rw [Run.alone_next_of_some ha]
      exact congrArg Prod.fst (hD.step_alone hages' ordered ha hold)

theorem Fair.observed_alone (hD : D.Fair) (hages : r.Ages maxAge)
    (ordered : (r.next now a).Ordered) (ha : r.localize (D.ask k) a = some b) :
    (r.alone (D.ask k)).observed (D.ask k) now b = r.observed (D.ask k) now a := by
  have hold := hD.cell_alone hages ((r.ordered_next now a).1 ordered).1 k
  obtain ⟨hcell, hshown⟩ := Prod.mk.inj (hD.step_alone hages ordered ha hold)
  rw [Run.observed, Run.observed, hshown, hD.guided.complete.outcomes_congr hcell,
    hD.guided.complete.outcomes_congr hold]

theorem Fair.deadline?_alone (hD : D.Fair) (hages : r.Ages maxAge) (ordered : r.Ordered) {k : κ}
    {n : Nat} {d : Instant} (hd : (r.alone (D.ask k)).group.deadline? n = some d) :
    ∃ c, r.group.deadline? c = some d := by
  have hlt : n < (r.alone (D.ask k)).started.length := by
    obtain ⟨p, hp, -⟩ := Option.bind_eq_some_iff.1 hd
    rw [Run.length_started]
    exact Group.lt_of_progress? hp
  have hn : ((r.alone (D.ask k)).lookups (D.ask k))[n]? = some n := by
    rw [Run.lookups_alone, List.getElem?_range hlt]
  have hn' : n < (r.lookups (D.ask k)).length := by rwa [← Run.length_started_alone]
  refine ⟨(r.lookups (D.ask k))[n], ?_⟩
  rw [← hD.guided.complete.deadline?_cell (List.getElem?_eq_getElem hn'),
    ← hD.cell_alone hages ordered k, hD.guided.complete.deadline?_cell hn, hd]

theorem Guided.observed_rest (hD : D.Guided) (ha : r.localize (D.ask k) a = none) :
    r.observed (D.ask k) now a = [] := by
  obtain ⟨hcell, hshown⟩ := Prod.mk.inj (hD.cell_rest ha now)
  rw [Run.observed, hshown, if_pos (hD.complete.outcomes_congr hcell)]
  rfl

end Direction

theorem contents_fair : contents.Fair where
  guided := contents_guided
  blind := contents_blind
  ageing _ _ := Run.contents_ageing _ _

theorem ids_fair : ids.Fair where
  guided := ids_guided
  blind := ids_blind
  ageing := Run.ids_ageing

namespace Run

variable {r : Run} {now : Instant} {a b : Group.Action} {q q' : Question} {maxAge : Duration}

/-- **A step that is left is seen to do the same.** -/
theorem observed_alone (hages : r.Ages maxAge) (ordered : (r.next now a).Ordered)
    (ha : r.localize q a = some b) : (r.alone q).observed q now b = r.observed q now a := by
  cases q with
  | content id => exact contents_fair.observed_alone hages ordered ha
  | id key => exact ids_fair.observed_alone hages ordered ha

/-- **Nothing is seen of a key in a step that is not about it.** -/
theorem observed_rest (ha : r.localize q a = none) : r.observed q now a = [] := by
  cases q with
  | content id => exact contents_guided.observed_rest ha
  | id key => exact ids_guided.observed_rest ha

theorem localize_alone_of_ne (ha : r.localize q a = some b) (hne : q' ≠ q) :
    (r.alone q).localize q' b = none := by
  have hplace : ∀ n, (r.alone q).place? q' n = none := by
    intro n
    refine if_neg ?_
    rw [lookups_alone_of_ne hne]
    exact List.not_mem_nil
  cases localized ha with
  | start i => exact if_neg hne.symm
  | receive hn body | expire hn | resume hn | cancel hn =>
    simp only [localize, hplace, Option.map_none]

theorem timely_alone (hages : r.Ages maxAge) (ordered : r.Ordered) (timely : r.Timely now)
    (q : Question) : (r.alone q).Timely now := by
  intro n d hd
  obtain ⟨c, hc⟩ : ∃ c, r.group.deadline? c = some d := by
    cases q with
    | content id => exact contents_fair.deadline?_alone hages ordered hd
    | id key => exact ids_fair.deadline?_alone hages ordered hd
  exact timely c d hc

end Run

end SchemaCatalog
