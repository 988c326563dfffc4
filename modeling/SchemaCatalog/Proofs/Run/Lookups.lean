import SchemaCatalog.Proofs.Run.Provenance
import SchemaCatalog.Proofs.Run.Turns
import Mathlib.Data.List.Nodup

/-!
# What is seen of one key

* `Run.lookups`: the lookups about a key.
* `Run.place?`: the number of a lookup among those about a key.
* `Run.localize`: a step as one about a key, if it is. `Run.Localized`: the steps that are.
* `Run.outcomes`: how the lookups about a key have ended.
* `Observation`, `Run.observed`: what is seen of a key in a step.
-/

namespace SchemaCatalog

/-- How a lookup has ended, if it has: with an answer, or without any when it was given up. -/
def Progress.outcome? : Progress → Option (Option Answer)
  | answered b => some (some b)
  | cancelled => some none
  | _ => none

/-- What is seen of a key in a step: a lookup starts on a handler, a lookup asks the registry for a
path, a leader hears from the registry or that its time is over, something is reported, or lookups
have ended in another way than before. -/
inductive Observation
  | begins (handler : Nat)
  | asks (path : String)
  | hears (body : Option String)
  | reports (event : Event)
  | ends (outcomes : List (Option (Option Answer)))
  deriving DecidableEq, Repr

namespace Run

/-- The lookups about `q`, in the order of their start. -/
def lookups (r : Run) (q : Question) : List Nat :=
  (List.range r.started.length).filter fun c => (r.started[c]?).map Prod.snd = some q

/-- The number of lookup `c` among those about `q`. -/
def place? (r : Run) (q : Question) (c : Nat) : Option Nat :=
  if c ∈ r.lookups q then some ((r.lookups q).idxOf c) else none

/-- A step as one in which only lookups about `q` are counted, if it is about `q`. -/
def localize (r : Run) (q : Question) : Group.Action → Option Group.Action
  | .start i q' => if q' = q then some (.start i q) else none
  | .receive c body => (r.place? q c).map fun n => .receive n body
  | .expire c => (r.place? q c).map .expire
  | .resume c => (r.place? q c).map .resume
  | .cancel c => (r.place? q c).map .cancel

/-- How the lookups about `q` have ended, in the order of their start. -/
def outcomes (r : Run) (q : Question) : List (Option (Option Answer)) :=
  (r.lookups q).map fun c => (r.group.progress? c).bind Progress.outcome?

/-- The request that a lookup about `q` sends in a step, whichever of its turns it is. -/
def asks? (r : Run) (q : Question) (now : Instant) (a : Group.Action) : Option Request :=
  (r.moment now a).sends?.filter fun x => (r.next now a).question? x.call = some q

/-- What a step asks, hears and reports about `q`. -/
def shown (r : Run) (q : Question) (now : Instant) (a : Group.Action) : List Observation :=
  let m := r.moment now a
  (m.opens?.filter fun o => o.2 = q).toList.map (fun o => .begins o.1) ++
    (r.asks? q now a).toList.map (fun x => .asks x.path) ++
    (m.endsOn? q).toList.map (fun t => .hears t.body) ++ (m.events q).map .reports

/-- What is seen of `q` in a step. -/
def observed (r : Run) (q : Question) (now : Instant) (a : Group.Action) : List Observation :=
  r.shown q now a ++
    if (r.next now a).outcomes q = r.outcomes q then [] else [.ends ((r.next now a).outcomes q)]

variable {r : Run} {now : Instant} {a b : Group.Action} {q : Question} {c c' n n' : Nat}

/-! ## Lookups -/

theorem mem_lookups : c ∈ r.lookups q ↔ ∃ i, r.started[c]? = some (i, q) := by
  rw [lookups, List.mem_filter, List.mem_range, decide_eq_true_iff]
  constructor
  · rintro ⟨-, hc⟩
    obtain ⟨⟨i, q'⟩, hi, rfl⟩ := Option.map_eq_some_iff.1 hc
    exact ⟨i, hi⟩
  · rintro ⟨i, hi⟩
    exact ⟨(List.getElem?_eq_some_iff.1 hi).1, by rw [hi, Option.map_some]⟩

theorem nodup_lookups : (r.lookups q).Nodup := List.nodup_range.filter _

theorem lt_of_mem_lookups (hc : c ∈ r.lookups q) : c < r.group.calls.length := by
  obtain ⟨i, hi⟩ := mem_lookups.1 hc
  rw [← length_started]
  exact (List.getElem?_eq_some_iff.1 hi).1

theorem eq_of_getElem?_lookups (hn : (r.lookups q)[n]? = some c)
    (hn' : (r.lookups q)[n']? = some c) : n = n' := by
  have hlt := (List.getElem?_eq_some_iff.1 hn).1
  exact (List.getElem?_inj hlt nodup_lookups).1 (hn.trans hn'.symm)

theorem lookups_next :
    (r.next now a).lookups q = r.lookups q ++
      ((r.moment now a).opens?.filter fun o => o.2 = q).toList.map fun _ => r.group.calls.length := by
  have hold : ∀ l : List (Nat × Question),
      ((List.range r.started.length).filter fun c => ((r.started ++ l)[c]?).map Prod.snd = some q) =
        r.lookups q := by
    intro l
    refine List.filter_congr ?_
    intro c hc
    rw [List.getElem?_append_left (List.mem_range.1 hc)]
  rw [lookups, started_next, List.length_append]
  cases ho : (r.moment now a).opens? with
  | none =>
    rw [Option.toList_none, List.length_nil, Nat.add_zero, hold]
    exact (List.append_nil _).symm
  | some o =>
    rw [Option.toList_some, List.length_singleton, List.range_succ, List.filter_append, hold]
    congr 1
    by_cases hq : o.2 = q <;> simp [Option.filter, hq, length_started]

/-- A step that starts no lookup about `q` leaves the lookups about `q` as they are. -/
theorem lookups_next_of_none (h : (r.moment now a).opens?.filter (fun o => o.2 = q) = none) :
    (r.next now a).lookups q = r.lookups q := by
  rw [lookups_next, h]
  exact List.append_nil _

theorem length_lookups (r : Run) (q : Question) :
    (r.lookups q).length = (r.started.filter fun o => o.2 = q).length := by
  induction r using Run.induction with
  | start us => rfl
  | next r now a ih =>
    rw [lookups_next, started_next, List.filter_append, ← Option.toList_filter, List.length_append,
      List.length_append, List.length_map, ih]

/-! ## Requests -/

theorem asks?_start (r : Run) (now : Instant) (i : Nat) (q : Question) :
    r.asks? q now (.start i q) = (r.moment now (.start i q)).sends? := by
  cases hx : (r.moment now (.start i q)).sends? with
  | none =>
    rw [asks?, hx]
    rfl
  | some x =>
    obtain ⟨i', q', h, ha, hi, hcall, -⟩ := sends?_eq_some hx
    cases ha
    simp only [asks?, hx, Option.filter, hcall, question?_start hi, decide_true, if_true]

/-- A step that starts no lookup about `q` sends no request about `q`. -/
theorem asks?_of_opens? (h : (r.moment now a).opens?.filter (fun o => o.2 = q) = none) :
    r.asks? q now a = none := by
  refine Option.filter_eq_none_iff.2 fun x hx hq => ?_
  obtain ⟨i, q', h', rfl, hi, hcall, -⟩ := sends?_eq_some hx
  rw [hcall, question?_start hi] at hq
  obtain rfl : q' = q := Option.some.inj (of_decide_eq_true hq)
  rw [opens?_start hi] at h
  simp [Option.filter] at h

/-! ## Places -/

theorem getElem?_of_place? (h : r.place? q c = some n) : (r.lookups q)[n]? = some c := by
  unfold place? at h
  split at h
  · next hc =>
    obtain rfl := Option.some.inj h
    exact List.getElem?_idxOf hc
  · cases h

theorem place?_of_getElem? (h : (r.lookups q)[n]? = some c) : r.place? q c = some n := by
  have hc : c ∈ r.lookups q := List.mem_of_getElem? h
  have hplace : r.place? q c = some ((r.lookups q).idxOf c) := if_pos hc
  rw [hplace, eq_of_getElem?_lookups (getElem?_of_place? hplace) h]

theorem notMem_of_place? (h : r.place? q c = none) : c ∉ r.lookups q := by
  intro hc
  have hplace : r.place? q c = some _ := if_pos hc
  rw [h] at hplace
  cases hplace

/-! ## Steps -/

/-- A step about `q`, and the same step with only lookups about `q` counted. -/
inductive Localized (r : Run) (q : Question) : Group.Action → Group.Action → Prop
  | start (i : Nat) : Localized r q (.start i q) (.start i q)
  | receive {c n : Nat} (hn : r.place? q c = some n) (body : Option String) :
      Localized r q (.receive c body) (.receive n body)
  | expire {c n : Nat} (hn : r.place? q c = some n) : Localized r q (.expire c) (.expire n)
  | resume {c n : Nat} (hn : r.place? q c = some n) : Localized r q (.resume c) (.resume n)
  | cancel {c n : Nat} (hn : r.place? q c = some n) : Localized r q (.cancel c) (.cancel n)

theorem localized (ha : r.localize q a = some b) : r.Localized q a b := by
  cases a with
  | start i q' =>
    simp only [localize] at ha
    split at ha
    · next hq =>
      obtain rfl := Option.some.inj ha
      rw [hq]
      exact .start i
    · cases ha
  | receive c body =>
    obtain ⟨n, hn, rfl⟩ := Option.map_eq_some_iff.1 ha
    exact .receive hn body
  | expire c =>
    obtain ⟨n, hn, rfl⟩ := Option.map_eq_some_iff.1 ha
    exact .expire hn
  | resume c =>
    obtain ⟨n, hn, rfl⟩ := Option.map_eq_some_iff.1 ha
    exact .resume hn
  | cancel c =>
    obtain ⟨n, hn, rfl⟩ := Option.map_eq_some_iff.1 ha
    exact .cancel hn

theorem opens?_of_localize (ha : r.localize q a = none) (now : Instant) :
    (r.moment now a).opens?.filter (fun o => o.2 = q) = none := by
  cases a with
  | start i q' =>
    have hne : q' ≠ q := by
      rintro rfl
      simp [localize] at ha
    cases hi : r.group.handlers[i]? <;> simp [Moment.opens?, moment, hi, hne, Option.filter]
  | _ => rfl

theorem notMem_of_localize (ha : r.localize q a = none) (hc : a.call? = some c) :
    c ∉ r.lookups q := by
  cases a with
  | start i q' => cases hc
  | _ =>
    obtain rfl := Option.some.inj hc
    exact notMem_of_place? (Option.map_eq_none_iff.1 ha)

end Run

end SchemaCatalog
