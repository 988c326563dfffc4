import SchemaCatalog.Proofs.Run.Clock
import SchemaCatalog.Proofs.Run.Provenance
import SchemaCatalog.Proofs.Run.Turns
import Mathlib.Data.List.Nodup

/-!
# Outstanding requests

A request is outstanding from the moment at which it is sent until it is answered, or dropped because
its time is over or its lookup is given up.

* `Run.outstanding`: the requests that are outstanding.
* `Group.asks?`: what a lookup waits for the registry to answer.
* **`Run.asks?_eq_some_iff`**: a lookup waits for the registry exactly as long as its request is
  outstanding.
* **`Run.pending_iff`**: a key is pending exactly as long as a request about it is outstanding.
* `Run.nodup_outstanding`: no two outstanding requests are about one key.
* **`Run.armed`**: the timer of an outstanding request is set to the time that its handler waits.
-/

namespace SchemaCatalog

/-- The lookup whose request a step ends: the request is answered or its time is over, or the lookup is
given up. -/
def Moment.stops? (m : Moment) : Option Nat :=
  match m.action with
  | .cancel c => some c
  | a => (m.before.heard? m.now a).map Prod.fst

namespace Run

def outstanding (r : Run) : List Request :=
  r.past.foldl (fun l m => (l.filter fun x => m.stops? ≠ some x.call) ++ m.sends?.toList) []

variable {r : Run} {now : Instant} {a : Group.Action} {x : Request}

theorem outstanding_next (r : Run) (now : Instant) (a : Group.Action) :
    (r.next now a).outstanding =
      (r.outstanding.filter fun x => (r.moment now a).stops? ≠ some x.call) ++
        ((r.moment now a).sends?).toList := by
  simp only [outstanding, past_next, List.foldl_append, List.foldl_cons, List.foldl_nil]

theorem mem_outstanding_next :
    x ∈ (r.next now a).outstanding ↔
      (x ∈ r.outstanding ∧ (r.moment now a).stops? ≠ some x.call) ∨
        (r.moment now a).sends? = some x := by
  rw [outstanding_next, List.mem_append, List.mem_filter, decide_eq_true_iff, Option.mem_toList]

/-- Outstanding requests are in the order in which they were sent. -/
theorem outstanding_sublist (r : Run) : r.outstanding.Sublist r.sent := by
  induction r using Run.induction with
  | start us => exact List.Sublist.refl _
  | next r now a ih =>
    rw [outstanding_next, sent_next]
    exact (List.filter_sublist.trans ih).append (List.Sublist.refl _)

theorem lt_of_outstanding (hx : x ∈ r.outstanding) : x.call < r.group.calls.length :=
  lt_of_sent (r.outstanding_sublist.subset hx)

end Run

/-! ## What lookups wait for -/

namespace Lookup

variable (now : Instant) (cache : SharedCache) (h : Handler) (p : Progress)

theorem waits_start (q : Question) :
    (start now cache h q).progress.asks? = (start now cache h q).request.map (fun _ => q) ∧
      (start now cache h q).progress.deadline? =
        (start now cache h q).request.map fun _ => h.giveUpAt now := by
  cases q with
  | content id =>
    rcases hown : h.ownContent id with ⟨_ | s, h'⟩
    · have hsetup : h'.setup = h.setup := congrArg (fun x => Handler.setup x.2) hown.symm
      simp only [start, startContent, hown, Handler.giveUpAt_of_setup hsetup]
      split
      · exact ⟨rfl, rfl⟩
      · simp only [followContent]
        split <;> exact ⟨rfl, rfl⟩
    · simp only [start, startContent, hown]
      exact ⟨rfl, rfl⟩
  | id key =>
    rcases hown : h.ownId now key with ⟨_ | s, h'⟩
    · have hsetup : h'.setup = h.setup :=
        (congrArg (fun x => Handler.setup x.2) hown.symm).trans (ids.setup_own now h key)
      simp only [start, startId, hown, Handler.giveUpAt_of_setup hsetup]
      split
      · exact ⟨rfl, rfl⟩
      · simp only [followId]
        split <;> exact ⟨rfl, rfl⟩
    · simp only [start, startId, hown]
      exact ⟨rfl, rfl⟩

theorem asks?_receive (body : Option String) : (receive now cache h p body).progress.asks? = none := by
  cases p <;> rfl

theorem asks?_abandon : (abandon cache h p).progress.asks? = none := by
  cases p <;> rfl

theorem asks?_resume : (resume cache h p).progress.asks? = p.asks? := by
  cases p with
  | followContent id f =>
    simp only [resume, followContent]
    split <;> rfl
  | followId key f =>
    simp only [resume, followId]
    split <;> rfl
  | _ => rfl

theorem resume_of_asks {q : Question} (hp : p.asks? = some q) :
    resume cache h p = ⟨cache, h, p, none, []⟩ := by
  cases p <;> first | rfl | cases hp

theorem receive_of_quiet (hp : p.asks? = none) (body : Option String) :
    receive now cache h p body = ⟨cache, h, p, none, []⟩ := by
  cases p with
  | leadContent id f prev d => cases hp
  | leadId key f prev d => cases hp
  | _ => rfl

end Lookup

/-- What lookup `c` waits for the registry to answer. -/
def Group.asks? (g : Group) (c : Nat) : Option Question := (g.progress? c).bind Progress.asks?

namespace Run

variable {r : Run} {now : Instant} {a : Group.Action} {c : Nat} {q : Question} {x : Request}

theorem asks?_of_call {i : Nat} {p : Progress} (hc : r.group.calls[c]? = some ⟨i, p⟩) :
    r.group.asks? c = p.asks? := by
  rw [Group.asks?, Group.progress?_of_call hc, Option.bind_some]

theorem asks?_of_le (hc : r.group.calls.length ≤ c) : r.group.asks? c = none := by
  rw [Group.asks?, Group.progress?_eq_none hc, Option.bind_none]

theorem lt_of_asks? (hc : r.group.asks? c = some q) : c < r.group.calls.length := by
  by_contra hge
  rw [asks?_of_le (Nat.le_of_not_lt hge)] at hc
  cases hc

theorem asks?_next_of_lt (hc : c < r.group.calls.length) (ha : a.call? ≠ some c) :
    (r.next now a).group.asks? c = r.group.asks? c := by
  rw [Group.asks?, r.group_next, Group.progress?_step hc ha, Group.asks?]

theorem asks?_takeTurn {turn : Handler → Progress → Turn} (f : Option Question → Option Question)
    (hf : f none = none) (hturn : ∀ h p, (turn h p).progress.asks? = f p.asks?) (c : Nat) :
    (r.group.takeTurn c turn).1.asks? c = f (r.group.asks? c) := by
  cases hc : r.group.calls[c]? with
  | none =>
    have hle : r.group.calls.length ≤ c := List.getElem?_eq_none_iff.1 hc
    simp only [Group.takeTurn, hc, asks?_of_le hle, hf]
  | some call =>
    obtain ⟨i, p⟩ := call
    obtain ⟨h, hi⟩ := exists_handler hc
    rw [Group.takeTurn_eq hc hi, Group.asks?, Group.progress?_turned (Group.le_length_of_call hc),
      Option.bind_some, hturn, asks?_of_call hc]

theorem stops?_eq_some :
    (r.moment now a).stops? = some c ↔
      a = .cancel c ∨ ∃ body, r.group.heard? now a = some (c, body) := by
  cases a with
  | cancel c' => simp [Moment.stops?, moment, Group.heard?]
  | _ => simp [Moment.stops?, moment]

theorem asks?_next_of_stops (hs : (r.moment now a).stops? = some c) :
    (r.next now a).group.asks? c = none := by
  rw [r.group_next]
  obtain rfl | ⟨body, heard⟩ := stops?_eq_some.1 hs
  · exact asks?_takeTurn (fun _ => none) rfl (fun h p => Lookup.asks?_abandon r.group.cache h p) c
  · rw [Group.step_of_heard heard]
    exact asks?_takeTurn (fun _ => none) rfl
      (fun h p => Lookup.asks?_receive now r.group.cache h p body) c

theorem rests_expire (hs : (r.moment now (.expire c)).stops? ≠ some c) :
    r.group.Rests now (.expire c) := by
  cases hd : r.group.isDue now c with
  | true => exact absurd (stops?_eq_some.2 (Or.inr ⟨none, Group.heard?_expire hd⟩)) hs
  | false => exact Group.rests_expire now hd

/-- A lookup that waits for the registry stays as it is until its request ends. -/
theorem progress?_next_of_asks (hc : r.group.asks? c = some q)
    (hs : (r.moment now a).stops? ≠ some c) :
    (r.next now a).group.progress? c = r.group.progress? c := by
  rw [r.group_next]
  by_cases ha : a.call? = some c
  · obtain ⟨p, hp, hasks⟩ := Option.bind_eq_some_iff.1 hc
    cases a with
    | start i q => cases ha
    | receive c' body | cancel c' => exact absurd ha hs
    | expire c' =>
      obtain rfl : c' = c := Option.some.inj ha
      rw [(rests_expire hs).step]
    | resume c' =>
      obtain rfl : c' = c := Option.some.inj ha
      obtain ⟨i, h, hcall, hi⟩ := exists_call hp
      rw [Group.step, Group.takeTurn_eq hcall hi, Lookup.resume_of_asks r.group.cache h p hasks,
        Group.turned_rest hcall hi]
  · exact Group.progress?_step (lt_of_asks? hc) ha

theorem waits_start {i : Nat} {h : Handler} (hi : r.group.handlers[i]? = some h) (q : Question) :
    (r.next now (.start i q)).group.asks? r.group.calls.length =
        ((r.moment now (.start i q)).sends?).map (fun _ => q) ∧
      (r.next now (.start i q)).group.deadline? r.group.calls.length =
        ((r.moment now (.start i q)).sends?).map fun _ => h.giveUpAt now := by
  obtain ⟨hasks, hdeadline⟩ := Lookup.waits_start now r.group.cache h q
  have hprogress : (r.next now (.start i q)).group.progress? r.group.calls.length =
      some (Lookup.start now r.group.cache h q).progress := by
    rw [r.group_next, Group.step_start hi, Group.progress?_turned (Nat.le_refl _)]
  have hrequest : (r.moment now (.start i q)).effect.request =
      (Lookup.start now r.group.cache h q).request := by
    rw [Moment.effect, moment, Group.step_start hi]
    rfl
  simp only [Group.asks?, Group.deadline?, hprogress, Option.bind_some, hasks, hdeadline,
    Moment.sends?, hrequest, Option.map_map, Function.comp_def, and_self]

theorem rests_receive (hc : r.group.asks? c = none) (now : Instant) (body : Option String) :
    r.group.Rests now (.receive c body) := by
  cases hcall : r.group.calls[c]? with
  | none =>
    exact ⟨by simp [Group.step, Group.takeTurn, hcall], rfl,
      by simp [Moment.ends?, Group.heard?, hcall]⟩
  | some call =>
    obtain ⟨i, p⟩ := call
    obtain ⟨h, hi⟩ := exists_handler hcall
    have hp : p.asks? = none := by rw [← hc, asks?_of_call hcall]
    refine ⟨?_, rfl, by simp [Moment.ends?, Group.heard?, hcall, hp]⟩
    rw [Group.step, Group.takeTurn_eq hcall hi, Lookup.receive_of_quiet now r.group.cache h p hp,
      Group.turned_rest hcall hi]

theorem rests_expire_of_quiet (hc : r.group.asks? c = none) (now : Instant) :
    r.group.Rests now (.expire c) := by
  cases hd : r.group.isDue now c with
  | true => exact (rests_receive hc now none).of_heard (Group.heard?_expire hd)
  | false => exact Group.rests_expire now hd

/-- A lookup that neither sends a request nor ends one waits as before. -/
theorem asks?_next_of_rest (hstops : (r.moment now a).stops? ≠ some c)
    (hsends : ∀ x, (r.moment now a).sends? = some x → x.call ≠ c) :
    (r.next now a).group.asks? c = r.group.asks? c := by
  by_cases hc : c < r.group.calls.length
  · cases a with
    | start i q => exact asks?_next_of_lt hc nofun
    | receive c' body => exact asks?_next_of_lt hc hstops
    | cancel c' => exact asks?_next_of_lt hc hstops
    | expire c' =>
      by_cases hcc : c' = c
      · subst hcc
        rw [r.group_next, (rests_expire hstops).step]
      · exact asks?_next_of_lt hc fun he => hcc (Option.some.inj he)
    | resume c' =>
      by_cases hcc : c' = c
      · subst hcc
        rw [r.group_next]
        exact asks?_takeTurn id rfl (fun h p => Lookup.asks?_resume r.group.cache h p) c'
      · exact asks?_next_of_lt hc fun he => hcc (Option.some.inj he)
  · rw [asks?_of_le (Nat.le_of_not_lt hc)]
    cases ho : (r.moment now a).opens? with
    | none =>
      refine asks?_of_le ?_
      rw [length_calls_next, ho]
      exact Nat.le_of_not_lt hc
    | some o =>
      obtain ⟨i, q⟩ := o
      obtain ⟨rfl, h, hi⟩ := Moment.opens?_eq_some.1 ho
      by_cases hnew : c = r.group.calls.length
      · subst hnew
        rw [(waits_start hi q).1]
        cases hx : (r.moment now (.start i q)).sends? with
        | none => rfl
        | some x =>
          obtain ⟨-, -, -, -, -, hcall, -⟩ := sends?_eq_some hx
          exact absurd hcall (hsends x hx)
      · refine asks?_of_le ?_
        rw [length_calls_next, ho, Option.toList_some, List.length_singleton]
        omega

/-! ## Lookups and their requests -/

theorem sends?_of_stops (hs : (r.moment now a).stops? = some c) : (r.moment now a).sends? = none := by
  cases hx : (r.moment now a).sends? with
  | none => rfl
  | some x =>
    obtain ⟨i, q, h, rfl, -⟩ := sends?_eq_some hx
    cases hs

/-- **A lookup waits for the registry exactly as long as its request is outstanding.** -/
theorem asks?_eq_some_iff (r : Run) (c : Nat) (q : Question) :
    r.group.asks? c = some q ↔ (∃ x ∈ r.outstanding, x.call = c) ∧ r.question? c = some q := by
  induction r using Run.induction generalizing c q with
  | start us =>
    rw [asks?_of_le (Nat.zero_le c)]
    simp [outstanding, past, Group.moments]
  | next r now a ih =>
    simp only [mem_outstanding_next]
    by_cases hstops : (r.moment now a).stops? = some c
    · rw [asks?_next_of_stops hstops, sends?_of_stops hstops]
      simp only [hstops, reduceCtorEq, or_false, false_iff]
      rintro ⟨⟨x, ⟨-, hx⟩, rfl⟩, -⟩
      exact hx rfl
    · by_cases hsends : ∃ x, (r.moment now a).sends? = some x ∧ x.call = c
      · obtain ⟨x, hx, rfl⟩ := hsends
        obtain ⟨i, q', h, rfl, hi, hcall, -⟩ := sends?_eq_some hx
        have hasks : (r.next now (.start i q')).group.asks? x.call = some q' := by
          rw [hcall, (waits_start hi q').1, hx, Option.map_some]
        have hquestion : (r.next now (.start i q')).question? x.call = some q' := by
          rw [hcall, question?_start hi]
        rw [hasks, hquestion]
        exact ⟨fun he => ⟨⟨x, Or.inr hx, rfl⟩, he⟩, And.right⟩
      · have hrest : ∀ x, (r.moment now a).sends? = some x → x.call ≠ c :=
          fun x hx hc => hsends ⟨x, hx, hc⟩
        rw [asks?_next_of_rest hstops hrest, ih]
        constructor
        · rintro ⟨⟨x, hx, rfl⟩, hq⟩
          exact ⟨⟨x, Or.inl ⟨hx, hstops⟩, rfl⟩, (question?_of_lt (lt_of_outstanding hx)).trans hq⟩
        · rintro ⟨⟨x, ⟨hx, -⟩ | hx, rfl⟩, hq⟩
          · exact ⟨⟨x, hx, rfl⟩, (question?_of_lt (lt_of_outstanding hx)).symm.trans hq⟩
          · exact absurd rfl (hrest x hx)

theorem exists_question (hc : c < r.group.calls.length) : ∃ q, r.question? c = some q := by
  rw [← length_started] at hc
  exact ⟨_, by rw [question?, List.getElem?_eq_getElem hc, Option.map_some]⟩

theorem asks?_of_outstanding (hx : x ∈ r.outstanding) :
    r.group.asks? x.call = r.question? x.call := by
  obtain ⟨q, hq⟩ := exists_question (lt_of_outstanding hx)
  rw [hq]
  exact (asks?_eq_some_iff r x.call q).2 ⟨⟨x, hx, rfl⟩, hq⟩

end Run

/-! ## Keys and their requests -/

/-- An attempt about the key of `q` is under way. -/
def SharedCache.Pending (cache : SharedCache) : Question → Prop
  | .content id => cache.schemas.standing id = .pending
  | .id key => cache.ids.standing key = .pending

namespace Run

variable {r : Run} {now : Instant} {a : Group.Action} {c c' : Nat} {q : Question} {x y : Request}

theorem exists_lead_of_asks? {κ α : Type} {D : Direction κ α} {k : κ}
    (hc : r.group.asks? c = some (D.ask k)) :
    ∃ f prev, D.part r.group c = some (.lead k f prev) := by
  obtain ⟨p, hp, hasks⟩ := Option.bind_eq_some_iff.1 hc
  obtain ⟨f, prev, d, rfl⟩ := D.lead_of_asks? p k hasks
  exact ⟨f, prev, Direction.part_of_lead hp⟩

theorem eq_of_asks? (hc : r.group.asks? c = some q) (hc' : r.group.asks? c' = some q) : c = c' := by
  cases q with
  | content id =>
    obtain ⟨f, prev, hl⟩ := exists_lead_of_asks? (D := contents) hc
    obtain ⟨f', prev', hl'⟩ := exists_lead_of_asks? (D := contents) hc'
    exact (contents_complete.sound r).traffic.lead_unique c c' id f f' prev prev' hl hl'
  | id key =>
    obtain ⟨f, prev, hl⟩ := exists_lead_of_asks? (D := ids) hc
    obtain ⟨f', prev', hl'⟩ := exists_lead_of_asks? (D := ids) hc'
    exact (ids_complete.sound r).traffic.lead_unique c c' key f f' prev prev' hl hl'

theorem pending_iff_asks? (r : Run) (q : Question) :
    r.group.cache.Pending q ↔ ∃ c, r.group.asks? c = some q := by
  have hasks : (∃ c, r.group.asks? c = some q) ↔
      ∃ c p, r.group.progress? c = some p ∧ p.asks? = some q := by
    simp only [Group.asks?, Option.bind_eq_some_iff]
  rw [hasks]
  cases q with
  | content id => exact contents_complete.standing_eq_pending_iff r id
  | id key => exact ids_complete.standing_eq_pending_iff r key

/-- **A key is pending exactly as long as a request about it is outstanding.** -/
theorem pending_iff (r : Run) (q : Question) :
    r.group.cache.Pending q ↔ ∃ x ∈ r.outstanding, r.question? x.call = some q := by
  rw [pending_iff_asks?]
  constructor
  · rintro ⟨c, hc⟩
    obtain ⟨⟨x, hx, rfl⟩, hq⟩ := (asks?_eq_some_iff r c q).1 hc
    exact ⟨x, hx, hq⟩
  · rintro ⟨x, hx, hq⟩
    exact ⟨x.call, (asks?_of_outstanding hx).trans hq⟩

theorem eq_of_call (hx : x ∈ r.sent) (hy : y ∈ r.sent) (h : x.call = y.call) : x = y := by
  have hnodup : (r.sent.map Request.call).Nodup :=
    List.pairwise_map.2 (r.sent_sorted.imp Nat.ne_of_lt)
  exact List.inj_on_of_nodup_map hnodup hx hy h

theorem nodup_outstanding (r : Run) : (r.outstanding.map fun x => r.question? x.call).Nodup := by
  have hsorted := r.sent_sorted.sublist r.outstanding_sublist
  rw [List.Nodup, List.pairwise_map]
  refine hsorted.imp_of_mem ?_
  intro x y hx hy hlt hq
  obtain ⟨q, hxq⟩ := exists_question (lt_of_outstanding hx)
  have hcalls : x.call = y.call :=
    eq_of_asks? ((asks?_of_outstanding hx).trans hxq)
      ((asks?_of_outstanding hy).trans (hq.symm.trans hxq))
  omega

/-! ## Timers -/

/-- Request `x` was sent by lookup `x.call`, when that started on a handler that is made from `u`. -/
structure SentBy (r : Run) (x : Request) (u : Setup) : Prop where
  started : ∃ i q, r.started[x.call]? = some (i, q) ∧ r.setups[i]? = some u
  startedAt : r.startedAt[x.call]? = some x.sent
  paths : r.paths x.call = [x.path]

theorem SentBy.unique {u u' : Setup} (h : r.SentBy x u) (h' : r.SentBy x u') : u = u' := by
  obtain ⟨i, q, hi, hu⟩ := h.started
  obtain ⟨i', q', hi', hu'⟩ := h'.started
  obtain ⟨rfl, -⟩ := Prod.mk.inj (Option.some.inj (hi.symm.trans hi'))
  exact Option.some.inj (hu.symm.trans hu')

theorem SentBy.next {u : Setup} (h : r.SentBy x u) : (r.next now a).SentBy x u := by
  obtain ⟨i, q, hstarted, hu⟩ := h.started
  have hlt : x.call < r.group.calls.length := by
    rw [← r.length_startedAt]
    exact (List.getElem?_eq_some_iff.1 h.startedAt).1
  exact ⟨⟨i, q, getElem?_started_next hstarted, hu⟩, (startedAt_of_lt hlt).trans h.startedAt,
    paths_next h.paths⟩

theorem sentBy_start {i : Nat} {h : Handler} (hi : r.group.handlers[i]? = some h)
    (hx : (r.moment now (.start i q)).sends? = some x) :
    (r.next now (.start i q)).SentBy x h.setup := by
  obtain ⟨-, -, -, -, -, hcall, hsent, hpath⟩ := sends?_eq_some hx
  refine ⟨⟨i, q, ?_, setup_of_handler (r := r) hi⟩, ?_, ?_⟩
  · rw [started_next, opens?_start hi, hcall, ← length_started]
    exact List.getElem?_concat_length
  · rw [startedAt_next, opens?_start hi, hcall, hsent, ← length_startedAt]
    exact List.getElem?_concat_length
  · rw [hcall, paths_start, hpath]
    rfl

theorem exists_sentBy (hx : x ∈ r.sent) : ∃ u, r.SentBy x u := by
  induction r using Run.induction with
  | start us => cases hx
  | next r now a ih =>
    obtain hold | hnew := mem_sent_next.1 hx
    · obtain ⟨u, hu⟩ := ih hold
      exact ⟨u, hu.next⟩
    · obtain ⟨i, q, h, rfl, hi, -⟩ := sends?_eq_some hnew
      exact ⟨h.setup, sentBy_start hi hnew⟩

/-- **The timer of an outstanding request is set** to the time that its handler waits. -/
theorem armed (hx : x ∈ r.outstanding) :
    ∃ u, r.SentBy x u ∧
      r.group.deadline? x.call = some (x.sent.after u.config.requestTimeout) := by
  induction r using Run.induction with
  | start us => cases hx
  | next r now a ih =>
    obtain ⟨hold, hstill⟩ | hnew := mem_outstanding_next.1 hx
    · obtain ⟨u, hu, hd⟩ := ih hold
      obtain ⟨q, hq⟩ := exists_question (lt_of_outstanding hold)
      have hasks := (asks?_of_outstanding hold).trans hq
      exact ⟨u, hu.next, by rw [Group.deadline?, progress?_next_of_asks hasks hstill]; exact hd⟩
    · obtain ⟨i, q, h, rfl, hi, hcall, hsent, -⟩ := sends?_eq_some hnew
      refine ⟨h.setup, sentBy_start hi hnew, ?_⟩
      rw [hcall, (waits_start hi q).2, hnew, Option.map_some, hsent]
      rfl

end Run

end SchemaCatalog
