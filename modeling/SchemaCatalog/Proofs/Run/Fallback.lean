import SchemaCatalog.Proofs.Run.LocalTier
import SchemaCatalog.Proofs.Run.Provenance
import SchemaCatalog.Proofs.Run.Reports
import SchemaCatalog.Proofs.Run.Settling

/-!
# The stale fallback never runs dry

Once an attempt about a pair has found its id, later lookups give an id, however long the registry
fails.

* `Run.Found`: an attempt about the pair has found an id. `Run.Found.next`: that stays so.
* `Run.Served`: a lookup waits for an attempt, or is told an id. `Run.Served.next`: that stays so
  after an id was found.
* `Run.GivesId`: what a lookup that gives an id is at.
* `Direction.Guided.begun_last`: a lookup is answered with the last value, or waits.
* **`Run.stale_fallback`**: later lookups give an id, and it is that of the latest success.
-/

namespace SchemaCatalog

/-! ## The last value -/

namespace Direction

variable {κ α : Type} [DecidableEq κ] {D : Direction κ α} {r : Run} {now : Instant} {i : Nat} {k : κ}
  {h : Handler}

theorem Sound.last_of_ready (hr : D.Sound r) {v : α}
    (ready : (D.table r.group.cache).standing k = .ready v) :
    (D.values r k).getLast? = some v :=
  hr.traffic.ready k v ready

/-- Where what could once be replaced can be replaced now, a lookup is answered with the last value,
or it leads or waits. -/
theorem Guided.begun_last (hD : D.Guided) (ageing : D.Ageing r now)
    (hi : r.group.handlers[i]? = some h) :
    (r.next now (.start i (D.ask k))).group.progress? r.group.calls.length =
        some (.answered (D.answer (D.values r k).getLast?)) ∨
      D.Waits (r.next now (.start i (D.ask k))) r.group.calls.length k := by
  have hr := hD.complete.sound r
  have hbegun : D.Begun r now k i := hD.begun hi
  cases hbegun with
  | own h' b hi' owned answered =>
    left
    obtain ⟨v, ready, -, hv⟩ := hr.echoes ageing (List.mem_of_getElem? hi') k b owned
    rw [answered, hr.last_of_ready ready, hv]
  | learn v ready answered =>
    left
    rw [answered, hr.last_of_ready ready]
  | waits h => exact Or.inr h

end Direction

namespace Run

variable {r : Run} {now : Instant} {a : Group.Action} {key : Key} {n i : Nat} {h : Handler}

theorem id_last (r : Run) (key : Key) :
    (ids.values r key).getLast?.bind Mapping.id = Attempt.lastId? (r.attempts (.id key)) :=
  Mapping.id_after key (r.attempts (.id key))

/-! ## Ids that were found -/

def Found (r : Run) (key : Key) : Prop := ∃ t ∈ r.attempts (.id key), t.id?.isSome

theorem Found.next (h : r.Found key) : (r.next now a).Found key := by
  obtain ⟨t, ht, hfound⟩ := h
  refine ⟨t, ?_, hfound⟩
  rw [r.attempts_next]
  exact List.mem_append_left _ ht

theorem Found.extend (h : r.Found key) (later : List (Instant × Group.Action)) :
    (r.extend later).Found key :=
  extend_induction (P := fun r' => r'.Found key) h (fun _ _ _ ih => Found.next ih) later

/-- The last mapping keeps an id, though attempts fail. -/
theorem Found.exists_last (h : r.Found key) :
    ∃ m, (ids.values r key).getLast? = some m ∧ m.id.isSome := by
  obtain ⟨t, ht, hfound⟩ := h
  have hne : (r.attempts (.id key)).filterMap Attempt.id? ≠ [] := by
    obtain ⟨id, hid⟩ := Option.isSome_iff_exists.1 hfound
    exact List.ne_nil_of_mem (List.mem_filterMap.2 ⟨t, ht, hid⟩)
  obtain ⟨id, hid⟩ := Option.isSome_iff_exists.1 (List.getLast?_isSome.2 hne)
  have hlast := (id_last r key).trans hid
  obtain ⟨m, hm, hn⟩ := Option.bind_eq_some_iff.1 hlast
  exact ⟨m, hm, Option.isSome_of_eq_some hn⟩

/-! ## Lookups that are served -/

/-- Lookup `n` about `key` leads or waits, or is told an id. -/
inductive Served (r : Run) (n : Nat) (key : Key) : Prop
  | waits (h : ids.Waits r n key)
  | told (m : Mapping) (h : ids.Told r n key (some m)) (known : m.id.isSome)

theorem Served.next (h : r.Served n key) (found : (r.next now a).Found key) :
    (r.next now a).Served n key := by
  cases h with
  | told m h known => exact .told m (ids_guided.told_next h) known
  | waits h =>
    obtain h' | h' := ids_guided.waits_next h now a
    · exact .waits h'
    · obtain ⟨m, hm, known⟩ := found.exists_last
      rw [hm] at h'
      exact .told m h' known

theorem Found.served_start (found : r.Found key) (hi : r.group.handlers[i]? = some h) :
    (r.next now (.start i (.id key))).Served r.group.calls.length key := by
  have hr := ids_complete.sound r
  have hbegun : ids.Begun r now key i := ids_guided.begun hi
  cases hbegun with
  | own h' b hi' owned answered =>
    obtain ⟨id, hid, rfl⟩ := Option.map_eq_some_iff.1 owned
    obtain ⟨m, -, rfl, known, -⟩ :=
      Handler.IdsFrom.of_own (hr.backed h' (List.mem_of_getElem? hi')) hid
    exact .told m (.answered answered) known
  | learn m ready answered =>
    obtain ⟨m', hm', known⟩ := found.exists_last
    have hlast := hr.last_of_ready ready
    rw [hm', Option.some.injEq] at hlast
    subst hlast
    exact .told m' (.answered answered) known
  | waits h => exact .waits h

theorem Found.served (found : r.Found key) (later : List (Instant × Group.Action))
    (new : r.started.length ≤ n) (hn : (r.extend later).started[n]? = some (i, .id key)) :
    (r.extend later).Served n key := by
  induction later using List.reverseRecOn generalizing i with
  | nil =>
    rw [extend_nil] at hn
    exact absurd (List.getElem?_eq_some_iff.1 hn).1 (Nat.not_lt_of_le new)
  | append_singleton later x ih =>
    have hfound := found.extend later
    rw [extend_concat] at hn ⊢
    rw [started_next] at hn
    by_cases hlt : n < (r.extend later).started.length
    · rw [List.getElem?_append_left hlt] at hn
      exact (ih hn).next hfound.next
    · -- it is the lookup that the last step starts
      have hopens : ((r.extend later).moment x.1 x.2).opens? = some (i, .id key) := by
        rw [List.getElem?_append_right (Nat.le_of_not_lt hlt)] at hn
        exact Option.mem_toList.1 (List.mem_of_getElem? hn)
      obtain rfl : n = (r.extend later).group.calls.length := by
        have hlen := (List.getElem?_eq_some_iff.1 hn).1
        rw [hopens, List.length_append, Option.toList_some, List.length_singleton] at hlen
        rw [← length_started]
        omega
      obtain ⟨hx, h, hi⟩ := Moment.opens?_eq_some.1 hopens
      have hx' : x.2 = .start i (.id key) := hx
      rw [hx']
      exact hfound.served_start hi

/-! ## What being served comes to -/

/-- Lookup `n` about `key` gives an id, unless it is given up. A leader does whatever it hears, be it
from the registry or from its timer. A follower resumes when its leader has come to the end of its
attempt or was given up. -/
inductive GivesId (r : Run) (n : Nat) (key : Key) : Prop
  | cancelled (h : r.group.progress? n = some .cancelled)
  | answered (id : SchemaId) (h : r.group.progress? n = some (.answered (.id (some id))))
  | leads (f : Nat) (prev : Option Mapping) (d : Instant)
      (h : r.group.progress? n = some (.leadId key f prev d))
      (ends : ∀ now a body, r.group.heard? now a = some (n, body) → ∃ id,
        (r.next now a).group.progress? n = some (.answered (.id (some id))))
  | waits (f l : Nat) (prev : Option Mapping) (d : Instant)
      (h : r.group.progress? n = some (.followId key f))
      (leader : r.group.progress? l = some (.leadId key f prev d))
      (ends : ∀ now a, ((∃ body, r.group.heard? now a = some (l, body)) ∨ a = .cancel l) →
        ∀ now', ∃ id, ((r.next now a).next now' (.resume n)).group.progress? n =
          some (.answered (.id (some id))))
  | resumes (f : Nat) (h : r.group.progress? n = some (.followId key f))
      (ends : ∀ now, ∃ id,
        (r.next now (.resume n)).group.progress? n = some (.answered (.id (some id))))

theorem exists_id_of_answered {p? : Option Progress} {m : Mapping} (known : m.id.isSome)
    (h : p? = some (.answered (ids.answer (some m)))) :
    ∃ id, p? = some (.answered (.id (some id))) := by
  obtain ⟨id, hid⟩ := Option.isSome_iff_exists.1 known
  have hanswer : ids.answer (some m) = .id (some id) := congrArg Answer.id hid
  exact ⟨id, by rw [h, hanswer]⟩

theorem Found.answers_of_lead (found : r.Found key) {f : Nat} {prev : Option Mapping} {d : Instant}
    (hp : r.group.progress? n = some (.leadId key f prev d)) {body : Option String}
    (heard : r.group.heard? now a = some (n, body)) :
    ∃ id, (r.next now a).group.progress? n = some (.answered (.id (some id))) := by
  obtain ⟨t, ends, -, answered⟩ := ids_guided.finishes_of_heard hp heard
  have hnext : (r.next now a).Found key := found.next
  obtain ⟨m, hm, known⟩ := hnext.exists_last
  rw [ids_guided.last_of_ends hp ends, Option.some.injEq] at hm
  rw [hm] at answered
  exact exists_id_of_answered known answered

theorem answers_of_poll {f : Nat} {m : Mapping} (hp : r.group.progress? n = some (.followId key f))
    (told : r.group.cache.ids.poll f = some (some m)) (known : m.id.isSome) (now : Instant) :
    ∃ id, (r.next now (.resume n)).group.progress? n = some (.answered (.id (some id))) :=
  exists_id_of_answered known (ids_guided.answered_resume hp told now)

/-- A follower answers with an id once its leader has ended its attempt or is given up. -/
theorem Found.answers_of_end (found : r.Found key) {f l : Nat} {prev : Option Mapping} {d : Instant}
    (hp : r.group.progress? n = some (.followId key f))
    (hl : r.group.progress? l = some (.leadId key f prev d))
    (ha : (∃ body, r.group.heard? now a = some (l, body)) ∨ a = .cancel l) (now' : Instant) :
    ∃ id, ((r.next now a).next now' (.resume n)).group.progress? n =
      some (.answered (.id (some id))) := by
  have hne : a.call? ≠ some n := by
    have hln : l ≠ n := by
      rintro rfl
      rw [hp] at hl
      cases hl
    obtain ⟨body, heard⟩ | rfl := ha
    · rw [Group.call?_of_heard heard]
      exact fun he => hln (Option.some.inj he)
    · exact fun he => hln (Option.some.inj he)
  have hstill : (r.next now a).group.progress? n = some (.followId key f) := by
    rw [r.group_next, Group.progress?_step (Group.lt_of_progress? hp) hne, hp]
  have hnext : (r.next now a).Found key := found.next
  obtain ⟨m, hm, known⟩ := hnext.exists_last
  have htold := ids_guided.poll_of_end hl ha
  rw [hm] at htold
  exact answers_of_poll hstill htold known now'

theorem Served.givesId (h : r.Served n key) (found : r.Found key) : r.GivesId n key := by
  cases h with
  | waits h =>
    cases h with
    | leads f prev d h =>
      exact .leads f prev d h fun now a body heard => found.answers_of_lead h heard
    | follows f h pending =>
      obtain ⟨l, prev, d, hl⟩ := ids_guided.exists_leader h pending
      exact .waits f l prev d h hl fun now a ha now' => found.answers_of_end h hl ha now'
  | told m h known =>
    cases h with
    | waiting f h told => exact .resumes f h fun now => answers_of_poll h told known now
    | cancelled h => exact .cancelled h
    | answered h =>
      obtain ⟨id, hid⟩ := exists_id_of_answered known h
      exact .answered id hid

/-! ## The fallback -/

/-- The answer with the id of the latest success. -/
def latest (r : Run) (key : Key) : Answer := .id (Attempt.lastId? (r.attempts (.id key)))

theorem answer_last (r : Run) (key : Key) :
    ids.answer (ids.values r key).getLast? = r.latest key :=
  congrArg Answer.id (id_last r key)

/-- Who leads or waits comes to the latest success at the end of its attempt. -/
theorem comesTo_latest (before : ids.Waits r n key) (gone : ¬ ids.Waits (r.next now a) n key)
    (later : List (Instant × Group.Action)) :
    ((r.next now a).extend later).ComesTo n ((r.next now a).latest key) := by
  obtain still | told := ids_guided.waits_next before now a
  · exact absurd still gone
  · rw [← answer_last]
    exact ids_guided.comesTo (ids_guided.told_extend told later)

theorem answer_eq_none {b : Answer} (lost : ∀ t ∈ r.attempts (.id key), t.id? = none)
    (hn : r.started[n]? = some (i, .id key)) (hp : r.group.progress? n = some (.answered b)) :
    b = .id none := by
  obtain ⟨p, hcall, hfits⟩ := (ids_complete.sound r).fits n i key hn
  rw [Group.progress?_of_call hcall, Option.some.injEq] at hp
  subst hp
  obtain ⟨known, rfl, -⟩ := hfits.exists_known
  cases hid : known.bind Mapping.id with
  | none => exact congrArg Answer.id hid
  | some id =>
    have hanswer : ids.answer known = .id (some id) := congrArg Answer.id hid
    rw [hanswer] at hcall
    obtain ⟨t, ht, hfound⟩ := exists_attempt_of_id hn (Group.progress?_of_call hcall)
    rw [lost t ht] at hfound
    cases hfound

/-- **The stale fallback never runs dry.** Once an attempt about a pair has found an id, every lookup
that starts later gives one, whatever happens next. If handlers keep ids fresh equally long, it is
the id of the latest success by the time of the start, or by the end of the attempt for which the
lookup has waited. Before the first success no lookup is answered with an id. -/
theorem stale_fallback (r : Run) (key : Key) :
    (r.Found key → ∀ (later : List (Instant × Group.Action)) (n i : Nat),
      r.started.length ≤ n → (r.extend later).started[n]? = some (i, .id key) →
      (r.extend later).GivesId n key) ∧
    (∀ maxAge, r.Ages maxAge → ∀ (now : Instant) (i : Nat), i < r.setups.length →
      (r.next now (.start i (.id key))).Ordered →
      let started := r.next now (.start i (.id key))
      let n := r.started.length
      started.group.progress? n = some (.answered (r.latest key)) ∨
        ids.Waits started n key ∧
          ∀ (s : List (Instant × Group.Action)) (now' : Instant) (a : Group.Action),
            ids.Waits (started.extend s) n key →
            ¬ ids.Waits ((started.extend s).next now' a) n key →
            ∀ later, (((started.extend s).next now' a).extend later).ComesTo n
              (((started.extend s).next now' a).latest key)) ∧
    ((∀ t ∈ r.attempts (.id key), t.id? = none) → ∀ (n i : Nat) (b : Answer),
      r.started[n]? = some (i, .id key) → r.group.progress? n = some (.answered b) →
      b = .id none) := by
  refine ⟨?_, ?_, ?_⟩
  · intro found later n i new hn
    exact (found.served later new hn).givesId (found.extend later)
  · intro maxAge hages now i hlt ordered started n
    obtain ⟨h, hi⟩ := handler_of_lt hlt
    have hn : n = r.group.calls.length := r.length_started
    rw [hn]
    obtain answered | waits := ids_guided.begun_last (k := key) (ids_ageing hages ordered) hi
    · left
      rw [← answer_last]
      exact answered
    · exact Or.inr ⟨waits, fun s now' a before gone later => comesTo_latest before gone later⟩
  · intro lost n i b hn hp
    exact answer_eq_none lost hn hp

/-- A handler finds an id, and does not get it again when that has expired. -/
def lostAgain : Run where
  setups := [⟨1, .standard, .record⟩, ⟨2, .standard, .record⟩]
  schedule :=
    [(.ofMillis 0, .start 0 (.id ⟨"a", "1"⟩)),
      (.ofMillis 1000, .receive 0 (some "\x7b\"globalId\":1\x7d")),
      (.ofMillis 302000, .start 0 (.id ⟨"a", "1"⟩)), (.ofMillis 303000, .receive 1 none)]

/-- Another handler is told the id that was found. -/
theorem stale_fallback_lostAgain :
    (lostAgain.extend [(.ofMillis 303001, .start 1 (.id ⟨"a", "1"⟩))]).GivesId 2 ⟨"a", "1"⟩ ∧
      (lostAgain.next (.ofMillis 303001) (.start 1 (.id ⟨"a", "1"⟩))).group.progress? 2 =
        some (.answered (.id (some ⟨1⟩))) := by
  obtain ⟨gives, tells, -⟩ := stale_fallback lostAgain ⟨"a", "1"⟩
  have found : lostAgain.Found ⟨"a", "1"⟩ := by
    unfold Found
    decide +kernel
  have ordered : (lostAgain.next (.ofMillis 303001) (.start 1 (.id ⟨"a", "1"⟩))).Ordered := by
    unfold Ordered
    decide
  have latest : lostAgain.latest ⟨"a", "1"⟩ = .id (some ⟨1⟩) := by decide +kernel
  refine ⟨gives found _ 2 1 (by decide +kernel) (by decide +kernel), ?_⟩
  obtain answered | ⟨waits, -⟩ := tells (.ofSecs 300) (by unfold Ages; decide) (.ofMillis 303001) 1
    (by decide) ordered
  · rw [latest] at answered
    exact answered
  · -- the pause after the failure is not over, so nobody is asked
    have hover : ((lostAgain.next (.ofMillis 303001)
        (.start 1 (.id ⟨"a", "1"⟩))).group.progress? 2).bind Progress.about? = none := by
      decide +kernel
    cases waits with
    | leads f prev d h =>
      have h' : (lostAgain.next (.ofMillis 303001)
        (.start 1 (.id ⟨"a", "1"⟩))).group.progress? 2 = some (.leadId ⟨"a", "1"⟩ f prev d) := h
      rw [h'] at hover
      cases hover
    | follows f h pending =>
      have h' : (lostAgain.next (.ofMillis 303001)
        (.start 1 (.id ⟨"a", "1"⟩))).group.progress? 2 = some (.followId ⟨"a", "1"⟩ f) := h
      rw [h'] at hover
      cases hover

end Run

end SchemaCatalog
