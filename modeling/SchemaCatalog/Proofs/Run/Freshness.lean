import SchemaCatalog.Proofs.Run.Provenance
import SchemaCatalog.Proofs.Run.Returns

/-!
# Served ids are fresh

An id that is older than its handlers allow is served in two cases only: an attempt to refresh it
has failed, or the lookup waited for an attempt that was given up.

* `Run.found_of_fresh`, `Run.found_of_good`, `Run.found_of_ended`: how old the id is that a handler
  keeps, that a lookup learns from the shared cache, and that an attempt ends with.
* **`Run.id_freshness`**: how old an id can be that is served.
-/

namespace SchemaCatalog

namespace Run

variable {r : Run} {now : Instant} {a : Group.Action} {key : Key} {m : Mapping} {n : SchemaId}
  {maxAge : Duration} {t₀ : Instant} {c i : Nat} {f : Nat} {h : Handler}

/-! ## How old an id is -/

theorem found_of_fresh (hm : m ∈ ids.values r key) (hn : m.id = some n)
    (hfresh : m.expired now maxAge = false) :
    ∃ t ∈ r.attempts (.id key), t.id? = some n ∧ now.nanos < t.ended.nanos + maxAge.nanos := by
  obtain ⟨t, ht, hfound, hended⟩ := Mapping.exists_found_of_mem hm hn
  have hage : ¬ maxAge.nanos ≤ now.nanos - m.createdAt.nanos := of_decide_eq_false hfresh
  rw [← hended] at hage
  exact ⟨t, ht, hfound, by omega⟩

/-- The last mapping, if it is not to be refreshed now, was found lately, or could not be
refreshed. -/
theorem found_of_good (hages : r.Ages maxAge)
    (hm : Mapping.after key (r.attempts (.id key)) = some m) (hn : m.id = some n)
    (hgood : m.refreshable now maxAge = false) :
    ∃ t ∈ r.attempts (.id key), t.id? = some n ∧
      (now.nanos < t.ended.nanos + maxAge.nanos ∨
        ∃ t' ∈ r.attempts (.id key), t'.id? = none ∧ t.ended.nanos < t'.ended.nanos) := by
  cases hexp : m.expired now maxAge with
  | false =>
    obtain ⟨t, ht, hfound, hage⟩ := found_of_fresh (List.mem_of_getLast? hm) hn hexp
    exact ⟨t, ht, hfound, Or.inl hage⟩
  | true =>
    -- only the pause forbids to refresh it, and the pause is shorter than its age
    have hpaused : m.retryAllowed now = false := by
      rw [Mapping.refreshable, hexp, Bool.or_true, Bool.and_true] at hgood
      exact hgood
    have hpause : ¬ m.retryAfter.nanos ≤ now.nanos - m.attemptedAt.nanos :=
      of_decide_eq_false hpaused
    have hage : maxAge.nanos ≤ now.nanos - m.createdAt.nanos := of_decide_eq_true hexp
    have hshort := Mapping.retryAfter_after_le (fun t ht => hages.of_attempt ht) hm
    obtain ⟨t, ht, hfound, hended⟩ := Mapping.exists_found_of_mem (List.mem_of_getLast? hm) hn
    obtain ⟨t', ht', hlost, hended'⟩ := Mapping.lost_of_retryAfter hm (by omega)
    rw [← hended] at hage
    rw [← hended'] at hpause
    exact ⟨t, ht, hfound, Or.inr ⟨t', ht', hlost, by omega⟩⟩

theorem found_of_ended {l before rest : List Attempt} {t : Attempt}
    (sorted : l.Pairwise fun t t' => t.ended.nanos ≤ t'.ended.nanos) (hl : l = before ++ t :: rest)
    (hm : Mapping.after key (before ++ [t]) = some m) (hn : m.id = some n) :
    ∃ t₁ ∈ l, t₁.id? = some n ∧
      (t.ended.nanos ≤ t₁.ended.nanos ∨
        ∃ t' ∈ l, t'.id? = none ∧ t₁.ended.nanos < t'.ended.nanos) := by
  have hmem : t ∈ l := by
    rw [hl]
    simp
  obtain ⟨b, t₁, lost, hsplit, hfound, -, hlost⟩ := Mapping.exists_found_after hm hn
  obtain rfl | ⟨lost', t', rfl⟩ := List.eq_nil_or_concat lost
  · obtain ⟨-, ht⟩ := List.append_inj' hsplit rfl
    obtain rfl : t = t₁ := List.singleton_inj.1 ht
    exact ⟨t, hmem, hfound, Or.inl (Nat.le_refl _)⟩
  · rw [List.concat_eq_append] at hsplit hlost
    have hsplit' : before ++ [t] = (b ++ t₁ :: lost') ++ [t'] := by simpa using hsplit
    obtain ⟨hbefore, ht⟩ := List.append_inj' hsplit' rfl
    obtain rfl : t = t' := List.singleton_inj.1 ht
    have hmem₁ : t₁ ∈ before := by
      rw [hbefore]
      simp
    have hle : t₁.ended.nanos ≤ t.ended.nanos := by
      rw [hl, List.pairwise_append] at sorted
      exact sorted.2.2 t₁ hmem₁ t List.mem_cons_self
    have hnone : t.id? = none := hlost t (by simp)
    refine ⟨t₁, by rw [hl]; exact List.mem_append_left _ hmem₁, hfound, ?_⟩
    obtain hlt | heq : t₁.ended.nanos < t.ended.nanos ∨ t.ended.nanos ≤ t₁.ended.nanos := by omega
    · exact Or.inr ⟨t, hmem, hnone, hlt⟩
    · exact Or.inl heq

/-! ## How old a served id is -/

/-- An id of `key` was found less than `maxAge` before `t₀`, or since `t₀`, or before an attempt
that has failed. -/
def Supported (r : Run) (key : Key) (n : SchemaId) (maxAge : Duration) (t₀ : Instant) : Prop :=
  ∃ t ∈ r.attempts (.id key), t.id? = some n ∧
    (t₀.nanos < t.ended.nanos + maxAge.nanos ∨ t₀.nanos ≤ t.ended.nanos ∨
      ∃ t' ∈ r.attempts (.id key), t'.id? = none ∧ t.ended.nanos < t'.ended.nanos)

theorem Supported.next (h : r.Supported key n maxAge t₀) :
    (r.next now a).Supported key n maxAge t₀ := by
  have hsub : ∀ t ∈ r.attempts (.id key), t ∈ (r.next now a).attempts (.id key) := by
    intro t ht
    rw [r.attempts_next]
    exact List.mem_append_left _ ht
  obtain ⟨t, ht, hfound, hage | hsince | ⟨t', ht', hlost⟩⟩ := h
  · exact ⟨t, hsub t ht, hfound, Or.inl hage⟩
  · exact ⟨t, hsub t ht, hfound, Or.inr (Or.inl hsince)⟩
  · exact ⟨t, hsub t ht, hfound, Or.inr (Or.inr ⟨t', hsub t' ht', hlost⟩)⟩

theorem supported_of_ended (ordered : r.Ordered) {before rest : List Attempt} {t : Attempt}
    (hl : r.attempts (.id key) = before ++ t :: rest) (since : t₀.nanos ≤ t.ended.nanos)
    (hm : Mapping.after key (before ++ [t]) = some m) (hn : m.id = some n) :
    r.Supported key n maxAge t₀ := by
  have sorted := ids_complete.attempts_sorted r ordered key
  obtain ⟨t₁, ht₁, hfound, hle | hlost⟩ := found_of_ended sorted hl hm hn
  · exact ⟨t₁, ht₁, hfound, Or.inr (Or.inl (Nat.le_trans since hle))⟩
  · exact ⟨t₁, ht₁, hfound, Or.inr (Or.inr hlost)⟩

/-- A lookup that is answered with an id is supported, unless it waited for an attempt that was given
up. -/
theorem supported_of_returns (hages : r.Ages maxAge) (ordered : (r.next now a).Ordered)
    (ht : (r.next now a).startedAt[c]? = some t₀) {b : Answer} (hb : Answer.id (some n) = b)
    (hret : ids.Returns r now a c key b) :
    (r.next now a).Supported key n maxAge t₀ ∨
      ∃ f prev, r.group.progress? c = some (.followId key f) ∧ ids.GivenUp r key f prev := by
  have hr := ids_complete.sound r
  have hordered : r.Ordered := ((r.ordered_next now a).1 ordered).1
  have hold : ∀ {p : Progress}, r.group.progress? c = some p → r.startedAt[c]? = some t₀ := by
    intro p hp
    obtain ⟨call, hcall, -⟩ := Option.map_eq_some_iff.1 hp
    rwa [startedAt_of_lt (List.getElem?_eq_some_iff.1 hcall).1] at ht
  cases hret with
  | @own i h b new hi owned =>
    subst new hb
    obtain rfl := startedAt_new ht
    obtain ⟨id, hid, hidn⟩ := Option.map_eq_some_iff.1 owned
    obtain rfl : id = some n := Answer.id.inj hidn
    obtain ⟨m, hm, hn, -, hfresh⟩ :=
      Handler.IdsFrom.of_own (hr.backed h (List.mem_of_getElem? hi)) hid
    rw [hages.of_handler hi] at hfresh
    obtain ⟨t, ht', hfound, hage⟩ := found_of_fresh hm hn hfresh
    have hsupported : r.Supported key n maxAge t₀ := ⟨t, ht', hfound, Or.inl hage⟩
    exact Or.inl hsupported.next
  | @learn i h m new hi ready good =>
    subst new
    obtain rfl := startedAt_new ht
    have hn : m.id = some n := (Answer.id.inj hb).symm
    have hm : Mapping.after key (r.attempts (.id key)) = some m := hr.traffic.ready key m ready
    have hgood : m.refreshable t₀ maxAge = false := by
      rw [← hages.of_handler hi]
      exact good
    obtain ⟨t, ht', hfound, hage | hlost⟩ := found_of_good hages hm hn hgood
    · have hsupported : r.Supported key n maxAge t₀ := ⟨t, ht', hfound, Or.inl hage⟩
      exact Or.inl hsupported.next
    · have hsupported : r.Supported key n maxAge t₀ := ⟨t, ht', hfound, Or.inr (Or.inr hlost)⟩
      exact Or.inl hsupported.next
  | @hear f known follows told =>
    have hpart : ids.part r.group c = some (.follow key f) := by
      rw [Direction.part, follows, Option.bind_some, ids.part?_follow]
    rw [FlightTable.poll] at told
    cases ids_complete.awaited r hordered hpart (hold follows) with
    | pending hf =>
      rw [hf] at told
      cases told
    | ended before t rest m attempts since value hf =>
      rw [hf] at told
      obtain rfl : some m = known := Option.some.inj told
      have hn : m.id = some n := (Answer.id.inj hb).symm
      exact Or.inl (supported_of_ended hordered attempts since value hn).next
    | restored prev gone hf => exact Or.inr ⟨f, prev, follows, gone⟩
  | @finish f prev d t leads ends ended =>
    have hpart : ids.part r.group c = some (.lead key f prev) := by
      rw [Direction.part, leads, Option.bind_some, ids.part?_lead]
    have hprev : prev = Mapping.after key (r.attempts (.id key)) :=
      hr.traffic.lead_previous c key f prev hpart
    subst hprev
    have hattempts : (r.next now a).attempts (.id key) = r.attempts (.id key) ++ t :: [] := by
      have hends : (r.moment now a).endsOn? (.id key) = some t := ends
      rw [r.attempts_next, hends, Option.toList_some]
    have since : t₀.nanos ≤ t.ended.nanos := by
      rw [ended]
      exact startedAt_le ordered ht
    exact Or.inl (supported_of_ended ordered hattempts since Mapping.after_concat
      (Answer.id.inj hb).symm)

/-- **Served ids are fresh.** A lookup that started at `t₀` and is answered with an id now serves one
that was found less than `maxAge` before it started, or later, unless an attempt has failed since, or
the lookup waited for an attempt that was given up. -/
theorem id_freshness (r : Run) (maxAge : Duration)
    (shared : ∀ u ∈ r.setups, u.config.maxAge = maxAge) (now : Instant) (a : Group.Action)
    (ordered : (r.next now a).Ordered) (c i : Nat) (key : Key) (n : SchemaId) (t₀ : Instant)
    (started : (r.next now a).started[c]? = some (i, .id key))
    (startedAt : (r.next now a).startedAt[c]? = some t₀)
    (running : r.group.progress? c ≠ some (.answered (.id (some n))))
    (returned : (r.next now a).group.progress? c = some (.answered (.id (some n)))) :
    (∃ t ∈ (r.next now a).attempts (.id key), t.id? = some n ∧ t.ended.nanos ≤ now.nanos ∧
      (t₀.nanos < t.ended.nanos + maxAge.nanos ∨ t₀.nanos ≤ t.ended.nanos ∨
        (∃ t' ∈ (r.next now a).attempts (.id key), t'.id? = none ∧
          t.ended.nanos < t'.ended.nanos ∧ t'.ended.nanos ≤ now.nanos) ∨
        ∃ f prev, r.group.progress? c = some (.followId key f) ∧ ids.GivenUp r key f prev)) ∧
    -- so an older id is never served while the registry answers and nobody is given up
    ((∀ t ∈ (r.next now a).attempts (.id key), t.id?.isSome) →
      (∀ m ∈ r.past, ∀ c', m.action ≠ .cancel c') →
      ∃ t ∈ (r.next now a).attempts (.id key), t.id? = some n ∧
        (t₀.nanos < t.ended.nanos + maxAge.nanos ∨ t₀.nanos ≤ t.ended.nanos)) := by
  have hle := fun t => ids_complete.attempts_le ordered (k := key) (t := t)
  have hret := ids_complete.returns started running returned
  obtain ⟨t, ht, hfound, hage⟩ | ⟨f, prev, follows, gone⟩ :=
    supported_of_returns shared ordered startedAt rfl hret
  · refine ⟨⟨t, ht, hfound, hle t ht, ?_⟩, ?_⟩
    · obtain hage | hsince | ⟨t', ht', hlost, hlt⟩ := hage
      · exact Or.inl hage
      · exact Or.inr (Or.inl hsince)
      · exact Or.inr (Or.inr (Or.inl ⟨t', ht', hlost, hlt, hle t' ht'⟩))
    · intro answers _
      obtain hage | hsince | ⟨t', ht', hlost, -⟩ := hage
      · exact ⟨t, ht, hfound, Or.inl hage⟩
      · exact ⟨t, ht, hfound, Or.inr hsince⟩
      · have hsome := answers t' ht'
        rw [hlost] at hsome
        cases hsome
  · obtain ⟨t, ht, hfound⟩ := exists_attempt_of_id started returned
    refine ⟨⟨t, ht, hfound, hle t ht, Or.inr (Or.inr (Or.inr ⟨f, prev, follows, gone⟩))⟩, ?_⟩
    intro _ nobody
    obtain ⟨m, hm, c', d, hcancel, -⟩ := gone
    exact absurd hcancel (nobody m hm c')

/-- A handler finds an id, and asks again once it has expired. -/
def askedAgain : Run where
  setups := [⟨1, .standard, .record⟩]
  schedule :=
    [(.ofMillis 0, .start 0 (.id ⟨"a", "1"⟩)),
      (.ofMillis 1000, .receive 0 (some "\x7b\"globalId\":1\x7d")),
      (.ofMillis 302000, .start 0 (.id ⟨"a", "1"⟩))]

/-- The id is served once more when the registry is silent. -/
theorem id_freshness_askedAgain :
    ∃ t ∈ (askedAgain.next (.ofMillis 303000) (.receive 1 none)).attempts (.id ⟨"a", "1"⟩),
      t.id? = none ∧ t.ended.nanos ≤ 303000000000 := by
  have ordered : (askedAgain.next (.ofMillis 303000) (.receive 1 none)).Ordered := by
    unfold Ordered
    decide
  obtain ⟨⟨t, ht, hfound, -, hage⟩, -⟩ := id_freshness askedAgain (.ofSecs 300) (by decide)
    (.ofMillis 303000) (.receive 1 none) ordered 1 0 ⟨"a", "1"⟩ ⟨1⟩ (.ofMillis 302000)
    (by decide) (by decide) (by decide +kernel) (by decide +kernel)
  have hended : t.ended.nanos = 1000000000 := by
    have hall : ∀ t ∈ (askedAgain.next (.ofMillis 303000) (.receive 1 none)).attempts
        (.id ⟨"a", "1"⟩), t.id? = some ⟨1⟩ → t.ended.nanos = 1000000000 := by decide +kernel
    exact hall t ht hfound
  have hleads : (askedAgain.group.deadline? 1).isSome = true := by decide +kernel
  rw [hended] at hage
  obtain hlt | hle | ⟨t', ht', hlost, -, hle⟩ | ⟨f, -, follows, -⟩ := hage
  · exact absurd hlt (by decide)
  · exact absurd hle (by decide)
  · exact ⟨t', ht', hlost, hle⟩
  · rw [Group.deadline?, follows] at hleads
    cases hleads

end Run

end SchemaCatalog
