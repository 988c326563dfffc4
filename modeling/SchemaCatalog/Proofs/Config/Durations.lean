import SchemaCatalog.Config.Limits
import Mathlib.Algebra.Group.Nat.Defs
import Mathlib.Data.List.Induction

/-!
# Changes and limits agree on durations

* `Config.Change`: one change. `Config.change`: what it makes of a configuration.
* `Timing`: a field that holds a duration, with its unit and limits.
* `Timing.toNat_value_change`: what one change makes of such a field. `Timing.toNat_value_changed`:
  what any number of them make of it.
* `Timing.filter_violations`: the limits are those of the check.
* **`Config.durations_agree`**: only a duration that is too long is found fault with.
-/

namespace SchemaCatalog

/-! ## Changes -/

namespace Config

/-- One change to a configuration. -/
inductive Change
  | groupId (s : String)
  | useId (u : UseId)
  | idEncoding (e : IdEncoding)
  | maxAge (d : Duration)
  | retryInitialDelay (d : Duration)
  | requestTimeout (d : Duration)
  | cacheCapacity (n : UInt64)

def change (c : Config) : Change → Config
  | .groupId s => c.withGroupId s
  | .useId u => c.withUseId u
  | .idEncoding e => c.withIdEncoding e
  | .maxAge d => c.withMaxAge d
  | .retryInitialDelay d => c.withRetryInitialDelay d
  | .requestTimeout d => c.withRequestTimeout d
  | .cacheCapacity n => c.withCacheCapacity n

/-- The configuration that changes start from: for an address, if there is one. -/
def initial : Option String → Config
  | none => standard
  | some url => ofUrl url

/-- The configuration after any number of changes. -/
def changed (url : Option String) (ks : List Change) : Config := ks.foldl change (initial url)

theorem toNat_clamp (n : Nat) : (clamp n).toNat = min n (2 ^ 64 - 1) := by
  show (UInt64.ofNat (min n (2 ^ 64 - 1))).toNat = min n (2 ^ 64 - 1)
  rw [UInt64.toNat_ofNat', Nat.mod_eq_of_lt (by omega)]

end Config

/-! ## Fields that hold durations -/

/-- A field that holds a duration. -/
inductive Timing
  | maxAge
  | retryInitialDelay
  | requestTimeout

namespace Timing

open Config

def field : Timing → Field
  | maxAge => .maxAgeSecs
  | retryInitialDelay => .retryInitialDelayMs
  | requestTimeout => .requestTimeoutMs

/-- The nanoseconds in a unit of the field. -/
def unit : Timing → Nat
  | maxAge => 1000000000
  | retryInitialDelay => 1000000
  | requestTimeout => 1000000

def least : Timing → Nat
  | maxAge => 1
  | retryInitialDelay => 1
  | requestTimeout => 100

def most : Timing → Nat
  | maxAge => 86400
  | retryInitialDelay => 3600000
  | requestTimeout => 300000

/-- The value that is there at first. -/
def usual : Timing → Nat
  | maxAge => 300
  | retryInitialDelay => 1000
  | requestTimeout => 10000

def value : Timing → Config → UInt64
  | maxAge, c => c.maxAgeSecs
  | retryInitialDelay, c => c.retryInitialDelayMs
  | requestTimeout, c => c.requestTimeoutMs

/-- The duration that a change gives to the field, if it is about it. -/
def given? : Timing → Change → Option Duration
  | maxAge, .maxAge d => some d
  | retryInitialDelay, .retryInitialDelay d => some d
  | requestTimeout, .requestTimeout d => some d
  | _, _ => none

/-- The last duration that changes give to the field. -/
def last? (t : Timing) (ks : List Change) : Option Duration := (ks.filterMap t.given?).getLast?

/-- The whole units in a duration. -/
def whole (t : Timing) (d : Duration) : Nat := d.nanos / t.unit

/-- What is kept of a duration: its whole units, as far as a word can hold them, and no less than is
allowed. -/
def kept (t : Timing) (d : Duration) : Nat := max t.least (min (t.whole d) (2 ^ 64 - 1))

variable (t : Timing)

/-! ## Values -/

theorem toNat_value_initial (url : Option String) : (t.value (initial url)).toNat = t.usual := by
  cases t <;> cases url <;> rfl

/-- A change keeps its own duration, and no other change touches the field. -/
theorem toNat_value_change (c : Config) (k : Change) :
    (t.value (c.change k)).toNat = (t.given? k).elim (t.value c).toNat t.kept := by
  have hclamp : ∀ n least : Nat, least ≤ 2 ^ 64 - 1 →
      (clamp (max n least)).toNat = max least (min n (2 ^ 64 - 1)) := by
    intro n least h
    rw [toNat_clamp]
    omega
  cases t <;> cases k <;> first
    | rfl
    | exact hclamp _ _ (by decide)

/-- **The last duration is kept**, however many changes there are. -/
theorem toNat_value_changed (url : Option String) (ks : List Change) :
    (t.value (changed url ks)).toNat = (t.last? ks).elim t.usual t.kept := by
  unfold changed
  induction ks using List.reverseRecOn with
  | nil => exact t.toNat_value_initial url
  | append_singleton ks k ih =>
    have hlast : t.last? (ks ++ [k]) = (t.given? k).or (t.last? ks) := by
      unfold last?
      rw [List.filterMap_append, List.getLast?_append]
      cases h : t.given? k <;> simp [h]
    rw [List.foldl_append, List.foldl_cons, List.foldl_nil, toNat_value_change, ih, hlast]
    cases t.given? k <;> rfl

/-! ## Limits -/

theorem filter_checkRange (f g : Field) (n : UInt64) (least most : Nat) :
    (checkRange f n least most).filter (fun v => v.field = g) =
      if f = g then checkRange f n least most else [] := by
  unfold checkRange
  split_ifs with h hfg hfg
  · rfl
  · rfl
  · simp [Violation.field, hfg]
  · simp [Violation.field, hfg]

theorem filter_violations (c : Config) :
    c.violations.filter (fun v => v.field = t.field) =
      checkRange t.field (t.value c) t.least t.most := by
  have hgroup : (checkLength .groupId c.groupId 1 255).filter (fun v => v.field = t.field) = [] := by
    unfold checkLength
    split_ifs
    · rfl
    · cases t <;> rfl
  have hurl : (checkUrl c.url).filter (fun v => v.field = t.field) = [] := by
    unfold checkUrl
    split_ifs
    · rfl
    · cases t <;> rfl
  unfold violations
  simp only [List.filter_append, filter_checkRange, hgroup, hurl]
  cases t <;> simp [field, value, least, most]

/-- A value that is not too small is found fault with exactly if it is too large. -/
theorem mem_violations_iff {c : Config} (h : t.least ≤ (t.value c).toNat) (v : Violation) :
    v ∈ c.violations ∧ v.field = t.field ↔
      v = .range t.field (t.value c) t.least t.most ∧ t.most < (t.value c).toNat := by
  have hmem : v ∈ c.violations ∧ v.field = t.field ↔
      v ∈ checkRange t.field (t.value c) t.least t.most := by
    rw [← filter_violations, List.mem_filter, decide_eq_true_iff]
  rw [hmem, checkRange]
  split_ifs with hin
  · simp only [List.not_mem_nil, false_iff]
    omega
  · rw [List.mem_singleton]
    exact (and_iff_left (by omega)).symm

/-! ## Both together -/

theorem least_le_kept (d : Duration) : t.least ≤ t.kept d := Nat.le_max_left _ _

theorem most_lt_kept_iff (d : Duration) : t.most < t.kept d ↔ t.most < t.whole d := by
  unfold kept
  generalize t.whole d = n
  cases t <;> simp only [most, least] <;> omega

theorem usual_mem : t.least ≤ t.usual ∧ t.usual ≤ t.most := by
  cases t <;> decide

theorem least_le_value_changed (url : Option String) (ks : List Change) :
    t.least ≤ (t.value (changed url ks)).toNat := by
  rw [toNat_value_changed]
  cases t.last? ks with
  | none => exact t.usual_mem.1
  | some d => exact t.least_le_kept d

theorem most_lt_value_changed_iff (url : Option String) (ks : List Change) :
    t.most < (t.value (changed url ks)).toNat ↔ ∃ d, t.last? ks = some d ∧ t.most < t.whole d := by
  rw [toNat_value_changed]
  cases t.last? ks with
  | none => simpa using t.usual_mem.2
  | some d => simpa using t.most_lt_kept_iff d

end Timing

/-- **Changes and limits agree on durations.** Whatever is changed, however often and in whichever
order, each field that holds a duration has its usual value until it is given one. Then it has the
last one given to it, rounded down to whole units, as far as a word holds them and raised to the
least value that the check allows. So the check never finds such a field too small, and it finds one
too large exactly if the whole units of the last duration given to it are more than it allows. -/
theorem Config.durations_agree (url : Option String) (ks : List Config.Change) (t : Timing) :
    ((t.value (Config.changed url ks)).toNat =
      match t.last? ks with
      | none => t.usual
      | some d => max t.least (min (t.whole d) (2 ^ 64 - 1))) ∧
    (∀ c : Config, c.violations.filter (fun v => v.field = t.field) =
      Config.checkRange t.field (t.value c) t.least t.most) ∧
    (∀ v ∈ (Config.changed url ks).violations, v.field = t.field →
      v = .range t.field (t.value (Config.changed url ks)) t.least t.most ∧
        t.most < (t.value (Config.changed url ks)).toNat) ∧
    ((∃ v ∈ (Config.changed url ks).violations, v.field = t.field) ↔
      ∃ d, t.last? ks = some d ∧ t.most < t.whole d) := by
  have hfound := t.mem_violations_iff (t.least_le_value_changed url ks)
  refine ⟨?_, t.filter_violations, fun v hv hfield => (hfound v).1 ⟨hv, hfield⟩, ?_⟩
  · rw [t.toNat_value_changed]
    cases t.last? ks <;> rfl
  · rw [← t.most_lt_value_changed_iff url]
    constructor
    · rintro ⟨v, hv⟩
      exact ((hfound v).1 hv).2
    · intro h
      exact ⟨_, (hfound _).2 ⟨rfl, h⟩⟩

/-- A duration below the limit, and one that no word holds. -/
example :
    (Config.standard.withRequestTimeout (.ofNanos 99999999)).requestTimeoutMs = 100 ∧
      (Config.standard.withRequestTimeout (.ofNanos Duration.maxNanos)).requestTimeoutMs =
        18446744073709551615 := by
  decide

end SchemaCatalog
