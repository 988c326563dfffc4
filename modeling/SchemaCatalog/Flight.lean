/-!
# One attempt per key at a time

Each key has at most one attempt under way. The caller that starts it leads; callers that come
while it runs follow it.

* `Flight`: an attempt, which is pending until it settles on a value or is abandoned.
* `FlightTable`: every flight ever started, and the current one of each key.
* `FlightTable.claim`: who leads and who follows.
* `FlightTable.complete`, `FlightTable.cancel`: the two ways in which a leader settles its flight.
* `FlightTable.resolve`: a claim by a caller that does not stay.
-/

namespace SchemaCatalog

/-- The state of one attempt. It is abandoned if its leader went away and there was no earlier
value. -/
inductive Flight (α : Type)
  | pending
  | ready (a : α)
  | abandoned
  deriving DecidableEq, Repr

namespace Flight

variable {α : Type}

def isPending : Flight α → Bool
  | pending => true
  | _ => false

/-- The value, if there is one by now. -/
def value? : Flight α → Option α
  | ready a => some a
  | _ => none

theorem value?_eq_some {s : Flight α} {a : α} : s.value? = some a ↔ s = ready a := by
  cases s <;> simp [value?]

/-- What a waiter is told: nothing while the flight is pending, then its value, if any. -/
def outcome? : Flight α → Option (Option α)
  | pending => none
  | ready a => some (some a)
  | abandoned => some none

/-- The state in which a leader that gives up leaves its flight: the value that the flight had
replaced, if any. -/
def restored : Option α → Flight α
  | some a => ready a
  | none => abandoned

end Flight

/-- The part of a caller in an attempt: it has to settle `flight`, which replaces `previous`, or it
waits for it. Flights are named by their number in the table. -/
inductive Claim (α : Type)
  | lead (flight : Nat) (previous : Option α)
  | follow (flight : Nat)
  deriving DecidableEq, Repr

/-- What a caller that stays for a moment learns: whether it led, the value that its flight replaced
then, and what the flight came to, if it was settled. -/
structure Resolution (α : Type) where
  led : Bool
  previous : Option α
  outcome : Option (Option α)
  deriving DecidableEq, Repr

/-- The flights of a set of keys in the order of their start, and the number of the current flight
of each key, keys in the order of their first claim. -/
structure FlightTable (κ α : Type) where
  flights : List (Flight α)
  current : List (κ × Nat)
  deriving Repr

namespace FlightTable

section

variable {κ α : Type} [DecidableEq κ]

def empty : FlightTable κ α := ⟨[], []⟩

/-- The number of keys ever claimed. -/
def size (t : FlightTable κ α) : Nat := t.current.length

/-- The current flight of `k`. -/
def current? (t : FlightTable κ α) (k : κ) : Option Nat :=
  (t.current.find? fun e => e.1 = k).map Prod.snd

/-- The state of flight number `f`; a number that was never given out counts as abandoned. -/
def flight (t : FlightTable κ α) (f : Nat) : Flight α :=
  t.flights[f]?.getD .abandoned

/-- The value that `k` has settled on, if its current flight has one. -/
def peek (t : FlightTable κ α) (k : κ) : Option α :=
  (t.current? k).bind fun f => (t.flight f).value?

/-- The keys with `f` as the current flight of `k`. -/
def setCurrent (k : κ) (f : Nat) : List (κ × Nat) → List (κ × Nat)
  | [] => [(k, f)]
  | e :: rest => if e.1 = k then (k, f) :: rest else e :: setCurrent k f rest

/-- Starts a flight for `k`; its number is the count of flights before it. -/
def launch (t : FlightTable κ α) (k : κ) : FlightTable κ α :=
  ⟨t.flights ++ [.pending], setCurrent k t.flights.length t.current⟩

/-- Takes part in the attempt for `k`. A pending flight is followed. A settled value is followed
too, unless `replaceable` gives it up. In all other cases the caller leads a new flight. -/
def claim (t : FlightTable κ α) (k : κ) (replaceable : α → Bool) :
    Claim α × FlightTable κ α :=
  match t.current? k with
  | none => (.lead t.flights.length none, t.launch k)
  | some f =>
    match t.flight f with
    | .pending => (.follow f, t)
    | .abandoned => (.lead t.flights.length none, t.launch k)
    | .ready a =>
      if replaceable a then (.lead t.flights.length (some a), t.launch k) else (.follow f, t)

/-- The value about which a claim of `k` consults its predicate, if it does. -/
def consulted (t : FlightTable κ α) (k : κ) : Option α := t.peek k

def settle (t : FlightTable κ α) (f : Nat) (s : Flight α) : FlightTable κ α :=
  { t with flights := t.flights.set f s }

/-- The leader of `f` has got the value `a`. -/
def complete (t : FlightTable κ α) (f : Nat) (a : α) : FlightTable κ α :=
  t.settle f (.ready a)

/-- The leader of `f` goes away; the flight falls back to the value that it had replaced. -/
def cancel (t : FlightTable κ α) (f : Nat) (previous : Option α) : FlightTable κ α :=
  t.settle f (.restored previous)

/-- What a waiter on flight `f` is told. -/
def poll (t : FlightTable κ α) (f : Nat) : Option (Option α) :=
  (t.flight f).outcome?

/-- Takes part in the attempt for `k` for a moment. A leader gets `answer` at once, or goes away if
there is none; a follower looks at the flight once. -/
def resolve (t : FlightTable κ α) (k : κ) (replaceable : α → Bool) (answer : Option α) :
    Resolution α × FlightTable κ α :=
  match t.claim k replaceable with
  | (.lead f previous, t) =>
    match answer with
    | some a => (⟨true, previous, some (some a)⟩, t.complete f a)
    | none => (⟨true, previous, none⟩, t.cancel f previous)
  | (.follow f, t) => (⟨false, none, t.poll f⟩, t)

end

end FlightTable

end SchemaCatalog
