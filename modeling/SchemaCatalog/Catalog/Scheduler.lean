import SchemaCatalog.Catalog.Group

/-!
# Many calls on one clock

Tasks run one at a time, in the order in which they are started or woken, until they have to wait.
The clock stands still while any task can run, and then goes straight to the next deadline.

* `Registry`: the reply of each path, and when it arrives.
* `Job`, `JobResult`: what a task does, and what comes of it.
* `Scheduler`: the groups of handlers, the tasks, the queue of those that can run, and the
  deadlines.
* `Scheduler.poll`: a leader hears the reply that has arrived, or its timer runs off.
* `Scheduler.spawn`, `Scheduler.abort`, `Scheduler.settle`, `Scheduler.await`, `Scheduler.sleep`.
-/

namespace SchemaCatalog

/-! ## Registry -/

/-- How the registry replies on a path: with a body or a failure after some milliseconds, or not at
all. -/
inductive Reply
  | after (ms : Nat) (body : Option String)
  | never
  deriving DecidableEq, Repr

/-- A reply and the millisecond at which it is there. -/
structure Arrival where
  time : Nat
  body : Option String
  deriving DecidableEq, Repr

/-- The replies that were set for paths, the last one first. -/
structure Registry where
  replies : List (String × Reply)
  deriving Repr

namespace Registry

/-- A registry that fails on every path. -/
def empty : Registry := ⟨[]⟩

def set (r : Registry) (path : String) (reply : Reply) : Registry := ⟨(path, reply) :: r.replies⟩

/-- The reply of a path; a path without one fails at once. -/
def reply (r : Registry) (path : String) : Reply := (r.replies.lookup path).getD (.after 0 none)

/-- What arrives for a request that is sent at `now`. -/
def arrival? (r : Registry) (now : Nat) (path : String) : Option Arrival :=
  match r.reply path with
  | .after ms body => some ⟨now + ms, body⟩
  | .never => none

end Registry

/-! ## Jobs -/

/-- What a task does: it looks something up, reads or writes a record, or describes the handler. -/
inductive Job
  | id (key : Key)
  | content (id : SchemaId)
  | entry (id : SchemaId)
  | recordId (data : List UInt8)
  | decode (traceId streamId : UInt64) (data sink : List UInt8) (decoder : PayloadCodec)
  | encode (traceId streamId : UInt64) (id : SchemaId) (value sink : List UInt8)
      (encoder : PayloadCodec)
  | describe

/-- What a handler tells about itself. `padding` is the headroom to reserve for an envelope and `width`
the number of bytes of an id. -/
structure Description where
  catalogId : UInt64
  config : Config
  padding : Nat
  width : Nat
  text : String
  cacheText : String

/-- What comes of a job. -/
inductive JobResult
  | id (id : Option SchemaId)
  | content (s : Option String)
  | entry (r : Option ResolvedSchema)
  | delivered (d : Delivered)
  | description (d : Description)

namespace Job

/-- What a job asks first, if it is a lookup. -/
def question? : Job → Option Question
  | id key => some (.id key)
  | content schema | entry schema => some (.content schema)
  | _ => none

/-- What comes of a job when its lookup is answered. -/
def ofAnswer (job : Job) : Answer → JobResult
  | .id i => .id i
  | .content s =>
    match job with
    | entry schema => .entry (s.map fun text => ⟨schema, text⟩)
    | _ => .content s

def immediate (job : Job) (cache : SharedCache) (h : Handler) : JobResult :=
  let e := h.config.idEncoding
  match job with
  | recordId data => .id (Envelope.id? e data)
  | decode traceId streamId data sink decoder =>
    .delivered (Envelope.decode e traceId streamId data sink decoder)
  | encode traceId streamId schema value sink encoder =>
    .delivered (Envelope.encode e traceId streamId schema value sink encoder)
  | _ =>
    .description
      ⟨h.catalogId, h.config, Envelope.maxLength, e.width, h.describe cache, cache.describe⟩

end Job

/-! ## Tasks -/

/-- How far a task is. A lookup has its number in the group and what arrives for its request. -/
inductive TaskState
  | fresh
  | looking (call : Nat) (arrival : Option Arrival)
  | done (r : JobResult)
  | cancelled

/-- A job on a handler of a group. A doomed task is cancelled at its next run. -/
structure Task where
  group : Nat
  handler : Nat
  job : Job
  state : TaskState
  doomed : Bool

namespace Task

def isOver (t : Task) : Bool :=
  match t.state with
  | .done _ | .cancelled => true
  | _ => false

/-- The result; nothing for a task that is cancelled or not over. -/
def result? (t : Task) : Option JobResult :=
  match t.state with
  | .done r => some r
  | _ => none

end Task

/-- Tasks on one clock that counts milliseconds, in the order of their start. The next task that can
run stands first in `ready`; `deadlines` are in the order in which they were set. -/
structure Scheduler where
  now : Nat
  registry : Registry
  groups : List Group
  tasks : List Task
  ready : List Nat
  deadlines : List (Nat × Nat)
  requests : List String
  events : List (EventSink × Event)

namespace Scheduler

def start (groups : List Group) : Scheduler := ⟨0, .empty, groups, [], [], [], [], []⟩

/-- Forgets which requests and events there were. -/
def forget (s : Scheduler) : Scheduler := { s with requests := [], events := [] }

def handler? (s : Scheduler) (group handler : Nat) : Option (SharedCache × Handler) :=
  (s.groups[group]?).bind fun g => (g.handlers[handler]?).map fun h => (g.cache, h)

def setState (s : Scheduler) (n : Nat) (t : Task) (state : TaskState) : Scheduler :=
  { s with tasks := s.tasks.set n { t with state } }

/-- Ends a task; its deadlines do not count any more. -/
def finish (s : Scheduler) (n : Nat) (t : Task) (state : TaskState) : Scheduler :=
  { s.setState n t state with deadlines := s.deadlines.filter fun d => d.2 ≠ n }

/-- Lets an action happen in the group of a task. -/
def act (s : Scheduler) (t : Task) (a : Group.Action) : Scheduler × Option String :=
  match s.groups[t.group]? with
  | some g =>
    let (g, effect) := g.step (.ofMillis s.now) a
    let sink := ((g.handlers[t.handler]?).map Handler.sink).getD .discard
    ({ s with
        groups := s.groups.set t.group g
        requests := s.requests ++ effect.request.toList
        events := s.events ++ effect.events.map fun e => (sink, e) },
      effect.request)
  | none => (s, none)

def progress? (s : Scheduler) (t : Task) (call : Nat) : Option Progress :=
  (s.groups[t.group]?).bind fun g => g.progress? call

/-- Whether the lookup of a task waits for another one and could go on. -/
def canResume (s : Scheduler) (t : Task) : Bool :=
  match t.state with
  | .looking call _ =>
    match s.groups[t.group]?, s.progress? t call with
    | some g, some (.followContent _ flight) => (g.cache.schemas.poll flight).isSome
    | some g, some (.followId _ flight) => (g.cache.ids.poll flight).isSome
    | _, _ => false
  | _ => false

/-- Wakes the tasks whose lookups could go on. -/
def wake (s : Scheduler) : Scheduler :=
  let woken := (List.range s.tasks.length).filter fun n =>
    !s.ready.contains n && ((s.tasks[n]?).map s.canResume).getD false
  { s with ready := s.ready ++ woken }

/-- Ends a task if its lookup is answered. -/
def conclude (s : Scheduler) (n : Nat) (t : Task) (call : Nat) : Scheduler :=
  match (s.progress? t call).bind Progress.answer? with
  | some a => s.finish n t (.done (t.job.ofAnswer a))
  | none => s

/-- What a leader finds when it is woken: the reply, if it is there, and else the timer. -/
def finds (s : Scheduler) (call : Nat) : Option Arrival → Group.Action
  | some a => if a.time ≤ s.now then .receive call a.body else .expire call
  | none => .expire call

/-- A leader looks whether the reply is there or its time is over. -/
def poll (s : Scheduler) (n : Nat) (t : Task) (call : Nat) (arrival : Option Arrival) :
    Scheduler :=
  (((s.act t (s.finds call arrival)).1).conclude n t call).wake

/-- The first run of a task that looks something up. A leader is woken when the reply arrives, and at
the deadline that its turn has set. -/
def begin (s : Scheduler) (n : Nat) (t : Task) (q : Question) : Scheduler :=
  let call := ((s.groups[t.group]?).map fun g => g.calls.length).getD 0
  let (s, request) := s.act t (.start t.handler q)
  match request with
  | none => (s.setState n t (.looking call none)).conclude n t call
  | some path =>
    let arrival := s.registry.arrival? s.now path
    let deadline := (s.progress? t call).bind Progress.deadline?
    let times := (arrival.map Arrival.time).toList ++ (deadline.map Instant.ceilMillis).toList
    { s.setState n t (.looking call arrival) with
      deadlines := s.deadlines ++ times.map fun time => (time, n) }.poll n t call arrival

def drop (s : Scheduler) (n : Nat) (t : Task) : Scheduler :=
  let s :=
    match t.state with
    | .looking call _ => (s.act t (.cancel call)).1
    | _ => s
  (s.finish n t .cancelled).wake

/-- Runs task number `n` until it has to wait. -/
def runTask (s : Scheduler) (n : Nat) : Scheduler :=
  match s.tasks[n]? with
  | none => s
  | some t =>
    if t.isOver then s
    else if t.doomed then s.drop n t
    else
      match t.state with
      | .looking call arrival =>
        if ((s.progress? t call).bind Progress.deadline?).isSome then s.poll n t call arrival
        else ((s.act t (.resume call)).1).conclude n t call
      | _ =>
        match t.job.question? with
        | some q => s.begin n t q
        | none =>
          match s.handler? t.group t.handler with
          | some (cache, h) => s.setState n t (.done (t.job.immediate cache h))
          | none => s.setState n t .cancelled

/-- Runs tasks as long as any can run. -/
def runReady : Nat → Scheduler → Scheduler
  | 0, s => s
  | fuel + 1, s =>
    match s.ready with
    | [] => s
    | n :: rest => runReady fuel ({ s with ready := rest }.runTask n)

/-- Runs tasks until all of them wait. A task runs at most four times: to begin, at its deadline,
when its flight is settled, and when it is cancelled. -/
def settle (s : Scheduler) : Scheduler := runReady (4 * s.tasks.length + s.ready.length) s

/-! ## Calls from outside -/

def spawn (s : Scheduler) (group handler : Nat) (job : Job) : Nat × Scheduler :=
  let n := s.tasks.length
  let task : Task := ⟨group, handler, job, .fresh, false⟩
  (n, { s with tasks := s.tasks ++ [task], ready := s.ready ++ [n] })

def abort (s : Scheduler) (n : Nat) : Scheduler :=
  match s.tasks[n]? with
  | some t =>
    if t.isOver then s
    else { s with tasks := s.tasks.set n { t with doomed := true }, ready := s.ready ++ [n] }
  | none => s

def nextDeadline? (s : Scheduler) : Option Nat := (s.deadlines.map Prod.fst).min?

/-- Moves the clock to `time` and wakes the tasks whose deadline it is. -/
def advance (s : Scheduler) (time : Nat) : Scheduler :=
  let (due, later) := s.deadlines.partition fun d => d.1 ≤ time
  { s with now := time, ready := s.ready ++ due.map Prod.snd, deadlines := later }

/-- Lets time pass up to `time`. -/
def runUntil (time : Nat) : Nat → Scheduler → Scheduler
  | 0, s => s.advance time
  | fuel + 1, s =>
    let s := s.settle
    match s.nextDeadline? with
    | some d => if d ≤ time then runUntil time fuel (s.advance d) else s.advance time
    | none => s.advance time

def sleep (s : Scheduler) (ms : Nat) : Scheduler :=
  let s := s.settle
  (runUntil (s.now + ms) (s.deadlines.length + 1) s).settle

/-- Lets time pass until a task is over. -/
def awaitWithin (n : Nat) : Nat → Scheduler → Scheduler
  | 0, s => s
  | fuel + 1, s =>
    let s := s.settle
    if ((s.tasks[n]?).map Task.isOver).getD true then s
    else
      match s.nextDeadline? with
      | some d => awaitWithin n fuel (s.advance d)
      | none => s

def await (s : Scheduler) (n : Nat) : Scheduler := awaitWithin n (s.tasks.length + 2) s

/-- What came of a task; nothing if it was cancelled. -/
def result? (s : Scheduler) (n : Nat) : Option JobResult := (s.tasks[n]?).bind Task.result?

def isRunning (s : Scheduler) (n : Nat) : Bool := ((s.tasks[n]?).map fun t => !t.isOver).getD false

end Scheduler

end SchemaCatalog
