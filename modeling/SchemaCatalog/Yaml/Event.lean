import SchemaCatalog.Yaml.Token

/-!
# YAML events

* `Yaml.Event`: a node, flattened to the scalars, starts and ends that make it up.
* `Yaml.Frame`: what is expected next. A reader holds a stack of them.
* `EventReader.step`: handles the innermost frame.
-/

namespace SchemaCatalog.Yaml

/-- A node, or a part of one. An alias is the node that has this number among the named ones. -/
inductive Event
  | alias (number : Nat)
  | scalar (tag : Option String) (text : String) (style : Style)
  | sequenceStart (tag : Option String)
  | sequenceEnd
  | mappingStart (tag : Option String)
  | mappingEnd
  deriving DecidableEq, Repr

/-- A node that is left out. -/
def Event.empty : Event := .scalar none "" .plain

/-- The named nodes. A node gets the count of different names before it as its number, and so may
take the number of an earlier one. `places` has the place of each number among the events, the last
one first. -/
structure Anchors where
  names : List (String × Nat)
  places : List (Nat × Nat)
  deriving Repr

namespace Anchors

def none : Anchors := ⟨[], []⟩

/-- Names the node that starts at a place. -/
def insert (a : Anchors) (name : String) (place : Nat) : Anchors :=
  let number := a.names.length
  ⟨(name, number) :: a.names.filter (·.1 ≠ name), (number, place) :: a.places⟩

def number? (a : Anchors) (name : String) : Option Nat := a.names.lookup name

def place? (a : Anchors) (number : Nat) : Option Nat := a.places.lookup number

end Anchors

/-- What is expected next. A node may be a block, or a `bare` list, which is not indented. A pair
can be an item between brackets. `noValue` is a value that is left out, after a key without a mark.
-/
inductive Frame
  | node (block bare : Bool)
  | blockItems
  | bareItems
  | blockKey
  | blockValue
  | flowItems (first : Bool)
  | pairKey
  | pairValue
  | pairEnd
  | flowKey (first : Bool)
  | flowValue
  | noValue
  deriving DecidableEq, Repr

/-- The state of reading one node: what each handle of a tag stands for, what is expected, the
innermost first, the tokens to read, and the events so far with the named nodes among them. -/
structure EventReader where
  handles : List (String × String)
  frames : List Frame
  tokens : List Token
  events : Array Event
  anchors : Anchors
  deriving Repr

namespace EventReader

/-! ## Marks in front of a node -/

structure NodeMark where
  anchor : Option String
  tag : Option String
  deriving Repr

/-- The tag with a handle written out. -/
def fullTag? (handles : List (String × String)) (handle suffix : String) : Option String :=
  if handle = "" then some suffix else (handles.lookup handle).map (· ++ suffix)

/-- Reads an anchor and a tag in either order; fails for an unknown handle. -/
def readMark (handles : List (String × String)) : List Token → Option (NodeMark × List Token)
  | .anchor a :: .tag h s :: ts => (fullTag? handles h s).map fun t => (⟨some a, some t⟩, ts)
  | .anchor a :: ts => some (⟨some a, none⟩, ts)
  | .tag h s :: .anchor a :: ts => (fullTag? handles h s).map fun t => (⟨some a, some t⟩, ts)
  | .tag h s :: ts => (fullTag? handles h s).map fun t => (⟨none, some t⟩, ts)
  | ts => some (⟨none, none⟩, ts)

/-! ## Moves -/

/-- Adds an event, and goes on with other frames and tokens. -/
def emit (r : EventReader) (e : Event) (frames : List Frame) (ts : List Token) : EventReader :=
  { r with frames, tokens := ts, events := r.events.push e }

/-- Goes on with other frames and tokens. -/
def goOn (r : EventReader) (frames : List Frame) (ts : List Token) : EventReader :=
  { r with frames, tokens := ts }

/-- Gives the next event a name, if there is one. -/
def named (r : EventReader) : Option String → EventReader
  | some a => { r with anchors := r.anchors.insert a r.events.size }
  | none => r

/-- Reads a node up to its first event; fails for an unknown alias. A scalar whose tag is a single
exclamation mark has none. -/
def readNode (r : EventReader) (block bare : Bool) (frames : List Frame) : Option EventReader :=
  match r.tokens with
  | .alias a :: ts => (r.anchors.number? a).map fun n => r.emit (.alias n) frames ts
  | _ => do
    let (m, ts) ← readMark r.handles r.tokens
    let named := r.named m.anchor
    match ts with
    | .scalar text style :: ts =>
      return named.emit (.scalar (m.tag.filter (· ≠ "!")) text style) frames ts
    | .flowSequenceStart :: ts =>
      return named.emit (.sequenceStart m.tag) (.flowItems true :: frames) ts
    | .flowMappingStart :: ts =>
      return named.emit (.mappingStart m.tag) (.flowKey true :: frames) ts
    | t :: rest =>
      if bare ∧ t = .blockEntry then
        return named.emit (.sequenceStart m.tag) (.bareItems :: frames) ts
      else if block ∧ t = .blockSequenceStart then
        return named.emit (.sequenceStart m.tag) (.blockItems :: frames) rest
      else if block ∧ t = .blockMappingStart then
        return named.emit (.mappingStart m.tag) (.blockKey :: frames) rest
      else if m.anchor.isSome ∨ m.tag.isSome then
        return named.emit (.scalar m.tag "" .plain) frames ts
      else .none
    | [] => .none

/-- Expects a node, unless the next token is one of `ends`: then the node is left out. -/
def nodeUnless (r : EventReader) (ends : List Token) (node : Frame) (frames : List Frame)
    (ts : List Token) : Option EventReader :=
  match ts with
  | [] => none
  | t :: _ => some (if ends.contains t then r.emit .empty frames ts else r.goOn (node :: frames) ts)

/-- Reads an item of a list between brackets, or the end of the list. -/
def flowItem (r : EventReader) (frames : List Frame) (ts : List Token) : Option EventReader :=
  match ts with
  | .key :: ts => some (r.emit (.mappingStart none) (.pairKey :: .flowItems false :: frames) ts)
  | .flowSequenceEnd :: ts => some (r.emit .sequenceEnd frames ts)
  | [] => none
  | ts => some (r.goOn (.node false false :: .flowItems false :: frames) ts)

/-- Reads a key of a mapping between braces, or the end of the mapping. -/
def flowPair (r : EventReader) (frames : List Frame) (ts : List Token) : Option EventReader :=
  match ts with
  | .key :: ts =>
    r.nodeUnless [.value, .flowEntry, .flowMappingEnd] (.node false false)
      (.flowValue :: .flowKey false :: frames) ts
  | .flowMappingEnd :: ts => some (r.emit .mappingEnd frames ts)
  | [] => none
  | ts => some (r.goOn (.node false false :: .noValue :: .flowKey false :: frames) ts)

/-- Handles the innermost frame. -/
def step (r : EventReader) : Option EventReader :=
  match r.frames with
  | [] => some r
  | .node block bare :: frames => r.readNode block bare frames
  | .blockItems :: frames =>
    match r.tokens with
    | .blockEntry :: ts =>
      r.nodeUnless [.blockEntry, .blockEnd] (.node true false) (.blockItems :: frames) ts
    | .blockEnd :: ts => some (r.emit .sequenceEnd frames ts)
    | _ => none
  | .bareItems :: frames =>
    match r.tokens with
    | .blockEntry :: ts =>
      r.nodeUnless [.blockEntry, .key, .value, .blockEnd] (.node true false)
        (.bareItems :: frames) ts
    | [] => none
    | ts => some (r.emit .sequenceEnd frames ts)
  | .blockKey :: frames =>
    match r.tokens with
    | .key :: ts =>
      r.nodeUnless [.key, .value, .blockEnd] (.node true true) (.blockValue :: frames) ts
    | .blockEnd :: ts => some (r.emit .mappingEnd frames ts)
    | _ => none
  | .blockValue :: frames =>
    match r.tokens with
    | .value :: ts =>
      r.nodeUnless [.key, .value, .blockEnd] (.node true true) (.blockKey :: frames) ts
    | [] => none
    | ts => some (r.emit .empty (.blockKey :: frames) ts)
  | .flowItems first :: frames =>
    match first, r.tokens with
    | true, ts => r.flowItem frames ts
    | false, .flowSequenceEnd :: ts => some (r.emit .sequenceEnd frames ts)
    | false, .flowEntry :: ts => r.flowItem frames ts
    | false, _ => none
  | .pairKey :: frames =>
    match r.tokens with
    | [] => none
    | t :: ts =>
      if t = .value ∨ t = .flowEntry ∨ t = .flowSequenceEnd then
        some (r.emit .empty (.pairValue :: frames) ts)
      else some (r.goOn (.node false false :: .pairValue :: frames) (t :: ts))
  | .pairValue :: frames =>
    match r.tokens with
    | .value :: ts =>
      r.nodeUnless [.flowEntry, .flowSequenceEnd] (.node false false) (.pairEnd :: frames) ts
    | [] => none
    | ts => some (r.emit .empty (.pairEnd :: frames) ts)
  | .pairEnd :: frames => some (r.emit .mappingEnd frames r.tokens)
  | .flowKey first :: frames =>
    match first, r.tokens with
    | true, ts => r.flowPair frames ts
    | false, .flowMappingEnd :: ts => some (r.emit .mappingEnd frames ts)
    | false, .flowEntry :: ts => r.flowPair frames ts
    | false, _ => none
  | .flowValue :: frames =>
    match r.tokens with
    | .value :: ts =>
      r.nodeUnless [.flowEntry, .flowMappingEnd] (.node false false) frames ts
    | [] => none
    | ts => some (r.emit .empty frames ts)
  | .noValue :: frames => if r.tokens.isEmpty then none else some (r.emit .empty frames r.tokens)

/-- Reads on until nothing is expected; `false` says that a token did not fit. -/
def run : Nat → EventReader → EventReader × Bool
  | 0, r => (r, false)
  | fuel + 1, r =>
    if r.frames.isEmpty then (r, true)
    else
      match r.step with
      | some r => run fuel r
      | none => (r, false)

end EventReader

end SchemaCatalog.Yaml
