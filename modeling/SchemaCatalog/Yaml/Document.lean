import SchemaCatalog.Yaml.Event
import SchemaCatalog.Yaml.Lexer

/-!
# YAML documents

* `Yaml.Document`: the events of the first document of a text, as far as they can be read.
* `Document.ofTokens`, `Document.read`: reads it.
-/

namespace SchemaCatalog.Yaml

/-- The first document of a text: its events, up to a place that cannot be read if there is one, and
its named nodes. It is `sound` if the text can be read and holds nothing else. A text without a
document has no events. -/
structure Document where
  events : List Event
  anchors : Anchors
  sound : Bool
  deriving Repr

namespace Document

/-- The handles that are known without a directive. -/
def defaultHandles : List (String × String) := [("!", "!"), ("!!", "tag:yaml.org,2002:")]

/-- Reads the directives in front of a document. A version may be given once and has to be 1.1 or
1.2, and a handle may be given once. -/
def readDirectives : Bool → List (String × String) → List Token →
    Option (List (String × String) × List Token)
  | versioned, handles, .versionDirective major minor :: ts =>
    if versioned ∨ major ≠ 1 ∨ (minor ≠ 1 ∧ minor ≠ 2) then none else readDirectives true handles ts
  | versioned, handles, .tagDirective h front :: ts =>
    if (handles.lookup h).isSome then none else readDirectives versioned ((h, front) :: handles) ts
  | _, handles, ts => some (handles ++ defaultHandles, ts)

/-- Whether a token may stand in front of a document or after it, but not in it. -/
def isOutside : Token → Bool
  | .versionDirective _ _ | .tagDirective _ _ | .documentStart | .documentEnd | .streamEnd => true
  | _ => false

/-- Whether nothing but the end of the text follows. -/
def endsText (ts : List Token) : Bool :=
  (ts.dropWhile (· = .documentEnd)).head? = some .streamEnd

/-- Reads the node of a document. -/
def readRoot (handles : List (String × String)) (ts : List Token) : Document :=
  let r := EventReader.run (8 * ts.length + 8) ⟨handles, [.node true false], ts, #[], .none⟩
  ⟨r.1.events.toList, r.1.anchors, r.2 && endsText r.1.tokens⟩

def unreadable : Document := ⟨[], .none, false⟩

/-- Reads the first document of the tokens of a text. The start of the first document need not be
marked. -/
def ofTokens (ts : List Token) : Document :=
  match ts.drop 1 with
  | [] => unreadable
  | .streamEnd :: _ => ⟨[], .none, true⟩
  | t :: ts =>
    if isOutside t = false ∨ t = .documentEnd then readRoot defaultHandles (t :: ts)
    else
      match readDirectives false [] (t :: ts) with
      | some (handles, .documentStart :: ts) =>
        match ts with
        | [] => unreadable
        | t :: _ =>
          if isOutside t then ⟨[.empty], .none, endsText ts⟩ else readRoot handles ts
      | _ => unreadable

def read (s : List Char) : Document := ofTokens (tokens s)

end Document

end SchemaCatalog.Yaml
