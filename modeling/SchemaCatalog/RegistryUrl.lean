import SchemaCatalog.Url.Reader

/-!
# Address of the registry

* `RegistryUrl.parse`: the URL to which the paths of the registry are added.
* `RegistryUrl.Refused`: a text that is no URL, with the reason.
* `RegistryUrl.resolve`: where a path leads from there.
-/

namespace SchemaCatalog.RegistryUrl

/-- A text that is no URL, and why it is none. -/
structure Refused where
  url : String
  reason : Url.Error
  deriving DecidableEq, Repr

def Refused.message (r : Refused) : String :=
  "Invalid registry URL '" ++ r.url ++ "': " ++ r.reason.message

/-- The URL that a text spells. -/
def parse (s : String) : Except Refused Url :=
  (Url.parse s.toList).mapError fun reason => ⟨s, reason⟩

/-- The URL to which a path leads that starts with a single slash: it replaces the path of the base
and what comes after that. -/
def resolve (base : Url) (path : String) : Url :=
  let kind := Url.SchemeKind.ofScheme base.scheme
  let (rest, fragment) := Url.splitFragment (Url.significant path.toList)
  let (rest, query) := Url.splitQuery kind rest
  { base with path := .segments (Url.segmentsOf kind rest), query, fragment }

end SchemaCatalog.RegistryUrl
