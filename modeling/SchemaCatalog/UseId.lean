/-!
# Which id identifies a schema

* `UseId`: the global id of an artifact version, or the content id that equal contents share.
* `UseId.memberName`: the member of the registry's answers that carries it.
-/

namespace SchemaCatalog

/-- Which of the registry's ids is used: one for all versions with the same content, or one per
artifact version. -/
inductive UseId
  | contentId
  | globalId
  deriving DecidableEq, Repr

namespace UseId

/-- The member of an answer that carries the id. -/
def memberName : UseId → String
  | contentId => "contentId"
  | globalId => "globalId"

/-- The spellings that a configuration may use. -/
def spellings : List (String × UseId) :=
  [("contentId", contentId), ("content_id", contentId), ("globalId", globalId),
    ("global_id", globalId)]

def ofVariant? (s : String) : Option UseId := spellings.lookup s

end UseId

end SchemaCatalog
