import SchemaCatalog.Json.Reader
import SchemaCatalog.SchemaId
import SchemaCatalog.Text.Percent
import SchemaCatalog.UseId

/-!
# Paths of the registry

* `RegistryPath.schema`: where the content of a schema is found.
* `RegistryPath.version`: where the ids of a subject at a version are found.
* `RegistryPath.idIn`: the id in the registry's answer.
-/

namespace SchemaCatalog.RegistryPath

/-- The version that stands for the newest one. -/
def latest : String := "latest"

def schema (useId : UseId) (id : SchemaId) : String :=
  match useId with
  | .contentId => "/apis/registry/v2/ids/contentIds/" ++ id.text
  | .globalId => "/apis/registry/v2/ids/globalIds/" ++ id.text

/-- The path of the metadata of a subject at a version. Group, subject and version are encoded as
one segment each. -/
def version (group subject version : String) : String :=
  "/apis/registry/v2/groups/" ++ String.ofList (Percent.encode group) ++
  "/artifacts/" ++ String.ofList (Percent.encode subject) ++
  (if version = latest then "/meta"
   else "/versions/" ++ String.ofList (Percent.encode version) ++ "/meta")

/-- The id in an answer: the member `name` of an object, if it is an integer literal below
`2^32`. -/
def idIn (body name : String) : Option SchemaId := do
  let answer ← Json.parse body.toList
  let n ← (← answer.member? name).asUInt64?
  SchemaId.ofNat? n.toNat

end SchemaCatalog.RegistryPath
