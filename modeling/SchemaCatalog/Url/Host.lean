import SchemaCatalog.Text.Utf8
import SchemaCatalog.Url.Domain
import SchemaCatalog.Url.Escape
import SchemaCatalog.Url.Ipv6

/-!
# Hosts

* `Host.parseSpecial`: the host of a scheme such as `http`: a domain name or an address.
* `Host.parseOpaque`: the host of any other scheme.
-/

namespace SchemaCatalog.Url.Host

/-- The address between brackets. -/
def parseBracketed (s : List Char) : Except Url.Error (List Char) :=
  if s.getLast? = some ']' then (Ipv6.parse s.dropLast).map Ipv6.text else .error .ipv6

/-- The host of a scheme whose hosts are domain names or addresses. -/
def parseSpecial : List Char → Except Url.Error (List Char)
  | '[' :: rest => parseBracketed rest
  | s =>
    match (Text.ofUtf8? (Percent.decode s)).bind fun name => Domain.toAscii? name.toList with
    | none => .error .domainName
    | some [] => .error .emptyHost
    | some name => if Ipv4.endsInNumber name then (Ipv4.parse name).map Ipv4.text else .ok name

def isForbidden (c : Char) : Bool :=
  c.toNat = 0 ||
    ['\t', '\n', '\r', ' ', '#', '/', ':', '<', '>', '?', '@', '[', '\\', ']', '^', '|'].contains c

/-- The host of any other scheme, which is kept as it is. -/
def parseOpaque : List Char → Except Url.Error (List Char)
  | '[' :: rest => parseBracketed rest
  | s => if s.any isForbidden then .error .hostCharacter else .ok (escape inControls s)

end SchemaCatalog.Url.Host
