/-!
# URLs

* `Url`: a URL in its parts, each already percent-encoded.
* `Url.Error`: why a text is no URL, with its wording.
* `Url.text`: the parts put together.
-/

namespace SchemaCatalog

/-- Why a text is no URL: it has no scheme, no host where the scheme asks for one, a host that is no
domain name and no address, or a port that is no number below `2^16`. -/
inductive Url.Error
  | relative
  | emptyHost
  | domainName
  | hostCharacter
  | ipv4
  | ipv6
  | port
  deriving DecidableEq, Repr

namespace Url.Error

def message : Url.Error → String
  | relative => "relative URL without a base"
  | emptyHost => "empty host"
  | domainName => "invalid international domain name"
  | hostCharacter => "invalid domain character"
  | ipv4 => "invalid IPv4 address"
  | ipv6 => "invalid IPv6 address"
  | port => "invalid port number"

end Url.Error

/-- What stands between `//` and the path. The host may be empty, the password is not, and the port
is not the usual one of the scheme. -/
structure Url.Authority where
  username : List Char
  password : Option (List Char)
  host : List Char
  port : Option Nat
  deriving DecidableEq, Repr

/-- The path of a URL: a text without structure, or segments, each with a slash in front of it. -/
inductive Url.Path
  | opaqueText (s : List Char)
  | segments (segs : List (List Char))
  deriving DecidableEq, Repr

/-- A URL in its parts: the scheme in lower case, the query without its question mark, and the
fragment without its number sign. -/
structure Url where
  scheme : List Char
  authority : Option Url.Authority
  path : Url.Path
  query : Option (List Char)
  fragment : Option (List Char)
  deriving DecidableEq, Repr

namespace Url

namespace Authority

/-- Name and password in front of the host, with the at sign. -/
def credentials (a : Authority) : List Char :=
  if a.username.isEmpty ∧ a.password.isNone then []
  else a.username ++ (a.password.map (':' :: ·)).getD [] ++ ['@']

def text (a : Authority) : List Char :=
  a.credentials ++ a.host ++ (a.port.map fun p => ':' :: Nat.toDigits 10 p).getD []

end Authority

namespace Path

def text : Path → List Char
  | opaqueText s => s
  | segments segs => segs.flatMap ('/' :: ·)

end Path

/-- A path behind its authority. Without one, a path that starts with two slashes gets a dot segment
in front, as it would read as an authority otherwise. -/
def hierarchy (authority : Option Authority) (path : Path) : List Char :=
  match authority with
  | some a => '/' :: '/' :: a.text ++ path.text
  | none => (if ['/', '/'].isPrefixOf path.text then ['/', '.'] else []) ++ path.text

def text (u : Url) : String :=
  String.ofList <|
    u.scheme ++ ':' :: hierarchy u.authority u.path ++
    (u.query.map ('?' :: ·)).getD [] ++ (u.fragment.map ('#' :: ·)).getD []

end Url

end SchemaCatalog
