import SchemaCatalog.Url.Host

/-!
# Reading URLs

An absolute URL. Blanks and controls around it are dropped, tabs and line ends anywhere.

* `Url.readScheme`, `Url.readAuthority`, `Url.readSegments`: the parts in their order.
* `Url.parse`: a whole text.
-/

namespace SchemaCatalog.Url

/-- How the rest of a URL is read after its scheme: with a host and this usual port, if it has one,
as the place of a file, whose host may be empty, or without either. -/
inductive SchemeKind
  | hosted (port : Option Nat)
  | file
  | other
  deriving DecidableEq, Repr

namespace SchemeKind

/-- The schemes with rules of their own. -/
def ofScheme (s : List Char) : SchemeKind :=
  if s = "http".toList ∨ s = "ws".toList then hosted (some 80)
  else if s = "https".toList ∨ s = "wss".toList then hosted (some 443)
  else if s = "ftp".toList then hosted (some 21)
  else if s = "file".toList then file
  else other

/-- Whether a backslash separates like a slash. -/
def isSpecial : SchemeKind → Bool
  | other => false
  | _ => true

def defaultPort : SchemeKind → Option Nat
  | hosted p => p
  | _ => none

end SchemeKind

/-! ## Characters -/

/-- Whether a character is dropped wherever it stands. -/
def isDropped (c : Char) : Bool := c = '\t' || c = '\n' || c = '\r'

def isTrimmed (c : Char) : Bool := decide (c.toNat ≤ 32)

/-- The characters of a text that count. -/
def significant (s : List Char) : List Char :=
  ((s.dropWhile isTrimmed).reverse.dropWhile isTrimmed).reverse.filter fun c => !isDropped c

/-- Whether a character separates segments. -/
def isSlash (kind : SchemeKind) (c : Char) : Bool := c = '/' || (kind.isSpecial && c = '\\')

/-! ## Scheme -/

/-- Whether a character may stand in a scheme after its first letter. -/
def isSchemeChar (c : Char) : Bool :=
  c.isAlphanum || c = '+' || c = '-' || c = '.'

/-- Splits a scheme and its colon off the front of a text. -/
def readScheme (s : List Char) : Option (List Char × List Char) :=
  match s.takeWhile isSchemeChar, s.dropWhile isSchemeChar with
  | c :: cs, ':' :: rest => if c.isAlpha then some ((c :: cs).map Char.toLower, rest) else none
  | _, _ => none

/-! ## Authority -/

/-- Splits a text at its last at sign. -/
def splitCredentials (s : List Char) : Option (List Char) × List Char :=
  if s.contains '@' then
    let host := (s.reverse.takeWhile (· ≠ '@')).reverse
    (some (s.take (s.length - host.length - 1)), host)
  else (none, s)

/-- Name and password, encoded; an empty password is dropped. -/
def readCredentials (s : List Char) : List Char × Option (List Char) :=
  let name := s.takeWhile (· ≠ ':')
  let password := (s.dropWhile (· ≠ ':')).drop 1
  (escape inUserinfo name, if password.isEmpty then none else some (escape inUserinfo password))

/-- Splits a host off the front of a text at the first colon that is not between brackets. -/
def splitHost (inBrackets : Bool) : List Char → List Char × List Char
  | [] => ([], [])
  | c :: cs =>
    if c = ':' ∧ inBrackets = false then ([], c :: cs)
    else
      let r := splitHost (if c = '[' then true else if c = ']' then false else inBrackets) cs
      (c :: r.1, r.2)

/-- The port with the digits at the front of `s`, and what follows them: nothing, or a backslash
that starts the path. No digits stand for no port, and so does the usual port. -/
def readPort (kind : SchemeKind) (s : List Char) : Except Url.Error (Option Nat × List Char) :=
  let digits := s.takeWhile Char.isDigit
  let rest := s.dropWhile Char.isDigit
  let n := Nat.ofDigitChars 10 digits 0
  if rest.headD '\\' ≠ '\\' ∨ 65535 < n then .error .port
  else if digits.isEmpty ∨ some n = kind.defaultPort then .ok (none, rest)
  else .ok (some n, rest)

def readHost (kind : SchemeKind) (s : List Char) : Except Url.Error (List Char) :=
  if kind = .other then Host.parseOpaque s
  else if s.isEmpty then .error .emptyHost
  else Host.parseSpecial s

/-- Reads the authority of a scheme other than that of files, and gives the part of it that belongs
to the path. `followed` says that the URL goes on after it. -/
def readAuthority (kind : SchemeKind) (followed : Bool) (s : List Char) :
    Except Url.Error (Authority × List Char) := do
  let (credentials, rest) := splitCredentials s
  if credentials = some [] ∧ rest.isEmpty ∧ followed then throw .emptyHost
  let (username, password) := readCredentials (credentials.getD [])
  let (hostText, rest) := splitHost false rest
  let host ← readHost kind hostText
  if host.isEmpty ∧ rest.isEmpty = false then throw .emptyHost
  let (port, rest) ← readPort kind (rest.drop 1)
  if host.isEmpty ∧ (username.isEmpty = false ∨ password.isSome) then throw .emptyHost
  return (⟨username, password, host, port⟩, rest)

/-! ## Path -/

/-- Whether a segment stands for the one itself. -/
def isSingleDot (s : List Char) : Bool :=
  let s := s.map Char.toLower
  s == ['.'] || s == ['%', '2', 'e']

/-- Whether a segment stands for the one above. -/
def isDoubleDot (s : List Char) : Bool :=
  let s := s.map Char.toLower
  s == ['.', '.'] || s == ['.', '%', '2', 'e'] || s == ['%', '2', 'e', '.'] ||
  s == ['%', '2', 'e', '%', '2', 'e']

/-- Whether a segment names a drive. -/
def isDriveLetter : List Char → Bool
  | [c, d] => c.isAlpha && (d = ':' || d = '|')
  | _ => false

/-- The segments without the last one; a drive is kept. -/
def pop : List (List Char) → List (List Char)
  | [] => []
  | s :: rest => if isDriveLetter s then s :: rest else rest

/-- Takes one more segment into the path, given in reverse order; `last` says that no slash follows
it. A dot segment in the end leaves an empty segment. -/
def push (kind : SchemeKind) (done : List (List Char)) (segment : List Char) (last : Bool) :
    List (List Char) :=
  if isDoubleDot segment then if last then [] :: pop done else pop done
  else if isSingleDot segment then if last then [] :: done else done
  else if kind = .file ∧ done.isEmpty ∧ isDriveLetter segment then [segment.take 1 ++ [':']]
  else escape inPath segment :: done

/-- Reads segments up to the end of the path. `done` holds the segments before and `current` the
characters of this one, both in reverse order. -/
def readSegments (kind : SchemeKind) (done : List (List Char)) (current : List Char) :
    List Char → List (List Char)
  | [] => (push kind done current.reverse true).reverse
  | c :: rest =>
    if isSlash kind c then readSegments kind (push kind done current.reverse false) [] rest
    else readSegments kind done (c :: current) rest

/-- The segments of a path, the slash in front left out. -/
def segmentsOf (kind : SchemeKind) (path : List Char) : List (List Char) :=
  match path with
  | c :: rest =>
      if isSlash kind c then readSegments kind [] [] rest else readSegments kind [] [] (c :: rest)
  | [] => readSegments kind [] [] []

/-- The segments of a path after an authority; it is empty only for schemes without rules of their
own. -/
def pathAfterAuthority (kind : SchemeKind) (path : List Char) : List (List Char) :=
  if kind = .other ∧ path.isEmpty then [] else segmentsOf kind path

/-- The segments without empty ones at the front, unless nothing else is left. -/
def trimEmpty : List (List Char) → List (List Char)
  | [] :: s :: rest => trimEmpty (s :: rest)
  | segs => segs

/-! ## Query and fragment -/

def splitFragment (s : List Char) : List Char × Option (List Char) :=
  match s.dropWhile (· ≠ '#') with
  | _ :: f => (s.takeWhile (· ≠ '#'), some (escape inFragment f))
  | [] => (s, none)

/-- Splits a text without fragment at the first question mark. -/
def splitQuery (kind : SchemeKind) (s : List Char) : List Char × Option (List Char) :=
  match s.dropWhile (· ≠ '?') with
  | _ :: q =>
    (s.takeWhile (· ≠ '?'), some (escape (if kind.isSpecial then inSpecialQuery else inQuery) q))
  | [] => (s, none)

/-! ## The whole -/

def readFile (s : List Char) : Except Url.Error (Option Authority × Path) := do
  let slashes := (s.take 2).takeWhile (isSlash .file)
  let noHost : Option Authority := some ⟨[], none, [], none⟩
  if slashes.length = 2 then
    let rest := s.drop 2
    let hostText := rest.takeWhile fun c => !isSlash .file c
    let path := rest.dropWhile fun c => !isSlash .file c
    if isDriveLetter hostText then
      return (noHost, .segments (trimEmpty (readSegments .file [] [] rest)))
    let host ← if hostText.isEmpty then pure [] else Host.parseSpecial hostText
    let host := if host = "localhost".toList then [] else host
    let segs := segmentsOf .file path
    let host := if (segs.head?.map isDriveLetter).getD false then [] else host
    return (some ⟨[], none, host, none⟩, .segments (trimEmpty segs))
  else
    return (noHost, .segments (trimEmpty (segmentsOf .file s)))

/-- The authority and path of a URL, given what stands between the colon of its scheme and its
query; `followed` says that a query or fragment comes after it. -/
def readHierarchy (kind : SchemeKind) (followed : Bool) (s : List Char) :
    Except Url.Error (Option Authority × Path) := do
  match kind with
  | .file => readFile s
  | .hosted _ =>
    let rest := s.dropWhile (isSlash kind)
    let path := rest.dropWhile fun c => !isSlash kind c
    let (authority, _) ← readAuthority kind (followed || !path.isEmpty)
      (rest.takeWhile fun c => !isSlash kind c)
    return (some authority, .segments (pathAfterAuthority kind path))
  | .other =>
    match s with
    | '/' :: '/' :: rest =>
      let path := rest.dropWhile (· ≠ '/')
      let (authority, more) ← readAuthority kind (followed || !path.isEmpty)
        (rest.takeWhile (· ≠ '/'))
      return (some authority, .segments (pathAfterAuthority kind (more ++ path)))
    | '/' :: rest => return (none, .segments (readSegments kind [] [] rest))
    | s => return (none, .opaqueText (escape inControls s))

def parse (text : List Char) : Except Url.Error Url :=
  match readScheme (significant text) with
  | none => .error .relative
  | some (scheme, rest) => do
    let kind := SchemeKind.ofScheme scheme
    let (rest, fragment) := splitFragment rest
    let (rest, query) := splitQuery kind rest
    let (authority, path) ← readHierarchy kind (fragment.isSome || query.isSome) rest
    return ⟨scheme, authority, path, query, fragment⟩

def isValid (text : String) : Bool := (parse text.toList).toOption.isSome

end SchemaCatalog.Url
